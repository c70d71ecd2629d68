import RpcBindings.Main
import RpcBindings.Proofs.Catalog.InPlace
import RpcBindings.Proofs.Command.Agreement
import RpcBindings.Proofs.Command.Containment
import RpcBindings.Proofs.Identifier
import RpcBindings.Proofs.Layout
import RpcBindings.Proofs.Options.Refusal
import RpcBindings.Proofs.Plugin.Escape
import RpcBindings.Proofs.Plugin.Selector
import RpcBindings.Proofs.Schema.Graph
import RpcBindings.Proofs.Support.History
import RpcBindings.Proofs.Target.Declarations
import RpcBindings.Proofs.Target.Distinct
import RpcBindings.Proofs.Target.Imports
import RpcBindings.Proofs.Target.QualifiedImports
import RpcBindings.Proofs.Target.ServicesOnly
