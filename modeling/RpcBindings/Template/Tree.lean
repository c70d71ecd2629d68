import RpcBindings.Value

/-! What a template means once it is read: text, expressions to print, choices and loops. -/
namespace RpcBindings.Template

inductive Expr where
  | literal (v : Value)
  | var (name : String)
  | member (object : Expr) (name : String)
  | call (function : Expr) (argument : Expr)
  | not (e : Expr)
  | and (left right : Expr)
  | or (left right : Expr)
  | equal (left right : Expr)

inductive Node where
  | text (s : List Char)
  | print (e : Expr)
  | choice (test : Expr) (yes no : List Node)
  /-- The body once for each item, or `empty` if there is none. -/
  | loop (var : String) (source : Expr) (body empty : List Node)

end RpcBindings.Template
