import RpcBindings.Proofs.Catalog
import RpcBindings.Proofs.Options
import RpcBindings.Proofs.Parameter
import RpcBindings.Proofs.Text.Lowercase
import RpcBindings.Plugin

/-! Languages that are chosen under one of several spellings. A spelling is read as it is written, the
options of a run differ in nothing but its lowercase form, and that finds the same target, so that a
request is answered as it would be under any other spelling. -/
namespace RpcBindings

open Outcome

/-! ### Spellings in a parameter -/

namespace Parameter

open Text

/-- A text can stand between commas if its lowercase form has neither commas nor blanks: these are
their own lowercase forms, and would show. -/
theorem clean_of_lower {s : List Char} (plain : ∀ c ∈ lower s, c ≠ ',' ∧ isBlank c = false) :
    Clean s where
  noComma member := by
    have apart : recased.all (CodeRun.isApart ⟨0x2C, 0x2C, 1⟩) = true := by decide +kernel
    have comma : Settled ',' := settled_of_apart apart rfl
    exact (plain _ (mem_lowerAfter comma member)).1 rfl
  trimmed := trimmed_of_forall fun c member => Bool.eq_false_iff.mpr fun blank => by
    have shown := (plain c (mem_lowerAfter (settled_of_isBlank blank) member)).2
    rw [blank] at shown
    cases shown

end Parameter

namespace Catalog

theorem key_mem_of_resolveName {c : Catalog} {language name : String}
    (resolved : c.resolveName language = .ok name) :
    key language ∈ c.targets.map (·.1) ++ c.aliases.map (·.1) := by
  have primary := resolveName_ok_iff.mp resolved
  cases registered : c.targets.lookup (key language) with
  | some target => exact List.mem_append_left _ (mem_names_iff.mpr ⟨target, registered⟩)
  | none =>
    rw [primary?_of_alias registered] at primary
    exact List.mem_append_right _ (mem_names_iff.mpr ⟨name, primary⟩)

/-- Whatever stands for a language can stand in a parameter. -/
theorem clean_of_builtin {language name : String}
    (resolved : builtin.resolveName language = .ok name) :
    Parameter.Clean language.toList ∧ language ≠ "" := by
  have listed := key_mem_of_resolveName resolved
  have plain : ∀ own ∈ builtin.targets.map (·.1) ++ builtin.aliases.map (·.1), own ≠ "" ∧
      (own.toList.all fun c => c != ',' && !Text.isBlank c) = true := by decide +kernel
  obtain ⟨some, chars⟩ := plain _ listed
  constructor
  · refine Parameter.clean_of_lower fun c member => ?_
    simpa using List.all_eq_true.mp chars c (by simpa [key] using member)
  · rintro rfl
    exact some rfl

/-- The generator for a language under any spelling is that for the target it stands for. -/
theorem createWith_of_resolveName {c : Catalog} {language name : String} {target : Target}
    (resolved : c.resolveName language = .ok name)
    (registered : c.targets.lookup name = some target) (options : Options) :
    c.createWith (key language) options = .ok { target, options } := by
  have primary := (primary?_key c language).trans (resolveName_ok_iff.mp resolved)
  rw [createWith, resolve_ok_iff.mpr ⟨primary, registered⟩]
  rfl

end Catalog

/-! ### What depends on the spelling -/

namespace Options

/-- A parameter that begins with a language: the language is in force unless it is chosen anew later,
and nothing else depends on it. -/
theorem ofParameter_language (rest : String) : ∃ own file overrides, ∀ language : String,
    Parameter.Clean language.toList → language ≠ "" →
      Request.ofParameter ("lang=" ++ language ++ "," ++ rest) =
        ⟨Option.getD own language, file, overrides⟩ := by
  let later := Parameter.entries rest.toList
  refine ⟨(later.reverse.lookup "lang").map fun own => if own = "" then defaultLanguage else own,
    path? ((later.reverse.lookup "config").getD ""),
    (putEntries [] (later.filter fun entry => entry.1 ≠ "lang" ∧ entry.1 ≠ "config")).map
      fun entry => (.string entry.1, .text entry.2), ?_⟩
  intro language clean some
  have pair : Parameter.CleanPair "lang".toList language.toList :=
    ⟨⟨by decide, by unfold Text.Trimmed; decide +kernel⟩, clean, by decide, by decide⟩
  have chars : ("lang=" ++ language ++ "," ++ rest).toList =
      Parameter.pairOf ("lang", language) ++ ',' :: rest.toList := by
    simp [Parameter.pairOf]
  have read : Parameter.read ("lang=" ++ language ++ "," ++ rest) =
      putEntries [("lang", language)] later := by
    rw [Parameter.read_eq, chars, Parameter.entries_cons pair]
    rfl
  have others := filter_putEntries (fun key => decide (key ≠ "lang" ∧ key ≠ "config"))
    [("lang", language)] later
  unfold Request.ofParameter
  simp only [read, lookup_putEntries, others]
  cases chosen : later.reverse.lookup "lang" with
  | none => simp [some, later]
  | some own => simp [later]

/-- A language shows in the options under its name and nowhere else, also where some settings are
there for it before any are given. -/
theorem load_relabel (language other : String) (overrides : Settings) (file : Option SettingsFile) :
    load other overrides file = ((load language overrides file).1,
      (load language overrides file).2.map fun o => { o with language := Catalog.key other }) := by
  have relabelled (settings : Settings) : ofSettings (Catalog.key other) settings =
      (ofSettings (Catalog.key language) settings).map
        fun o => { o with language := Catalog.key other } := by
    unfold ofSettings
    cases granularityOf settings with
    | error cause => rfl
    | ok granularity =>
      cases flag settings "bundle_runtime" with
      | error cause => rfl
      | ok bundled => cases flag settings "add_comments" <;> rfl
  cases read : fileSettings file with
  | error cause => rw [load_error read, load_error read]; rfl
  | ok settings =>
    rw [load_eq read, load_eq read]
    exact congrArg (Prod.mk _) (relabelled _)

end Options

/-- A generator goes by its target; the language in its options has no part in its output. -/
theorem Generator.runBuiltin_relabel (target : Target) (options : Options) (language : String)
    (files : List Schema.SchemaFile) :
    ({ target, options := { options with language } } : Generator).runBuiltin files =
      ({ target, options } : Generator).runBuiltin files := rfl

/-! ### Answers -/

namespace Plugin

/-- An answer by what the parameter says. -/
theorem Request.respond_parameter (r : Request) (parameter : String) (look : Path → Disk.Sight)
    (stack : Schema.Stack) : ({ r with parameter } : Request).respond look stack =
      (((Options.Request.ofParameter parameter).load look).1,
        respondTo (((Options.Request.ofParameter parameter).load look).2.mapError Failure.options >>=
          fun options => r.run options stack)) := by
  unfold respond result
  rcases (Options.Request.ofParameter parameter).load look with ⟨warnings, cause | options⟩ <;> rfl

/-- A run with options for one spelling of a language is the run with those for another. -/
theorem Request.run_spelling {language other name : String}
    (resolved : Catalog.builtin.resolveName language = .ok name)
    (resolvedToo : Catalog.builtin.resolveName other = .ok name) (r : Request) (options : Options)
    (stack : Schema.Stack) : r.run { options with language := Catalog.key language } stack =
      r.run { options with language := Catalog.key other } stack := by
  obtain ⟨target, registered⟩ :=
    Catalog.sound_builtin.registered (Catalog.resolveName_ok_iff.mp resolved)
  simp only [run, Catalog.createWith_of_resolveName resolved registered,
    Catalog.createWith_of_resolveName resolvedToo registered, mapError_ok, ok_bind,
    Generator.runBuiltin_relabel]

/-- Spellings of one language, aliases among them, give the same answer to a request, whatever else
its parameter says, whatever the files of settings hold and whether or not the request fails. -/
theorem respond_spelling {language other name : String}
    (resolved : Catalog.builtin.resolveName language = .ok name)
    (resolvedToo : Catalog.builtin.resolveName other = .ok name) (rest : String) (r : Request)
    (look : Path → Disk.Sight) (stack : Schema.Stack) :
    ({ r with parameter := "lang=" ++ language ++ "," ++ rest } : Request).respond look stack =
      ({ r with parameter := "lang=" ++ other ++ "," ++ rest } : Request).respond look stack := by
  obtain ⟨clean, some⟩ := Catalog.clean_of_builtin resolved
  obtain ⟨cleanToo, someToo⟩ := Catalog.clean_of_builtin resolvedToo
  obtain ⟨own, file, overrides, told⟩ := Options.ofParameter_language rest
  rw [Request.respond_parameter, Request.respond_parameter, told language clean some,
    told other cleanToo someToo]
  cases own with
  | some own => rfl
  | none =>
    simp only [Options.Request.load, Option.getD_none, Options.load_relabel "" language,
      Options.load_relabel "" other]
    cases (Options.load "" overrides (file.map fun path => ⟨path, look path⟩)).2 with
    | error cause => rfl
    | ok options =>
      simp only [map_ok, mapError_ok, ok_bind, Request.run_spelling resolved resolvedToo]

/-- A request for one file in a language that is spelled in some way, with settings from a file. -/
def spelled (language : String) : Request where
  wanted := ["a.proto"]
  parameter := "lang=" ++ language ++ "," ++ "config=c.json,extra"
  files := [{ name := some "a.proto" }]

theorem respond_spelling_alias :
    Catalog.builtin.resolveName "KT" = .ok "kotlin" ∧
    Catalog.builtin.resolveName "kotlin" = .ok "kotlin" ∧
    (spelled "KT").respond (fun _ => Options.noted.sight) Schema.Stack.usual =
      (spelled "kotlin").respond (fun _ => Options.noted.sight) Schema.Stack.usual := by
  have short : Catalog.builtin.resolveName "KT" = .ok "kotlin" := by
    rw [Catalog.resolveName_ok_iff]
    decide +kernel
  have long : Catalog.builtin.resolveName "kotlin" = .ok "kotlin" := by
    rw [Catalog.resolveName_ok_iff]
    decide +kernel
  exact ⟨short, long, respond_spelling short long "config=c.json,extra" (spelled "") _ _⟩

end Plugin

end RpcBindings
