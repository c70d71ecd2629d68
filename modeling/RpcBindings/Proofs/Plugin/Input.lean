import RpcBindings.Plugin
import RpcBindings.Proofs.Schema.Stack

/-! How the input of a request breaks it down: a file of settings whose bytes are no text or whose
document is beyond the limits, and schema files that lack parts, have names that are no text, or refer
to each other in rows that are too long for the stack. All else that is wrong with the input has an error
of its own. -/
namespace RpcBindings

open Outcome

namespace Options

def IsJson (path : Path) : Prop := Text.onString Text.lower path.suffix = ".json"

/-- How a file of settings breaks a run down, by what a look at it shows. -/
inductive ReadBreakdown (path : Path) : Disk.Sight → Breakdown → Prop where
  /-- The disk cannot even look for it. -/
  | tooLong : ReadBreakdown path (.error .nameTooLong) (.disk ⟨.nameTooLong, path⟩)
  /-- Its bytes are no text. -/
  | notText {bytes : ByteArray} {fault} : IsJson path →
      Text.decodeUtf8 bytes.data.toList = .error fault →
      ReadBreakdown path (.ok bytes) (.notText fault)
  /-- Its document exceeds a limit. -/
  | beyond {bytes : ByteArray} {text limit} : IsJson path →
      Text.decodeUtf8 bytes.data.toList = .ok text →
      Json.read (Text.unifyNewlines text) = .error (.beyond limit) →
      ReadBreakdown path (.ok bytes) (.limit limit)

theorem readBytes_broken_iff {path : Path} {bytes : ByteArray} {cause : Breakdown} :
    readBytes path bytes = .error (.broken cause) ↔
      (∃ fault, Text.decodeUtf8 bytes.data.toList = .error fault ∧ cause = .notText fault) ∨
      ∃ text limit, Text.decodeUtf8 bytes.data.toList = .ok text ∧
        Json.read (Text.unifyNewlines text) = .error (.beyond limit) ∧ cause = .limit limit := by
  cases decoded : Text.decodeUtf8 bytes.data.toList with
  | error fault => simp [readBytes, decoded, eq_comm]
  | ok text =>
    cases parsed : Json.read (Text.unifyNewlines text) with
    | ok v => cases v <;> simp [readBytes, decoded, parsed]
    | error failure => cases failure <;> simp [readBytes, decoded, parsed, eq_comm]

theorem readFile_ok_broken_iff {path : Path} {bytes : ByteArray} {cause : Breakdown} :
    readFile path (.ok bytes) = .error (.broken cause) ↔
      IsJson path ∧ readBytes path bytes = .error (.broken cause) := by
  have reading : readFile path (.ok bytes) =
      if Text.onString Text.lower path.suffix == ".json" then readBytes path bytes
      else .error (.fileNotJson path) := rfl
  rw [reading, IsJson]
  by_cases json : Text.onString Text.lower path.suffix = ".json"
  · simp only [json, beq_self_eq_true, if_true, true_and]
  · simp only [json, beq_false_of_ne json, Bool.false_eq_true, if_false, false_and, iff_false]
    nofun

/-- Of what the disk refuses only a name that is too long is not foreseen. -/
theorem readFile_error_broken_iff {path : Path} {error : DiskError} {cause : Breakdown} :
    readFile path (.error error) = .error (.broken cause) ↔
      error = .nameTooLong ∧ cause = .disk ⟨.nameTooLong, path⟩ := by
  simp only [readFile]
  generalize (Text.onString Text.lower path.suffix == ".json") = json
  cases error <;> cases json <;> simp [DiskError.isAbsence, eq_comm]

theorem readFile_broken_iff {path : Path} {sight : Disk.Sight} {cause : Breakdown} :
    readFile path sight = .error (.broken cause) ↔ ReadBreakdown path sight cause := by
  constructor
  · intro failed
    cases sight with
    | ok bytes =>
      obtain ⟨json, failed⟩ := readFile_ok_broken_iff.mp failed
      rcases readBytes_broken_iff.mp failed with ⟨fault, decoded, rfl⟩ |
        ⟨text, limit, decoded, parsed, rfl⟩
      · exact .notText json decoded
      · exact .beyond json decoded parsed
    | error error =>
      obtain ⟨rfl, rfl⟩ := readFile_error_broken_iff.mp failed
      exact .tooLong
  · intro broken
    cases broken with
    | tooLong => exact readFile_error_broken_iff.mpr ⟨rfl, rfl⟩
    | notText json decoded =>
      exact readFile_ok_broken_iff.mpr ⟨json, readBytes_broken_iff.mpr (.inl ⟨_, decoded, rfl⟩)⟩
    | beyond json decoded parsed =>
      exact readFile_ok_broken_iff.mpr
        ⟨json, readBytes_broken_iff.mpr (.inr ⟨_, _, decoded, parsed, rfl⟩)⟩

theorem flag_not_broken {settings : Settings} {key : String} {cause : Breakdown} :
    flag settings key ≠ .error (.broken cause) := by
  unfold flag
  split
  · nofun
  · split <;> nofun

theorem granularityOf_not_broken {settings : Settings} {cause : Breakdown} :
    granularityOf settings ≠ .error (.broken cause) := by
  unfold granularityOf
  split
  · nofun
  · split <;> nofun

/-- Settings that are wrong have an error of their own. -/
theorem ofSettings_not_broken {language : String} {settings : Settings} {cause : Breakdown} :
    ofSettings language settings ≠ .error (.broken cause) := by
  intro failed
  simp only [ofSettings, bind_error_iff, pure_ok, reduceCtorEq, and_false, exists_false,
    or_false] at failed
  rcases failed with failed | ⟨_, -, failed | ⟨_, -, failed⟩⟩
  · exact granularityOf_not_broken failed
  · exact flag_not_broken failed
  · exact flag_not_broken failed

/-- Only a file of settings breaks the options of a request down. -/
theorem load_broken_iff {language : String} {overrides : Settings} {file : Option SettingsFile}
    {cause : Breakdown} :
    (load language overrides file).2 = .error (.broken cause) ↔
      ∃ f ∈ file, ReadBreakdown f.path f.sight cause := by
  have merging : (load language overrides file).2 = .error (.broken cause) ↔
      merged (preset (Text.onString Text.lower language)) overrides file =
        .error (.broken cause) := by
    simp only [load]
    cases merged _ overrides file with
    | error e => simp
    | ok settings => simp [ofSettings_not_broken]
  rw [merging]
  cases file with
  | none => simp [merged]
  | some file => simp [merged, bind_error_iff, readFile_broken_iff]

end Options

/-! ### Schema files -/

namespace Schema

/-- How schema files break a run down. -/
inductive LoadBreakdown (descriptors : List FileDescriptor) (stack : Stack) : Breakdown → Prop where
  /-- A file lacks parts that it must have, and those before it can be linked. -/
  | missing {before f after linked} : descriptors = before ++ f :: after →
      linkAll {} before = .ok linked → f.missing ≠ [] →
      LoadBreakdown descriptors stack (.missingParts f.missing)
  /-- All files can be linked, but there is no room for the objects of those before the first whose name
  is no text. -/
  | stack {linked} : linkAll {} descriptors = .ok linked →
      stack.fits (readable descriptors linked) = false → LoadBreakdown descriptors stack .stack
  /-- All files can be linked, but the bytes of a name are no text. -/
  | name {linked fault} : linkAll {} descriptors = .ok linked →
      stack.fits (readable descriptors linked) = true →
      descriptors.findSome? (·.path.fault?) = some fault →
      LoadBreakdown descriptors stack (.notText fault)

theorem linkAll_cons (p : Pool) (f : FileDescriptor) (rest : List FileDescriptor) :
    linkAll p (f :: rest) =
      if f.missing ≠ [] then .error (.broken (.missingParts f.missing))
      else match p.link f with
        | .error cause => .error (.link f.path cause)
        | .ok (file, p) => do return file :: (← linkAll p rest) := rfl

theorem linkAll_broken_iff {p : Pool} {descriptors : List FileDescriptor} {cause : Breakdown} :
    linkAll p descriptors = .error (.broken cause) ↔
      ∃ before f after linked, descriptors = before ++ f :: after ∧
        linkAll p before = .ok linked ∧ f.missing ≠ [] ∧ cause = .missingParts f.missing := by
  -- The pool grows from file to file, so it is arbitrary here.
  induction descriptors generalizing p with
  | nil => simp [linkAll]
  | cons f rest ih =>
    constructor
    · intro failed
      rw [linkAll_cons] at failed
      by_cases lacking : f.missing ≠ []
      · rw [if_pos lacking] at failed
        cases failed
        exact ⟨[], f, rest, [], rfl, rfl, lacking, rfl⟩
      · rw [if_neg lacking] at failed
        cases linking : p.link f with
        | error e => rw [linking] at failed; cases failed
        | ok pair =>
          rw [linking] at failed
          have later : linkAll pair.2 rest = .error (.broken cause) := by
            simpa [bind_error_iff] using failed
          obtain ⟨before, g, after, linked, rfl, done, missing, rfl⟩ := ih.mp later
          refine ⟨f :: before, g, after, pair.1 :: linked, rfl, ?_, missing, rfl⟩
          rw [linkAll_cons, if_neg lacking, linking]
          simp [done]
    · rintro ⟨before, g, after, linked, split, done, missing, rfl⟩
      cases before with
      | nil =>
        obtain ⟨rfl, rfl⟩ := List.cons.inj split
        rw [linkAll_cons, if_pos missing]
      | cons first before =>
        obtain ⟨rfl, rfl⟩ := List.cons.inj split
        rw [linkAll_cons] at done ⊢
        by_cases lacking : f.missing ≠ []
        · rw [if_pos lacking] at done; cases done
        · rw [if_neg lacking] at done ⊢
          cases linking : p.link f with
          | error e => rw [linking] at done; cases done
          | ok pair =>
            rw [linking] at done
            obtain ⟨front, early, -⟩ := bind_ok_iff.mp done
            have later : linkAll pair.2 (before ++ g :: after) =
                .error (.broken (.missingParts g.missing)) :=
              ih.mpr ⟨before, g, after, front, rfl, early, missing, rfl⟩
            simp [later]

theorem loadFiles_broken_iff {descriptors : List FileDescriptor} {wanted : List Text.Raw} {stack : Stack}
    {cause : Breakdown} : loadFiles descriptors wanted stack = .error (.broken cause) ↔
      LoadBreakdown descriptors stack cause := by
  cases linking : linkAll {} descriptors with
  | error e =>
    have step : loadFiles descriptors wanted stack = .error e := by simp [loadFiles, linking]
    constructor
    · intro failed
      cases step.symm.trans failed
      obtain ⟨before, f, after, linked, split, done, missing, rfl⟩ := linkAll_broken_iff.mp linking
      exact .missing split done missing
    · intro broken
      rw [step, ← linking]
      cases broken with
      | missing split done missing =>
        exact linkAll_broken_iff.mpr ⟨_, _, _, _, split, done, missing, rfl⟩
      | stack linked _ => cases linking.symm.trans linked
      | name linked _ _ => cases linking.symm.trans linked
  | ok files =>
    have unbroken (cause : Breakdown) : linkAll {} descriptors ≠ .error (.broken cause) := by
      simp [linking]
    rw [loadFiles_of_links linking]
    constructor
    · intro failed
      split at failed
      case isTrue room =>
        split at failed
        case h_1 fault faulty =>
          cases failed
          exact .name linking room faulty
        case h_2 => cases failed
      case isFalse full =>
        cases failed
        exact .stack linking (Bool.eq_false_iff.mpr full)
    · intro broken
      cases broken with
      | missing split done missing =>
        exact absurd (linkAll_broken_iff.mpr ⟨_, _, _, _, split, done, missing, rfl⟩) (unbroken _)
      | stack links full =>
        cases linking.symm.trans links
        rw [if_neg (Bool.eq_false_iff.mp full)]
      | name links room unreadable =>
        cases linking.symm.trans links
        rw [if_pos room, unreadable]

end Schema

end RpcBindings
