import RpcBindings.Json.Reader
import RpcBindings.Proofs.Entries
import RpcBindings.Proofs.Outcome

/-! What is read from documents. The names of an object are all different, also where its text repeats
one: each member that is read sets its name, and a value that is no object is never taken for one. -/
namespace RpcBindings.Json

open Outcome

variable {room : Nat} {entries : List (Text.CodePoints × Value)} {done : Cursor}

theorem nodup_readMembers {fuel : Nat} {known : List (Text.CodePoints × Value)} {cursor : Cursor}
    (distinct : (known.map (·.1)).Nodup)
    (read : readMembers room fuel known cursor = .ok (entries, done)) :
    (entries.map (·.1)).Nodup := by
  induction fuel generalizing known cursor with
  | zero => cases read
  | succ fuel ih =>
    rw [readMembers] at read
    split at read
    case h_2 => cases read
    case h_1 =>
      obtain ⟨⟨key, behind⟩, -, read⟩ := bind_ok_iff.mp read
      dsimp only at read
      split at read
      case h_2 => cases read
      case h_1 =>
        obtain ⟨⟨value, next⟩, -, read⟩ := bind_ok_iff.mp read
        have more := nodup_putEntry key value distinct
        dsimp only at read
        split at read
        case h_1 =>
          cases read
          exact more
        case h_2 => exact ih more read
        case h_3 => cases read

theorem readNumber_ne_dict {cursor : Cursor} :
    readNumber cursor ≠ .ok (.dict entries, done) := by
  unfold readNumber Cursor.fail
  dsimp only
  intro read
  repeat' split at read
  all_goals cases read

/-- No name of an object in a document has two values. -/
theorem nodup_readValue {fuel : Nat} {cursor : Cursor}
    (read : readValue room fuel cursor = .ok (.dict entries, done)) : (entries.map (·.1)).Nodup := by
  cases fuel with
  | zero => cases read
  | succ fuel =>
    rw [readValue] at read
    split at read
    case h_1 => cases read
    case h_2 =>
      obtain ⟨_, -, read⟩ := bind_ok_iff.mp read
      cases read
    case h_3 =>
      -- An object, which is nested too deep, empty, or has members.
      split at read
      case isTrue => cases read
      case isFalse =>
        dsimp only at read
        split at read
        case h_1 =>
          cases read
          exact List.nodup_nil
        case h_2 =>
          obtain ⟨⟨members, behind⟩, found, read⟩ := bind_ok_iff.mp read
          cases read
          refine nodup_readMembers ?_ found
          exact List.nodup_nil
    case h_4 =>
      split at read
      case isTrue => cases read
      case isFalse =>
        dsimp only at read
        split at read
        case h_1 => cases read
        case h_2 =>
          obtain ⟨_, -, read⟩ := bind_ok_iff.mp read
          cases read
    case h_5 =>
      -- A keyword or a number.
      split at read
      case h_1 word value found =>
        cases read
        have listed := List.mem_of_find?_eq_some found
        simp [keywords] at listed
      case h_2 => exact absurd read readNumber_ne_dict

theorem nodup_read {document : List Char} (read : Json.read document = .ok (.dict entries)) :
    (entries.map (·.1)).Nodup := by
  unfold Json.read at read
  split at read
  case h_2 => cases read
  case h_3 => cases read
  case h_1 value found =>
    cases read
    unfold readDocument at found
    split at found
    case h_1 => cases found
    case h_2 =>
      obtain ⟨⟨value, behind⟩, found, ended⟩ := bind_ok_iff.mp found
      dsimp only at ended
      split at ended
      case isTrue =>
        cases ended
        exact nodup_readValue found
      case isFalse => cases ended

end RpcBindings.Json
