import RpcBindings.Text.CodePoints

/-! Names in the order of their code points. -/
namespace RpcBindings.Text

/-- The order of names: by the first code point in which they differ. -/
def precedes (a b : String) : Bool := decide (a ≤ b)

/-- Names in order. -/
def sorted (names : List String) : List String := names.mergeSort precedes

/-- Texts in the order of their code points. -/
def sortedCodes (texts : List CodePoints) : List CodePoints :=
  texts.mergeSort fun a b => !b.codes.lex a.codes

theorem mem_sorted {names : List String} {name : String} : name ∈ sorted names ↔ name ∈ names :=
  List.mem_mergeSort

theorem mem_sortedCodes {texts : List CodePoints} {text : CodePoints} :
    text ∈ sortedCodes texts ↔ text ∈ texts :=
  List.mem_mergeSort

/-- Whether a text comes before another: by the first code point in which they differ. -/
def CodePoints.Precedes (a b : CodePoints) : Prop := List.Lex (· < ·) a.codes b.codes

theorem CodePoints.precedes_or_eq {a b : CodePoints} (before : ¬ b.Precedes a) :
    a.Precedes b ∨ a.codes = b.codes :=
  (@List.le_iff_lt_or_eq Nat _ _ _ _ a.codes b.codes).mp before

theorem pairwise_sortedCodes (texts : List CodePoints) :
    (sortedCodes texts).Pairwise fun a b => ¬ b.Precedes a := by
  have order (a b : CodePoints) : (!b.codes.lex a.codes) = true ↔ ¬ b.Precedes a := by
    rw [Bool.not_eq_true', ← Bool.not_eq_true, List.lex_eq_true_iff_lex]
    simp only [decide_eq_true_eq, CodePoints.Precedes]
  have rising : (sortedCodes texts).Pairwise fun a b => (!b.codes.lex a.codes) = true :=
    List.pairwise_mergeSort
      (fun a b c hab hbc => by
        rw [order] at *
        exact @List.le_trans Nat _ _ _ _ a.codes b.codes c.codes hab hbc)
      (fun a b => by
        rw [Bool.or_eq_true, order, order]
        exact @List.le_total Nat _ _ a.codes b.codes)
      texts
  exact rising.imp fun h => (order _ _).mp h

end RpcBindings.Text
