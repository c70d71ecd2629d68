import Mathlib.Data.List.Forall2

/-! Computations that give a result or an error: how those made of several steps end, and which
step of a row is the one whose error is reported. -/
namespace RpcBindings.Outcome

variable {α β γ ε δ : Type}

@[simp] theorem ok_bind (a : α) (next : α → Except ε β) : (Except.ok a >>= next) = next a := rfl

@[simp] theorem error_bind (e : ε) (next : α → Except ε β) :
    ((Except.error e : Except ε α) >>= next) = .error e := rfl

@[simp] theorem pure_ok (a : α) : (pure a : Except ε α) = .ok a := rfl

@[simp] theorem throw_error (e : ε) : (throw e : Except ε α) = .error e := rfl

theorem bind_ok_iff {first : Except ε α} {next : α → Except ε β} {b : β} :
    (first >>= next) = .ok b ↔ ∃ a, first = .ok a ∧ next a = .ok b := by
  cases first <;> simp

theorem bind_error_iff {first : Except ε α} {next : α → Except ε β} {e : ε} :
    (first >>= next) = .error e ↔
      first = .error e ∨ ∃ a, first = .ok a ∧ next a = .error e := by
  cases first <;> simp

@[simp] theorem mapError_ok (a : α) (change : ε → δ) :
    (Except.ok a : Except ε α).mapError change = .ok a := rfl

@[simp] theorem mapError_error (e : ε) (change : ε → δ) :
    (Except.error e : Except ε α).mapError change = .error (change e) := rfl

@[simp] theorem map_ok (a : α) (change : α → β) :
    (Except.ok a : Except ε α).map change = .ok (change a) := rfl

@[simp] theorem map_error (e : ε) (change : α → β) :
    (Except.error e : Except ε α).map change = .error e := rfl

@[simp] theorem mapError_ok_iff {first : Except ε α} {change : ε → δ} {a : α} :
    first.mapError change = .ok a ↔ first = .ok a := by
  cases first <;> simp

@[simp] theorem mapError_error_iff {first : Except ε α} {change : ε → δ} {e : δ} :
    first.mapError change = .error e ↔ ∃ cause, first = .error cause ∧ change cause = e := by
  cases first <;> simp

@[simp] theorem map_ok_iff {first : Except ε α} {change : α → β} {b : β} :
    first.map change = .ok b ↔ ∃ a, first = .ok a ∧ change a = b := by
  cases first <;> simp

@[simp] theorem map_error_iff {first : Except ε α} {change : α → β} {e : ε} :
    first.map change = .error e ↔ first = .error e := by
  cases first <;> simp

def error? : Except ε α → Option ε
  | .ok _ => none
  | .error e => some e

theorem error?_iff {first : Except ε α} {e : ε} : error? first = some e ↔ first = .error e := by
  cases first <;> simp [error?]

theorem ok_or_error (first : Except ε α) : (∃ a, first = .ok a) ∨ ∃ e, first = .error e := by
  cases first with
  | ok a => exact .inl ⟨a, rfl⟩
  | error e => exact .inr ⟨e, rfl⟩

theorem exists_of_isOk {first : Except ε α} (fine : first.isOk = true) : ∃ a, first = .ok a := by
  cases first with
  | ok a => exact ⟨a, rfl⟩
  | error e => cases fine

/-- What can be found out about a result by evaluation. -/
theorem ok_of_toOption {P : α → Prop} {first : Except ε α} (found : ∃ a ∈ first.toOption, P a) :
    ∃ a, first = .ok a ∧ P a := by
  obtain ⟨a, member, holds⟩ := found
  cases first with
  | ok b =>
    cases member
    exact ⟨a, rfl, holds⟩
  | error e => cases member

theorem ok_of_not_error {first : Except ε α} (never : ∀ e, first ≠ .error e) :
    ∃ a, first = .ok a := by
  rcases ok_or_error first with done | ⟨e, failed⟩
  · exact done
  · exact absurd failed (never e)

/-- The first item of a row that a computation fails on, and the error there: it gives a result on
each item before, and the items after play no part. -/
def FirstError (f : α → Except ε β) (row : List α) (e : ε) : Prop :=
  ∃ before x after, row = before ++ x :: after ∧ (∀ y ∈ before, ∃ b, f y = .ok b) ∧ f x = .error e

theorem firstError_cons {f : α → Except ε β} {x : α} {row : List α} {e : ε} :
    FirstError f (x :: row) e ↔
      f x = .error e ∨ (∃ b, f x = .ok b) ∧ FirstError f row e := by
  constructor
  · rintro ⟨before, y, after, split, fine, failed⟩
    cases before with
    | nil =>
      obtain ⟨rfl, rfl⟩ := List.cons.inj split
      exact .inl failed
    | cons z before =>
      obtain ⟨rfl, rfl⟩ := List.cons.inj split
      have rest : ∀ y ∈ before, ∃ b, f y = .ok b := fun y member =>
        fine y (List.mem_cons_of_mem _ member)
      exact .inr ⟨fine _ List.mem_cons_self, before, y, after, rfl, rest, failed⟩
  · rintro (failed | ⟨here, before, y, after, rfl, fine, failed⟩)
    · exact ⟨[], x, row, rfl, nofun, failed⟩
    · exact ⟨x :: before, y, after, rfl, List.forall_mem_cons.mpr ⟨here, fine⟩, failed⟩

/-- The first failing item among those that satisfy a test, found in the whole row. -/
theorem firstError_filter {f : α → Except ε β} {test : α → Bool} {row : List α} {e : ε} :
    FirstError f (row.filter test) e ↔
      ∃ before x after, row = before ++ x :: after ∧ test x = true ∧
        (∀ y ∈ before, test y = true → ∃ b, f y = .ok b) ∧ f x = .error e := by
  constructor
  · rintro ⟨before, x, after, split, fine, failed⟩
    obtain ⟨first, rest, rfl, rfl, kept⟩ := List.filter_eq_append_iff.mp split
    obtain ⟨skipped, last, rfl, none, here, rfl⟩ := List.filter_eq_cons_iff.mp kept
    refine ⟨first ++ skipped, x, last, by simp, here, ?_, failed⟩
    intro y member passed
    rcases List.mem_append.mp member with early | late
    · exact fine y (List.mem_filter.mpr ⟨early, passed⟩)
    · exact absurd passed (none y late)
  · rintro ⟨before, x, after, rfl, here, fine, failed⟩
    refine ⟨before.filter test, x, after.filter test, by simp [here], ?_, failed⟩
    intro y member
    obtain ⟨early, passed⟩ := List.mem_filter.mp member
    exact fine y early passed

/-- A row of computations gives its results one for each item. -/
theorem mapM_ok_iff {f : α → Except ε β} {row : List α} {results : List β} :
    row.mapM f = .ok results ↔ List.Forall₂ (fun x b => f x = .ok b) row results := by
  induction row generalizing results with
  | nil => cases results <;> simp
  | cons x row ih =>
    simp only [List.mapM_cons, bind_ok_iff, ih]
    cases results with
    | nil => simp
    | cons b results => simp [and_comm]

theorem mapM_append_cons_ok_iff {f : α → Except ε β} {before after : List α} {x : α}
    {results : List β} :
    (before ++ x :: after).mapM f = .ok results ↔
      ∃ front here back, before.mapM f = .ok front ∧ f x = .ok here ∧ after.mapM f = .ok back ∧
        results = front ++ here :: back := by
  simp only [List.mapM_append, List.mapM_cons, bind_ok_iff, pure_ok, Except.ok.injEq]
  constructor
  · rintro ⟨front, first, _, ⟨here, middle, back, last, rfl⟩, rfl⟩
    exact ⟨front, here, back, first, middle, last, rfl⟩
  · rintro ⟨front, here, back, first, middle, last, rfl⟩
    exact ⟨front, first, _, ⟨here, middle, back, last, rfl⟩, rfl⟩

/-- A row of computations fails with the error of the first item that fails. -/
theorem mapM_error_iff {f : α → Except ε β} {row : List α} {e : ε} :
    row.mapM f = .error e ↔ FirstError f row e := by
  induction row with
  | nil => simp [FirstError]
  | cons x row ih =>
    simp only [List.mapM_cons, bind_error_iff, firstError_cons, ih]
    simp

theorem mapM_ok_of_forall {f : α → Except ε β} {row : List α}
    (fine : ∀ x ∈ row, ∃ b, f x = .ok b) : ∃ results, row.mapM f = .ok results := by
  refine ok_of_not_error fun e failed => ?_
  obtain ⟨before, x, after, rfl, -, failed⟩ := mapM_error_iff.mp failed
  obtain ⟨b, done⟩ := fine x (by simp)
  rw [done] at failed
  cases failed

theorem mapM_ok_members {f : α → Except ε β} {row : List α} {results : List β}
    (done : row.mapM f = .ok results) : ∀ x ∈ row, ∃ b, f x = .ok b := by
  have related := mapM_ok_iff.mp done
  clear done
  induction related with
  | nil => nofun
  | cons here _ ih => exact List.forall_mem_cons.mpr ⟨⟨_, here⟩, ih⟩

theorem mapM_ok_origin {f : α → Except ε β} {row : List α} {results : List β}
    (done : row.mapM f = .ok results) : ∀ b ∈ results, ∃ x ∈ row, f x = .ok b := by
  have related := mapM_ok_iff.mp done
  clear done
  induction related with
  | nil => nofun
  | cons here _ ih =>
    refine List.forall_mem_cons.mpr ⟨⟨_, List.mem_cons_self, here⟩, fun b member => ?_⟩
    obtain ⟨x, later, made⟩ := ih b member
    exact ⟨x, List.mem_cons_of_mem _ later, made⟩

/-- A row of computations gives results that are right for another row if each computation does. -/
theorem mapM_ok_forall₂ {γ : Type} {f : α → Except ε β} {P : β → γ → Prop} {row : List α}
    {ends : List γ} (each : List.Forall₂ (fun x c => ∃ b, f x = .ok b ∧ P b c) row ends) :
    ∃ results, row.mapM f = .ok results ∧ List.Forall₂ P results ends := by
  induction each with
  | nil => exact ⟨[], rfl, .nil⟩
  | cons here _ ih =>
    obtain ⟨b, made, fits⟩ := here
    obtain ⟨results, done, others⟩ := ih
    exact ⟨b :: results, by simp [made, done], .cons fits others⟩

/-- What each result says of itself is what its item says. -/
theorem mapM_ok_map {γ : Type} {f : α → Except ε β} {row : List α} {results : List β} {key : β → γ}
    {own : α → γ} (each : ∀ x b, f x = .ok b → key b = own x) (done : row.mapM f = .ok results) :
    results.map key = row.map own := by
  have related := mapM_ok_iff.mp done
  clear done
  induction related with
  | nil => rfl
  | cons here _ ih => rw [List.map_cons, List.map_cons, each _ _ here, ih]

/-- A row of checks passes if each of them does. -/
theorem forM_ok {f : α → Except ε PUnit} {row : List α} (done : row.forM f = .ok ()) :
    ∀ x ∈ row, f x = .ok () := by
  induction row with
  | nil => nofun
  | cons x row ih =>
    obtain ⟨⟨⟩, here, later⟩ := bind_ok_iff.mp done
    exact List.forall_mem_cons.mpr ⟨here, ih later⟩

/-- Each item of a row goes with one of the row related to it. -/
theorem forall₂_right {R : α → β → Prop} {row : List α} {results : List β}
    (related : List.Forall₂ R row results) {x : α} (member : x ∈ row) : ∃ b ∈ results, R x b := by
  induction related with
  | nil => cases member
  | cons here _ ih =>
    rcases List.mem_cons.mp member with rfl | later
    · exact ⟨_, List.mem_cons_self, here⟩
    · obtain ⟨b, found, holds⟩ := ih later
      exact ⟨b, List.mem_cons_of_mem _ found, holds⟩

theorem forall₂_left {R : α → β → Prop} {row : List α} {results : List β}
    (related : List.Forall₂ R row results) {b : β} (member : b ∈ results) : ∃ x ∈ row, R x b :=
  forall₂_right related.flip member

theorem map_eq_map_iff_forall₂ {γ : Type} {f : α → γ} {g : β → γ} {row : List α} {others : List β} :
    row.map f = others.map g ↔ List.Forall₂ (fun a b => f a = g b) row others := by
  rw [← List.forall₂_eq_eq_eq, List.forall₂_map_left_iff, List.forall₂_map_right_iff]

/-- Two rows that are related to the same one, item by item, are related. -/
theorem forall₂_trans {γ : Type} {R : α → β → Prop} {S : β → γ → Prop} {T : α → γ → Prop}
    (each : ∀ a b c, R a b → S b c → T a c) {row : List α} {middle : List β} {ends : List γ}
    (first : List.Forall₂ R row middle) (second : List.Forall₂ S middle ends) :
    List.Forall₂ T row ends := by
  induction first generalizing ends with
  | nil =>
    cases second
    exact .nil
  | cons here _ ih =>
    cases second with
    | cons there later => exact .cons (each _ _ _ here there) (ih later)

/-- A row that is related to another can be followed on from there. -/
theorem forall₂_follow {γ : Type} {R : α → β → Prop} {P : β → γ → Prop} {row : List α}
    {results : List β} (related : List.Forall₂ R row results)
    (each : ∀ x ∈ row, ∀ b, R x b → ∃ c, P b c) :
    ∃ ends, List.Forall₂ P results ends ∧
      List.Forall₂ (fun x c => ∃ b ∈ results, R x b ∧ P b c) row ends := by
  induction related with
  | nil => exact ⟨[], .nil, .nil⟩
  | @cons x b row results here _ ih =>
    obtain ⟨first, others⟩ := List.forall_mem_cons.mp each
    obtain ⟨c, goes⟩ := first b here
    obtain ⟨ends, follow, whole⟩ := ih others
    refine ⟨c :: ends, .cons goes follow, .cons ⟨b, List.mem_cons_self, here, goes⟩ ?_⟩
    refine whole.imp fun y d found => ?_
    obtain ⟨e, member, holds⟩ := found
    exact ⟨e, List.mem_cons_of_mem _ member, holds⟩

end RpcBindings.Outcome
