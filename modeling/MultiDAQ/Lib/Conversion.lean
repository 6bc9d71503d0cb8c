import Mathlib.Data.List.Basic

/-!
# Lists converted as a whole

A conversion of the elements of a list that fails if it fails for one of them. It gives a list of
results exactly when it gives each of them (`mapM_eq_some_iff`), and a conversion that reads values of a
certain form exactly when every element is of that form (`mapM_eq_some_iff_of_form`).
-/

namespace MultiDAQ.Lib

universe u v

variable {α : Type u} {β : Type v} {f : α → Option β}

theorem mapM_eq_some_iff {l : List α} {l' : List β} :
    l.mapM f = some l' ↔ l.map f = l'.map some := by
  induction l generalizing l' with
  | nil => cases l' <;> simp
  | cons a l ih =>
    simp only [List.mapM_cons, Option.bind_eq_bind, Option.bind_eq_some_iff, List.map_cons]
    constructor
    · rintro ⟨b, hb, rest, hrest, ⟨⟩⟩
      rw [hb, ih.1 hrest, List.map_cons]
    · intro h
      cases l' with
      | nil => cases h
      | cons b rest =>
        obtain ⟨hb, hrest⟩ := List.cons.inj h
        exact ⟨b, hb, rest, ih.2 hrest, rfl⟩

/-- The conversion reads what `g` writes of the values that satisfy `P`. -/
theorem mapM_eq_some_iff_of_form {g : β → α} {P : β → Prop}
    (hf : ∀ a b, f a = some b ↔ a = g b ∧ P b) {l : List α} {l' : List β} :
    l.mapM f = some l' ↔ l = l'.map g ∧ ∀ b ∈ l', P b := by
  rw [mapM_eq_some_iff]
  induction l' generalizing l with
  | nil => simp
  | cons b l' ih =>
    cases l with
    | nil => simp
    | cons a l =>
      rw [List.map_cons, List.map_cons, List.cons.injEq, hf, ih, List.map_cons, List.cons.injEq,
        List.forall_mem_cons]
      exact and_and_and_comm

end MultiDAQ.Lib
