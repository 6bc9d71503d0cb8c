import Mathlib.Algebra.Order.Group.Defs
import Mathlib.Algebra.BigOperators.Group.List.Basic
import Mathlib.Tactic.Abel
import MultiDAQ.Lib.Dict

/-!
# Counters

A dictionary of totals (`Dict.addTo`), and a counter that is read now and then and that may have
started from zero again between two readings. From a reading that is smaller than the one before it is
known that the counter has (`increase`). Over several lifetimes the increases add up to the last
readings of all of them exactly if every new start is seen in this way (`totalIncrease_flatten_iff`).
-/

namespace MultiDAQ.Lib

universe u v

/-! ## Totals -/

namespace Dict

variable {κ : Type u} {α : Type v} [DecidableEq κ] [AddCommMonoid α]

/-- The total of a key grows. -/
def addTo (d : Dict κ α) (k : κ) (x : α) : Dict κ α := d.set k ((d.get? k).getD 0 + x)

/-- The totals of the keys that meet `p`, together. -/
def total (p : κ → Bool) (d : Dict κ α) : α :=
  (d.entries.map fun e => if p e.1 then e.2 else 0).sum

/-- The total of a key that is there grows. -/
theorem sum_map_of_lookup (p : κ → Bool) {l : List (κ × α)} {k : κ} {old : α} (x : α)
    (hnodup : (l.map Prod.fst).Nodup) (h : l.lookup k = some old) :
    (l.map fun e => if p e.1 then (if e.1 = k then old + x else e.2) else 0).sum =
      (l.map fun e => if p e.1 then e.2 else 0).sum + if p k then x else 0 := by
  induction l with
  | nil => cases h
  | cons e l ih =>
    obtain ⟨a, w⟩ := e
    obtain ⟨hnotMem, hnodup⟩ := List.nodup_cons.1 hnodup
    rw [List.map_cons, List.map_cons, List.sum_cons, List.sum_cons]
    by_cases hk : a = k
    · subst hk
      rw [List.lookup_cons, beq_self_eq_true] at h
      obtain rfl : w = old := Option.some.inj h
      have hrest : (l.map fun e => if p e.1 then (if e.1 = a then w + x else e.2) else 0) =
          l.map fun e => if p e.1 then e.2 else 0 := by
        refine List.map_congr_left fun e he => ?_
        have hne : e.1 ≠ a := fun heq => hnotMem (List.mem_map.2 ⟨e, he, heq⟩)
        rw [if_neg hne]
      rw [hrest, if_pos rfl]
      cases p a with
      | true => exact add_right_comm w x _
      | false => exact (add_zero _).symm
    · rw [List.lookup_cons, beq_false_of_ne (Ne.symm hk)] at h
      rw [ih hnodup h, if_neg hk, add_assoc]

theorem total_addTo (p : κ → Bool) (d : Dict κ α) (k : κ) (x : α) :
    total p (d.addTo k x) = total p d + if p k then x else 0 := by
  unfold addTo set
  split
  next hin =>
    obtain ⟨old, hold⟩ := Option.isSome_iff_exists.1 hin
    rw [hold, Option.getD_some]
    show ((d.entries.map _).map _).sum = _
    rw [List.map_map]
    exact sum_map_of_lookup p x d.nodup hold
  next hnot =>
    have hnone : d.get? k = none := Option.not_isSome_iff_eq_none.1 hnot
    rw [hnone, Option.getD_none, zero_add]
    show ((d.entries ++ [(k, x)]).map _).sum = _
    rw [List.map_append, List.sum_append, List.map_singleton, List.sum_singleton]
    rfl

end Dict

/-! ## Counters that start again -/

section Increase

variable {α : Type u} [AddCommGroup α] [LinearOrder α]

/-- By how much a counter has gone up since the previous reading. -/
def increase (previous : Option α) (value : α) : α :=
  match previous with
  | none => value
  | some p => if p ≤ value then value - p else value

def totalIncrease : Option α → List α → α
  | _, [] => 0
  | previous, value :: values => increase previous value + totalIncrease (some value) values

/-- Where a new lifetime begins with this value, the previous reading tells it, or nothing is
missed. -/
def RestartSeen (previous : Option α) (value : α) : Prop :=
  ∀ p ∈ previous, value < p ∨ p = 0

/-- The readings of several lifetimes: each new start after a reading is seen. -/
def RestartsSeen : Option α → List (List α) → Prop
  | _, [] => True
  | previous, [] :: lives => RestartsSeen previous lives
  | previous, (value :: values) :: lives =>
    RestartSeen previous value ∧ RestartsSeen (value :: values).getLast? lives

theorem totalIncrease_append (previous : Option α) (values more : List α) :
    totalIncrease previous (values ++ more) =
      totalIncrease previous values + totalIncrease (values.getLast?.or previous) more := by
  induction values generalizing previous with
  | nil => exact (zero_add _).symm
  | cons value values ih =>
    rw [List.cons_append, totalIncrease, totalIncrease, ih, add_assoc, List.getLast?_cons]
    cases values.getLast? <;> rfl

/-- In one lifetime the increases add up to what lies between the first and the last reading. -/
theorem totalIncrease_of_pairwise {value : α} {values : List α}
    (h : (value :: values).Pairwise (· ≤ ·)) :
    totalIncrease (some value) values = values.getLast?.getD value - value := by
  induction values generalizing value with
  | nil => exact (sub_self value).symm
  | cons next values ih =>
    obtain ⟨hle, hrest⟩ := List.pairwise_cons.1 h
    rw [totalIncrease, increase, if_pos (hle next List.mem_cons_self), ih hrest, List.getLast?_cons,
      Option.getD_some]
    abel

/-- What is missed where a new lifetime begins. -/
def missed (previous : Option α) (value : α) : α :=
  match previous with
  | none => 0
  | some p => if p ≤ value then p else 0

theorem increase_eq_sub_missed (previous : Option α) (value : α) :
    increase previous value = value - missed previous value := by
  cases previous with
  | none => exact (sub_zero value).symm
  | some p =>
    show (if p ≤ value then value - p else value) = value - if p ≤ value then p else 0
    split
    · rfl
    · exact (sub_zero value).symm

theorem missed_nonneg {previous : Option α} (h : ∀ p ∈ previous, 0 ≤ p) (value : α) :
    0 ≤ missed previous value := by
  cases previous with
  | none => exact le_rfl
  | some p =>
    show 0 ≤ if p ≤ value then p else 0
    split
    · exact h p rfl
    · exact le_rfl

theorem missed_eq_zero_iff {previous : Option α} {value : α} :
    missed previous value = 0 ↔ RestartSeen previous value := by
  cases previous with
  | none => exact ⟨fun _ => nofun, fun _ => rfl⟩
  | some p =>
    show (if p ≤ value then p else 0) = 0 ↔ ∀ q ∈ some p, value < q ∨ q = 0
    split
    next hle =>
      refine ⟨fun hp q hq => .inr (Option.some.inj hq ▸ hp), fun h => ?_⟩
      exact (h p rfl).resolve_left (not_lt.2 hle)
    next hlt =>
      exact ⟨fun _ q hq => .inl (Option.some.inj hq ▸ not_le.1 hlt), fun _ => rfl⟩

def missedIn : Option α → List (List α) → α
  | _, [] => 0
  | previous, [] :: lives => missedIn previous lives
  | previous, (value :: values) :: lives =>
    missed previous value + missedIn (value :: values).getLast? lives

/-- The last reading of each lifetime, together. -/
def sumLast (lives : List (List α)) : α := (lives.map fun values => values.getLast?.getD 0).sum

theorem totalIncrease_flatten {lives : List (List α)}
    (h : ∀ values ∈ lives, values.Pairwise (· ≤ ·)) (previous : Option α) :
    totalIncrease previous lives.flatten = sumLast lives - missedIn previous lives := by
  induction lives generalizing previous with
  | nil => exact (sub_zero 0).symm
  | cons values lives ih =>
    have hrest := ih fun values hvalues => h values (List.mem_cons_of_mem _ hvalues)
    cases values with
    | nil =>
      have hsum : sumLast ([] :: lives) = sumLast lives := zero_add _
      rw [hsum]
      exact hrest previous
    | cons value values =>
      have hsum : sumLast ((value :: values) :: lives) =
          values.getLast?.getD value + sumLast lives := by
        unfold sumLast
        rw [List.map_cons, List.sum_cons, List.getLast?_cons, Option.getD_some]
      have hlast : (value :: values).getLast?.or previous = (value :: values).getLast? := by
        rw [List.getLast?_cons]
        rfl
      rw [List.flatten_cons, totalIncrease_append, hlast, hrest, totalIncrease,
        totalIncrease_of_pairwise (h _ List.mem_cons_self), increase_eq_sub_missed, hsum, missedIn]
      abel

variable [IsOrderedAddMonoid α]

theorem missedIn_nonneg {lives : List (List α)} {previous : Option α}
    (h : ∀ values ∈ lives, ∀ v ∈ values, 0 ≤ v) (hprevious : ∀ p ∈ previous, 0 ≤ p) :
    0 ≤ missedIn previous lives := by
  induction lives generalizing previous with
  | nil => exact le_rfl
  | cons values lives ih =>
    have hlives : ∀ values ∈ lives, ∀ v ∈ values, 0 ≤ v := fun values hvalues =>
      h values (List.mem_cons_of_mem _ hvalues)
    cases values with
    | nil => exact ih hlives hprevious
    | cons value values =>
      exact add_nonneg (missed_nonneg hprevious value) (ih hlives fun p hp =>
        h _ List.mem_cons_self p (List.mem_of_getLast? hp))

theorem missedIn_eq_zero_iff {lives : List (List α)} {previous : Option α}
    (h : ∀ values ∈ lives, ∀ v ∈ values, 0 ≤ v) (hprevious : ∀ p ∈ previous, 0 ≤ p) :
    missedIn previous lives = 0 ↔ RestartsSeen previous lives := by
  induction lives generalizing previous with
  | nil => exact ⟨fun _ => trivial, fun _ => rfl⟩
  | cons values lives ih =>
    have hlives : ∀ values ∈ lives, ∀ v ∈ values, 0 ≤ v := fun values hvalues =>
      h values (List.mem_cons_of_mem _ hvalues)
    cases values with
    | nil => exact ih hlives hprevious
    | cons value values =>
      have hlast : ∀ p ∈ (value :: values).getLast?, 0 ≤ p := fun p hp =>
        h _ List.mem_cons_self p (List.mem_of_getLast? hp)
      rw [missedIn, add_eq_zero_iff_of_nonneg (missed_nonneg hprevious value)
        (missedIn_nonneg hlives hlast), missed_eq_zero_iff, ih hlives hlast]
      rfl

/-- The increases over several lifetimes are the last readings of all of them exactly when each new
start is seen. -/
theorem totalIncrease_flatten_iff {lives : List (List α)}
    (hmono : ∀ values ∈ lives, values.Pairwise (· ≤ ·))
    (hnonneg : ∀ values ∈ lives, ∀ v ∈ values, 0 ≤ v) :
    totalIncrease none lives.flatten = sumLast lives ↔ RestartsSeen none lives := by
  rw [totalIncrease_flatten hmono, sub_eq_self]
  exact missedIn_eq_zero_iff hnonneg nofun

end Increase

end MultiDAQ.Lib
