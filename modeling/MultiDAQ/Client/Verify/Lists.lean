import MultiDAQ.Client.HvLists
import Mathlib.Data.List.Count
import Mathlib.Data.List.Dedup

/-!
# The classes of the HV channels

A channel should be in at most one of the classes ok, bad, fixed bad and missing serial. Counted with
multiplicity that is one inequality for every channel (`Classified`); it says that no class holds a
channel twice and that the classes are disjoint (`Classified.pairwise`). Every move changes the count
of its own channel only, and each lemma below says when the move keeps the count at most one.
-/

namespace MultiDAQ.Client

open MultiDAQ.Lib

section Count

variable (l : List Int) (ch x : Int)

@[simp] theorem count_sorted : (sorted l).count x = l.count x :=
  (List.perm_insertionSort _ l).count_eq x

@[simp] theorem mem_sorted : x ∈ sorted l ↔ x ∈ l :=
  (List.perm_insertionSort _ l).mem_iff

@[simp] theorem mem_appendNew : x ∈ appendNew l ch ↔ x ∈ l ∨ x = ch := by
  unfold appendNew
  split
  next h =>
    constructor
    · exact .inl
    · rintro (h | rfl)
      · exact h
      · assumption
  next => simp

theorem count_appendNew_of_ne (h : x ≠ ch) : (appendNew l ch).count x = l.count x := by
  unfold appendNew
  split
  · rfl
  · rw [List.count_append, List.count_singleton, if_neg (by simpa using h.symm)]
    rfl

theorem count_appendNew_self : (appendNew l ch).count ch = max (l.count ch) 1 := by
  unfold appendNew
  split
  next h =>
    have := List.count_pos_iff.2 h
    omega
  next h =>
    rw [List.count_append, List.count_eq_zero_of_not_mem h, List.count_singleton]
    simp

end Count

namespace HvLists

variable {s : HvLists} {ch x : Int}

/-- How often a channel is classified. -/
def classes (s : HvLists) (ch : Int) : Nat :=
  s.okCh.count ch + s.badCh.count ch + s.fixedBad.count ch + s.missingSerial.count ch

def Classified (s : HvLists) : Prop := ∀ ch, s.classes ch ≤ 1

/-- The channels that must not be used: fixed bad, or without a PMT serial. -/
def OutOfService (s : HvLists) (ch : Int) : Prop := ch ∈ s.fixedBad ∨ ch ∈ s.missingSerial

instance (s : HvLists) (ch : Int) : Decidable (s.OutOfService ch) :=
  inferInstanceAs (Decidable (_ ∨ _))

theorem Classified.pairwise (h : s.Classified) :
    [s.okCh, s.badCh, s.fixedBad, s.missingSerial].Pairwise List.Disjoint := by
  have hdis {l m : List Int} (hlm : ∀ ch, l.count ch + m.count ch ≤ 1) : List.Disjoint l m := by
    intro ch hl hm
    have hl := List.count_pos_iff.2 hl
    have hm := List.count_pos_iff.2 hm
    have := hlm ch
    omega
  have hle := h
  unfold Classified classes at hle
  simp only [List.pairwise_cons, List.mem_cons, List.not_mem_nil, or_false, forall_eq_or_imp,
    forall_eq, List.Pairwise.nil, and_true, false_imp_iff, implies_true]
  refine ⟨⟨hdis fun ch => ?_, hdis fun ch => ?_, hdis fun ch => ?_⟩,
    ⟨hdis fun ch => ?_, hdis fun ch => ?_⟩, hdis fun ch => ?_⟩ <;>
    exact (by have := hle ch; omega)

/-- An OK or bad channel is in service. -/
theorem Classified.inService (h : s.Classified) (hch : ch ∈ s.okCh ∨ ch ∈ s.badCh) :
    ¬ s.OutOfService ch := by
  have hle := h ch
  unfold classes at hle
  have hpos : 0 < s.okCh.count ch + s.badCh.count ch := by
    rcases hch with hch | hch <;> have := List.count_pos_iff.2 hch <;> omega
  rintro (hf | hm)
  · have := List.count_pos_iff.2 hf
    omega
  · have := List.count_pos_iff.2 hm
    omega

theorem Classified.not_missingSerial (h : s.Classified) (hch : ch ∈ s.fixedBad) :
    ch ∉ s.missingSerial := fun hm => by
  have hle := h ch
  have hf := List.count_pos_iff.2 hch
  have hm := List.count_pos_iff.2 hm
  unfold classes at hle
  omega

/-! ## What a move leaves alone -/

@[simp] theorem moveToBad_fixedBad : (s.moveToBad ch).fixedBad = s.fixedBad := rfl

@[simp] theorem moveToBad_missingSerial : (s.moveToBad ch).missingSerial = s.missingSerial := rfl

@[simp] theorem moveToOk_fixedBad : (s.moveToOk ch).fixedBad = s.fixedBad := rfl

@[simp] theorem moveToOk_missingSerial : (s.moveToOk ch).missingSerial = s.missingSerial := rfl

@[simp] theorem moveToOff_fixedBad : (s.moveToOff ch).fixedBad = s.fixedBad := rfl

@[simp] theorem moveToOff_missingSerial : (s.moveToOff ch).missingSerial = s.missingSerial := rfl

@[simp] theorem moveToOff_classes : (s.moveToOff ch).classes x = s.classes x := rfl

@[simp] theorem moveToOn_fixedBad : (s.moveToOn ch).fixedBad = s.fixedBad := by
  unfold moveToOn
  split <;> rfl

@[simp] theorem moveToOn_missingSerial : (s.moveToOn ch).missingSerial = s.missingSerial := by
  unfold moveToOn
  split <;> rfl

@[simp] theorem moveToOn_classes : (s.moveToOn ch).classes x = s.classes x := by
  unfold moveToOn
  split <;> rfl

@[simp] theorem moveToFixedBad_missingSerial :
    (s.moveToFixedBad ch).missingSerial = s.missingSerial := rfl

@[simp] theorem moveToMissingSerial_fixedBad :
    (s.moveToMissingSerial ch).fixedBad = s.fixedBad := rfl

@[simp] theorem removeFromFixedBad_missingSerial :
    (s.removeFromFixedBad ch).missingSerial = s.missingSerial := rfl

@[simp] theorem removeFromMissingSerial_fixedBad :
    (s.removeFromMissingSerial ch).fixedBad = s.fixedBad := rfl

/-! ## The moves and the classes -/

/-- A move that classifies its own channel at most once, and no other channel differently. -/
theorem Classified.of_move {s' : HvLists} (h : s.Classified) (ch : Int)
    (hne : ∀ x, x ≠ ch → s'.classes x = s.classes x) (hch : s'.classes ch ≤ 1) : s'.Classified := by
  intro x
  by_cases hx : x = ch
  · subst hx
    exact hch
  · rw [hne x hx]
    exact h x

theorem Classified.moveToOn (h : s.Classified) : (s.moveToOn ch).Classified := fun x => by
  rw [moveToOn_classes]
  exact h x

theorem Classified.moveToOff (h : s.Classified) : (s.moveToOff ch).Classified := h

theorem Classified.moveToBad (h : s.Classified) (hch : ¬ s.OutOfService ch) :
    (s.moveToBad ch).Classified := by
  refine h.of_move ch (fun x hx => ?_) ?_
  · simp only [classes, HvLists.moveToBad, count_sorted, List.count_erase_of_ne hx,
      count_appendNew_of_ne _ _ _ hx]
  · have hle := h ch
    have hap := count_appendNew_self s.badCh ch
    have hf := List.count_eq_zero_of_not_mem fun hf => hch (.inl hf)
    have hm := List.count_eq_zero_of_not_mem fun hm => hch (.inr hm)
    simp only [classes, HvLists.moveToBad, count_sorted, List.count_erase_self] at hle ⊢
    omega

theorem Classified.moveToOk (h : s.Classified) (hch : ¬ s.OutOfService ch) :
    (s.moveToOk ch).Classified := by
  refine h.of_move ch (fun x hx => ?_) ?_
  · simp only [classes, HvLists.moveToOk, count_sorted, List.count_erase_of_ne hx,
      count_appendNew_of_ne _ _ _ hx]
  · have hle := h ch
    have hap := count_appendNew_self s.okCh ch
    have hf := List.count_eq_zero_of_not_mem fun hf => hch (.inl hf)
    have hm := List.count_eq_zero_of_not_mem fun hm => hch (.inr hm)
    simp only [classes, HvLists.moveToOk, count_sorted, List.count_erase_self] at hle ⊢
    omega

theorem Classified.moveToFixedBad (h : s.Classified) (hch : ch ∉ s.missingSerial) :
    (s.moveToFixedBad ch).Classified := by
  refine h.of_move ch (fun x hx => ?_) ?_
  · simp only [classes, HvLists.moveToFixedBad, withdraw, count_sorted,
      List.count_erase_of_ne hx, count_appendNew_of_ne _ _ _ hx]
  · have hle := h ch
    have hap := count_appendNew_self s.fixedBad ch
    have hm := List.count_eq_zero_of_not_mem hch
    simp only [classes, HvLists.moveToFixedBad, withdraw, count_sorted,
      List.count_erase_self] at hle ⊢
    omega

theorem Classified.moveToMissingSerial (h : s.Classified) (hch : ch ∉ s.fixedBad) :
    (s.moveToMissingSerial ch).Classified := by
  refine h.of_move ch (fun x hx => ?_) ?_
  · simp only [classes, HvLists.moveToMissingSerial, withdraw, count_sorted,
      List.count_erase_of_ne hx, count_appendNew_of_ne _ _ _ hx]
  · have hle := h ch
    have hap := count_appendNew_self s.missingSerial ch
    have hf := List.count_eq_zero_of_not_mem hch
    simp only [classes, HvLists.moveToMissingSerial, withdraw, count_sorted,
      List.count_erase_self] at hle ⊢
    omega

/-- A channel that is not in the other class out of service may be released from this one. -/
theorem Classified.removeFromFixedBad (h : s.Classified) (hch : ch ∉ s.missingSerial) :
    (s.removeFromFixedBad ch).Classified := by
  refine h.of_move ch (fun x hx => ?_) ?_
  · simp only [classes, HvLists.removeFromFixedBad, HvLists.moveToBad, count_sorted,
      List.count_erase_of_ne hx, count_appendNew_of_ne _ _ _ hx]
  · have hle := h ch
    have hap := count_appendNew_self s.badCh ch
    have hm := List.count_eq_zero_of_not_mem hch
    simp only [classes, HvLists.removeFromFixedBad, HvLists.moveToBad, count_sorted,
      List.count_erase_self] at hle ⊢
    omega

theorem Classified.removeFromMissingSerial (h : s.Classified) (hch : ch ∉ s.fixedBad) :
    (s.removeFromMissingSerial ch).Classified := by
  refine h.of_move ch (fun x hx => ?_) ?_
  · simp only [classes, HvLists.removeFromMissingSerial, HvLists.moveToBad, count_sorted,
      List.count_erase_of_ne hx, count_appendNew_of_ne _ _ _ hx]
  · have hle := h ch
    have hap := count_appendNew_self s.badCh ch
    have hf := List.count_eq_zero_of_not_mem hch
    simp only [classes, HvLists.removeFromMissingSerial, HvLists.moveToBad, count_sorted,
      List.count_erase_self] at hle ⊢
    omega

theorem mem_moveToFixedBad : x ∈ (s.moveToFixedBad ch).fixedBad ↔ x ∈ s.fixedBad ∨ x = ch :=
  mem_appendNew _ _ _

theorem mem_removeFromFixedBad_of_ne (h : x ≠ ch) :
    x ∈ (s.removeFromFixedBad ch).fixedBad ↔ x ∈ s.fixedBad :=
  List.mem_erase_of_ne h

end HvLists

end MultiDAQ.Client
