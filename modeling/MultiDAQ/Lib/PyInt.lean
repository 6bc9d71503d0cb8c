import MultiDAQ.Lib.PyText
import Mathlib.Data.List.Forall2
import Mathlib.Data.List.TakeWhile

/-!
# Integers as Python reads them

`int` of a text, and texts that list values between separators. Blanks around a text or around one
of its values are of no account (`map_strip_splitOn`, `pyInt_strip`).
-/

namespace MultiDAQ.Lib

/-! ## Blanks around a text -/

section Strip

variable {p : Char → Bool} {t u v : List Char}

theorem rstripChars_append (hv : ∀ c ∈ v, p c = true) :
    rstripChars p (t ++ v) = rstripChars p t := by
  unfold rstripChars
  rw [List.reverse_append, List.dropWhile_append_of_pos fun c hc => hv c (List.mem_reverse.1 hc)]

theorem stripChars_of_append_left (hu : ∀ c ∈ u, p c = true) :
    stripChars p (u ++ t) = stripChars p t := by
  rw [stripChars, List.dropWhile_append_of_pos hu, stripChars]

theorem stripChars_of_append_right (hv : ∀ c ∈ v, p c = true) :
    stripChars p (t ++ v) = stripChars p t := by
  unfold stripChars
  rw [List.dropWhile_append]
  split
  next h =>
    rw [List.isEmpty_iff.1 h, List.dropWhile_eq_nil_iff.2 hv]
  next => exact rstripChars_append hv

theorem exists_rstripChars (p : Char → Bool) (t : List Char) :
    ∃ v, t = rstripChars p t ++ v ∧ ∀ c ∈ v, p c = true := by
  refine ⟨(t.reverse.takeWhile p).reverse, ?_, fun c hc => ?_⟩
  · rw [rstripChars, ← List.reverse_append, List.takeWhile_append_dropWhile, List.reverse_reverse]
  · exact List.all_eq_true.1 List.all_takeWhile c (List.mem_reverse.1 hc)

/-- A text is what `strip` leaves of it, between blanks. -/
theorem exists_stripChars (p : Char → Bool) (t : List Char) :
    ∃ u v, t = u ++ (stripChars p t ++ v) ∧ (∀ c ∈ u, p c = true) ∧ ∀ c ∈ v, p c = true := by
  obtain ⟨v, hv, hblank⟩ := exists_rstripChars p (t.dropWhile p)
  refine ⟨t.takeWhile p, v, ?_, List.all_eq_true.1 List.all_takeWhile, hblank⟩
  rw [stripChars, ← hv, List.takeWhile_append_dropWhile]

theorem stripChars_stripChars (p : Char → Bool) (t : List Char) :
    stripChars p (stripChars p t) = stripChars p t := by
  obtain ⟨u, v, ht, hu, hv⟩ := exists_stripChars p t
  conv_rhs => rw [ht, stripChars_of_append_left hu, stripChars_of_append_right hv]

/-- What is not blank stays. -/
theorem mem_stripChars {c : Char} (hc : c ∈ t) (hp : p c = false) : c ∈ stripChars p t := by
  obtain ⟨u, v, ht, hu, hv⟩ := exists_stripChars p t
  have hnot {w : List Char} (hw : ∀ c ∈ w, p c = true) : c ∉ w := fun hmem => by
    rw [hw c hmem] at hp
    cases hp
  rw [ht, List.mem_append, List.mem_append] at hc
  exact (hc.resolve_left (hnot hu)).resolve_right (hnot hv)

theorem mem_of_mem_stripChars {c : Char} (hc : c ∈ stripChars p t) : c ∈ t := by
  obtain ⟨u, v, ht, -, -⟩ := exists_stripChars p t
  rw [ht]
  exact List.mem_append_right u (List.mem_append_left v hc)

theorem mem_of_mem_rstripChars {c : Char} (hc : c ∈ rstripChars p t) : c ∈ t := by
  obtain ⟨v, ht, -⟩ := exists_rstripChars p t
  rw [ht]
  exact List.mem_append_left v hc

theorem length_stripChars_le (p : Char → Bool) (t : List Char) :
    (stripChars p t).length ≤ t.length := by
  obtain ⟨u, v, ht, -, -⟩ := exists_stripChars p t
  have hlength := congrArg List.length ht
  rw [List.length_append, List.length_append] at hlength
  omega

theorem length_rstripChars_le (p : Char → Bool) (t : List Char) :
    (rstripChars p t).length ≤ t.length := by
  obtain ⟨v, ht, -⟩ := exists_rstripChars p t
  have hlength := congrArg List.length ht
  rw [List.length_append] at hlength
  omega

/-- A text of which `rstrip` leaves as much is left as it is. -/
theorem rstripChars_eq_self (h : t.length ≤ (rstripChars p t).length) : rstripChars p t = t := by
  obtain ⟨v, ht, -⟩ := exists_rstripChars p t
  have hlength := congrArg List.length ht
  rw [List.length_append] at hlength
  obtain rfl : v = [] := List.length_eq_zero_iff.1 (by omega)
  rw [List.append_nil] at ht
  exact ht.symm

/-- A text that keeps its last character ends with no blank. -/
theorem not_blank_of_rstrip {c : Char} (h : t.length < (rstripChars p (t ++ [c])).length) :
    p c = false := by
  cases hc : p c with
  | false => rfl
  | true =>
    rw [rstripChars_append (by simpa using hc)] at h
    exact absurd (length_rstripChars_le p t) (Nat.not_le.2 h)

theorem not_blank_of_strip {c : Char} (h : t.length < (stripChars p (t ++ [c])).length) :
    p c = false := by
  cases hc : p c with
  | false => rfl
  | true =>
    rw [stripChars_of_append_right (by simpa using hc)] at h
    exact absurd (length_stripChars_le p t) (Nat.not_le.2 h)

/-! ## Values between separators -/

variable {sep : Char}

theorem map_strip_splitOn_append_left (hsep : p sep = false) (hu : ∀ c ∈ u, p c = true) :
    ((u ++ t).splitOn sep).map (stripChars p) = (t.splitOn sep).map (stripChars p) := by
  induction u with
  | nil => rfl
  | cons c u ih =>
    obtain ⟨hc, hu⟩ := List.forall_mem_cons.1 hu
    have hne : (c == sep) = false := by
      rw [beq_eq_false_iff_ne]
      rintro rfl
      rw [hc] at hsep
      cases hsep
    rw [List.cons_append, List.splitOn_cons_eq_if_modifyHead, hne, if_neg Bool.false_ne_true,
      ← ih hu]
    cases (u ++ t).splitOn sep with
    | nil => rfl
    | cons part parts =>
      have hpart : stripChars p (c :: part) = stripChars p part :=
        stripChars_of_append_left (u := [c]) (by simpa using hc)
      simp [hpart]

/-- Blanks at the end of a text are at the end of its last value. -/
theorem forall₂_splitOn_append_right (hsep : p sep = false) (hv : ∀ c ∈ v, p c = true) :
    List.Forall₂ (fun x y => ∃ w, x = y ++ w ∧ ∀ c ∈ w, p c = true)
      ((t ++ v).splitOn sep) (t.splitOn sep) := by
  induction t with
  | nil =>
    have hnot : sep ∉ v := fun hmem => by
      rw [hv sep hmem] at hsep
      cases hsep
    rw [List.nil_append, List.splitOn_eq_singleton hnot]
    exact .cons ⟨v, rfl, hv⟩ .nil
  | cons c t ih =>
    rw [List.cons_append, List.splitOn_cons_eq_if_modifyHead, List.splitOn_cons_eq_if_modifyHead]
    split
    · exact .cons ⟨[], rfl, nofun⟩ ih
    · revert ih
      generalize (t ++ v).splitOn sep = parts, t.splitOn sep = parts'
      rintro (_ | ⟨⟨w, rfl, hw⟩, htail⟩)
      · exact .nil
      · exact .cons ⟨w, rfl, hw⟩ htail

/-- Blanks around a text do not change the values that it lists. -/
theorem map_strip_splitOn (hsep : p sep = false) (t : List Char) :
    ((stripChars p t).splitOn sep).map (stripChars p) = (t.splitOn sep).map (stripChars p) := by
  obtain ⟨u, v, ht, hu, hv⟩ := exists_stripChars p t
  conv_rhs => rw [ht, map_strip_splitOn_append_left hsep hu]
  symm
  refine List.forall₂_eq_eq_eq ▸ List.forall₂_map_left_iff.2 (List.forall₂_map_right_iff.2 ?_)
  refine (forall₂_splitOn_append_right hsep hv).imp fun x y hxy => ?_
  obtain ⟨w, rfl, hw⟩ := hxy
  exact stripChars_of_append_right hw

end Strip

/-! ## `int` -/

/-- The zeros of the decimal digits of Unicode; the other nine follow each. -/
def decimalZeros : List Nat :=
  [0x30, 0x660, 0x6f0, 0x7c0, 0x966, 0x9e6, 0xa66, 0xae6, 0xb66, 0xbe6, 0xc66, 0xce6, 0xd66, 0xde6,
    0xe50, 0xed0, 0xf20, 0x1040, 0x1090, 0x17e0, 0x1810, 0x1946, 0x19d0, 0x1a80, 0x1a90, 0x1b50,
    0x1bb0, 0x1c40, 0x1c50, 0xa620, 0xa8d0, 0xa900, 0xa9d0, 0xa9f0, 0xaa50, 0xabf0, 0xff10, 0x104a0,
    0x10d30, 0x11066, 0x110f0, 0x11136, 0x111d0, 0x112f0, 0x11450, 0x114d0, 0x11650, 0x116c0,
    0x11730, 0x118e0, 0x11950, 0x11c50, 0x11d50, 0x11da0, 0x16a60, 0x16ac0, 0x16b50, 0x1d7ce,
    0x1d7d8, 0x1d7e2, 0x1d7ec, 0x1d7f6, 0x1e140, 0x1e2f0, 0x1e950, 0x1fbf0]

def digitValue (c : Char) : Option Nat :=
  (decimalZeros.find? fun z => z ≤ c.toNat && c.toNat < z + 10).map (c.toNat - ·)

/-- The digits that follow; single underscores may stand between digits. -/
def digitsFrom (value : Nat) : List Char → Option Nat
  | [] => some value
  | '_' :: c :: rest => (digitValue c).bind fun digit => digitsFrom (10 * value + digit) rest
  | c :: rest => (digitValue c).bind fun digit => digitsFrom (10 * value + digit) rest

def pyNat : List Char → Option Nat
  | [] => none
  | c :: rest => (digitValue c).bind fun digit => digitsFrom digit rest

/-- `int` of a text. -/
def pyInt (text : List Char) : Option Int :=
  match stripChars pySpace text with
  | '-' :: digits => (pyNat digits).map fun n => -(n : Int)
  | '+' :: digits => (pyNat digits).map Int.ofNat
  | digits => (pyNat digits).map Int.ofNat

@[simp] theorem pyInt_strip (text : List Char) : pyInt (stripChars pySpace text) = pyInt text := by
  rw [pyInt, stripChars_stripChars, pyInt]

/-- A text that begins with neither a digit nor a sign is not an integer. -/
theorem pyInt_eq_none {text rest : List Char} {c : Char}
    (htext : stripChars pySpace text = c :: rest) (hminus : c ≠ '-') (hplus : c ≠ '+')
    (hdigit : digitValue c = none) : pyInt text = none := by
  unfold pyInt
  rw [htext]
  split
  next heq => exact absurd (List.cons.inj heq).1 hminus
  next heq => exact absurd (List.cons.inj heq).1 hplus
  next => simp [pyNat, hdigit]

end MultiDAQ.Lib
