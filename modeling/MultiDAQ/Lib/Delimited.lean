import Mathlib.Data.List.Basic
import Mathlib.Data.List.TakeWhile

/-!
# Lists between brackets

A text that lists items between commas, up to a closing character, with blanks around the items.
`Enclosed` is what such a text may look like, when `P x t` says that `t` is a text of the item `x`.
`readList` reads it, given a reader of one item. What it reads is enclosed
(`enclosed_of_readList`), and it reads all that is (`readList_of_enclosed`), if an item does not
begin with a blank or with the closing character and its reader stops where the item ends.
-/

namespace MultiDAQ.Lib

variable {α : Type}

/-- Reads a value from the front of a text; the rest of the text is left. -/
abbrev Reader (α : Type) : Type := List Char → Option (α × List Char)

/-- The items up to the closing character. -/
def readItems (blank : Char → Bool) (item : Reader α) (close : Char) : Nat → Reader (List α)
  | 0, _ => none
  | n + 1, s => do
    let (x, rest) ← item s
    match rest.dropWhile blank with
    | [] => none
    | c :: rest =>
      if c = close then some ([x], rest)
      else if c = ',' then do
        let (xs, rest) ← readItems blank item close n (rest.dropWhile blank)
        some (x :: xs, rest)
      else none

/-- A list behind its opening bracket. No item is without a character, so the length of the text
bounds the number of its items. -/
def readList (blank : Char → Bool) (item : Reader α) (close : Char) : Reader (List α) := fun s =>
  match s.dropWhile blank with
  | [] => none
  | c :: rest =>
    if c = close then some ([], rest) else readItems blank item close s.length (c :: rest)

section Grammar

variable (blank : Char → Bool)

def Blank (t : List Char) : Prop := ∀ c ∈ t, blank c = true

/-- A text lists items between commas. -/
inductive Listed (P : α → List Char → Prop) : List α → List Char → Prop
  | one {x t u v} : Blank blank u → P x t → Blank blank v → Listed P [x] (u ++ (t ++ v))
  | more {x t u v xs t'} : Blank blank u → P x t → Blank blank v → Listed P xs t' →
      Listed P (x :: xs) (u ++ (t ++ (v ++ ',' :: t')))

/-- A text is a list behind its opening bracket. -/
def Enclosed (P : α → List Char → Prop) (close : Char) (xs : List α) (t : List Char) : Prop :=
  (xs = [] ∧ ∃ u, Blank blank u ∧ t = u ++ [close]) ∨
    ∃ body, Listed blank P xs body ∧ t = body ++ [close]

end Grammar

section Blank

variable {blank : Char → Bool} {s t u : List Char}

theorem blank_nil : Blank blank [] := List.forall_mem_nil _

theorem dropWhile_of_blank (hu : Blank blank u) : (u ++ t).dropWhile blank = t.dropWhile blank :=
  List.dropWhile_append_of_pos hu

theorem dropWhile_eq_self {c : Char} (hc : blank c = false) :
    (c :: t).dropWhile blank = c :: t := List.dropWhile_cons_of_neg (by simp [hc])

theorem exists_blank (blank : Char → Bool) (s : List Char) :
    ∃ u, Blank blank u ∧ s = u ++ s.dropWhile blank :=
  ⟨s.takeWhile blank, List.all_eq_true.1 List.all_takeWhile,
    List.takeWhile_append_dropWhile.symm⟩

end Blank

/-! ## What the reader reads -/

section Reader

variable {blank : Char → Bool} {item : Reader α} {P : α → List Char → Prop} {close : Char}
  {xs : List α} {s t rest : List Char}

theorem Listed.forall_exists (h : Listed blank P xs t) : ∀ x ∈ xs, ∃ u, P x u := by
  induction h with
  | one _ hx _ => exact List.forall_mem_singleton.2 ⟨_, hx⟩
  | more _ hx _ _ ih => exact List.forall_mem_cons.2 ⟨⟨_, hx⟩, ih⟩

theorem Enclosed.forall_exists (h : Enclosed blank P close xs t) : ∀ x ∈ xs, ∃ u, P x u := by
  obtain ⟨rfl, -⟩ | ⟨body, hbody, -⟩ := h
  · exact List.forall_mem_nil _
  · exact hbody.forall_exists

/-- Texts of the items, with a comma between each two, list the items. -/
theorem listed_intercalate {x : α} {ts : List (List Char)} (h : List.Forall₂ P (x :: xs) ts) :
    Listed blank P (x :: xs) ([','].intercalate ts) := by
  induction xs generalizing x ts with
  | nil =>
    obtain ⟨t, hx, rfl⟩ : ∃ t, P x t ∧ ts = [t] := by
      cases h with
      | cons hx hnil =>
        cases hnil
        exact ⟨_, hx, rfl⟩
    simpa using Listed.one (blank_nil : Blank blank []) hx blank_nil
  | cons y ys ih =>
    cases h with
    | @cons _ t _ ts hx hrest =>
      obtain ⟨t', ts', rfl⟩ : ∃ t' ts', ts = t' :: ts' := by
        cases hrest
        exact ⟨_, _, rfl⟩
      have hlisted := Listed.more (blank_nil : Blank blank []) hx blank_nil (ih hrest)
      simpa [List.intercalate_cons_cons] using hlisted

theorem Listed.blank_append (h : Listed blank P xs t) (hu : Blank blank u) :
    Listed blank P xs (u ++ t) := by
  cases h with
  | one hu' hx hv =>
    rw [← List.append_assoc]
    exact .one (List.forall_mem_append.2 ⟨hu, hu'⟩) hx hv
  | more hu' hx hv hrest =>
    rw [← List.append_assoc]
    exact .more (List.forall_mem_append.2 ⟨hu, hu'⟩) hx hv hrest

theorem listed_of_readItems
    (hitem : ∀ s x rest, item s = some (x, rest) → ∃ t, P x t ∧ s = t ++ rest) {n : Nat}
    (h : readItems blank item close n s = some (xs, rest)) :
    ∃ body, Listed blank P xs body ∧ s = body ++ close :: rest := by
  induction n generalizing s xs with
  | zero => cases h
  | succ n ih =>
    simp only [readItems, Option.bind_eq_bind, Option.bind_eq_some_iff, Prod.exists] at h
    obtain ⟨x, s₁, hx, h⟩ := h
    obtain ⟨t, ht, rfl⟩ := hitem s x s₁ hx
    obtain ⟨v, hv, hs₁⟩ := exists_blank blank s₁
    split at h
    · cases h
    next c s₂ hs₂ =>
      rw [hs₂] at hs₁
      split at h
      next hc =>
        cases h
        subst hc
        exact ⟨_, .one blank_nil ht hv, by rw [hs₁]; simp⟩
      next =>
        split at h
        next hc =>
          simp only [Option.bind_eq_some_iff, Prod.exists, Option.some.injEq, Prod.mk.injEq] at h
          obtain ⟨xs', s₃, hrest, rfl, rfl⟩ := h
          obtain ⟨u, hu, hs₂⟩ := exists_blank blank s₂
          obtain ⟨body, hbody, hs₃⟩ := ih hrest
          refine ⟨_, .more blank_nil ht hv (hbody.blank_append hu), ?_⟩
          rw [hs₁, hs₂, hs₃, hc]
          simp
        next => cases h

theorem enclosed_of_readList
    (hitem : ∀ s x rest, item s = some (x, rest) → ∃ t, P x t ∧ s = t ++ rest)
    (h : readList blank item close s = some (xs, rest)) :
    ∃ t, Enclosed blank P close xs t ∧ s = t ++ rest := by
  obtain ⟨u, hu, hs⟩ := exists_blank blank s
  unfold readList at h
  split at h
  · cases h
  next c s₁ hs₁ =>
    rw [hs₁] at hs
    split at h
    next hc =>
      cases h
      subst hc
      exact ⟨_, .inl ⟨rfl, u, hu, rfl⟩, by rw [hs]; simp⟩
    next =>
      obtain ⟨body, hbody, hs₂⟩ := listed_of_readItems hitem h
      refine ⟨_, .inr ⟨_, hbody.blank_append hu, rfl⟩, ?_⟩
      rw [hs, hs₂]
      simp

/-! ## What is read -/

/-- A text goes on as a list does behind an item. -/
def ListGoesOn (blank : Char → Bool) (close : Char) (rest : List Char) : Prop :=
  ∃ v c t, Blank blank v ∧ (c = close ∨ c = ',') ∧ rest = v ++ c :: t

variable (hclose : blank close = false) (hcomma : blank ',' = false) (hne : ',' ≠ close)
  (hhead : ∀ x t, P x t → ∃ c t', t = c :: t' ∧ blank c = false ∧ c ≠ close)

section
include hhead

theorem Listed.length_le (h : Listed blank P xs t) : xs.length ≤ t.length := by
  induction h with
  | one _ hx _ =>
    obtain ⟨c, t', rfl, -⟩ := hhead _ _ hx
    simp
    omega
  | more _ hx _ _ ih =>
    simp only [List.length_cons, List.length_append]
    omega

/-- Behind the blanks, a list begins with its first item. -/
theorem Listed.dropWhile (h : Listed blank P xs t) (s : List Char) :
    ∃ c t', (t ++ s).dropWhile blank = c :: t' ∧ c ≠ close := by
  cases h with
  | @one _ _ u v hu hx _ =>
    obtain ⟨c, t', rfl, hc, hne⟩ := hhead _ _ hx
    refine ⟨c, t' ++ v ++ s, ?_, hne⟩
    rw [List.append_assoc, dropWhile_of_blank hu]
    exact dropWhile_eq_self hc
  | @more _ _ u v _ t' hu hx _ _ =>
    obtain ⟨c, t, rfl, hc, hne⟩ := hhead _ _ hx
    refine ⟨c, t ++ (v ++ ',' :: t') ++ s, ?_, hne⟩
    rw [List.append_assoc, dropWhile_of_blank hu]
    exact dropWhile_eq_self hc

end

include hclose hcomma hne hhead

theorem readItems_of_listed
    (hitem : ∀ x t rest, P x t → ListGoesOn blank close rest → item (t ++ rest) = some (x, rest))
    (h : Listed blank P xs t) {n : Nat} (hn : xs.length ≤ n) (rest : List Char) :
    readItems blank item close n ((t ++ close :: rest).dropWhile blank) = some (xs, rest) := by
  induction h generalizing n with
  | @one x t u v hu hx hv =>
    obtain ⟨c, t', rfl, hc, -⟩ := hhead _ _ hx
    obtain ⟨n, rfl⟩ : ∃ m, n = m + 1 := ⟨n - 1, by simp at hn; omega⟩
    have hread := hitem _ _ (v ++ close :: rest) hx ⟨v, close, rest, hv, .inl rfl, rfl⟩
    rw [List.cons_append] at hread
    rw [List.append_assoc, dropWhile_of_blank hu, List.append_assoc, List.cons_append,
      dropWhile_eq_self hc]
    simp only [readItems, hread, Option.bind_eq_bind, Option.bind_some, dropWhile_of_blank hv,
      dropWhile_eq_self hclose, if_true]
  | @more x t u v xs t' hu hx hv hrest ih =>
    obtain ⟨c, t₀, rfl, hc, -⟩ := hhead _ _ hx
    obtain ⟨n, rfl⟩ : ∃ m, n = m + 1 := ⟨n - 1, by simp at hn; omega⟩
    have hread := hitem _ _ (v ++ ',' :: (t' ++ close :: rest)) hx ⟨v, ',', _, hv, .inr rfl, rfl⟩
    rw [List.cons_append] at hread
    have hlist : (u ++ (c :: t₀ ++ (v ++ ',' :: t'))) ++ close :: rest =
        u ++ c :: (t₀ ++ (v ++ ',' :: (t' ++ close :: rest))) := by simp
    rw [hlist, dropWhile_of_blank hu, dropWhile_eq_self hc]
    simp only [readItems, hread, Option.bind_eq_bind, Option.bind_some, dropWhile_of_blank hv,
      dropWhile_eq_self hcomma, if_neg hne, if_true, ih (Nat.le_of_succ_le_succ hn)]

theorem readList_of_enclosed
    (hitem : ∀ x t rest, P x t → ListGoesOn blank close rest → item (t ++ rest) = some (x, rest))
    (h : Enclosed blank P close xs t) (rest : List Char) :
    readList blank item close (t ++ rest) = some (xs, rest) := by
  obtain ⟨rfl, u, hu, rfl⟩ | ⟨body, hbody, rfl⟩ := h
  · rw [List.append_assoc, List.singleton_append]
    simp only [readList, dropWhile_of_blank hu, dropWhile_eq_self hclose, if_true]
  · rw [List.append_assoc, List.singleton_append]
    obtain ⟨c, t', hdrop, hc⟩ := hbody.dropWhile hhead (close :: rest)
    have hlength := hbody.length_le hhead
    have hread := readItems_of_listed hclose hcomma hne hhead hitem hbody
      (n := (body ++ close :: rest).length) (by simp; omega) rest
    rw [hdrop] at hread
    simp only [readList, hdrop, if_neg hc, hread]

end Reader

end MultiDAQ.Lib
