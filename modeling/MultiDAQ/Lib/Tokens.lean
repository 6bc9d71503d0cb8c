import Mathlib.Data.List.TakeWhile

/-!
# Tokens

`strtok_r` on a list: the longest runs without the delimiter, of which none is empty. When segments
without the delimiter are joined by it, the tokens are the segments that are not empty
(`tokens_join`).
-/

namespace MultiDAQ.Lib

universe u

section Strtok

variable {α : Type u} [DecidableEq α]

/-- `strtok_r`: the next token, and where it goes on. The delimiters before the token are skipped,
and the one that ends it is overwritten. -/
def strtok (delim : α) (s : List α) : Option (List α × List α) :=
  match s.dropWhile (· = delim) with
  | [] => none
  | c :: s => some (c :: s.takeWhile (· ≠ delim), (s.dropWhile (· ≠ delim)).drop 1)

theorem strtok_rest {delim : α} {s token rest : List α} (h : strtok delim s = some (token, rest)) :
    rest.length < s.length := by
  unfold strtok at h
  have hle := (List.dropWhile_suffix (l := s) (· = delim)).length_le
  split at h
  next => cases h
  next c s' hs =>
    obtain ⟨-, rfl⟩ := Prod.mk.inj (Option.some.inj h)
    have hdrop := (List.dropWhile_suffix (l := s') (· ≠ delim)).length_le
    rw [hs, List.length_cons] at hle
    rw [List.length_drop]
    omega

/-- The tokens that `strtok_r` finds one after another. -/
def tokens (delim : α) (s : List α) : List (List α) :=
  match _h : strtok delim s with
  | none => []
  | some (token, rest) => token :: tokens delim rest
termination_by s.length
decreasing_by exact strtok_rest _h

/-! ## One token -/

variable {delim : α} {s rest : List α}

theorem strtok_nil : strtok delim ([] : List α) = none := rfl

/-- A delimiter in front is skipped. -/
theorem strtok_cons_delim (s : List α) : strtok delim (delim :: s) = strtok delim s := by
  unfold strtok
  rw [List.dropWhile_cons_of_pos (by simp)]

theorem takeWhile_of_notMem (h : delim ∉ s) : s.takeWhile (· ≠ delim) = s :=
  List.takeWhile_eq_self_iff.2 fun x hx => by simpa using fun heq : x = delim => h (heq ▸ hx)

/-- The token that is at the end. -/
theorem strtok_of_notMem (hs : s ≠ []) (h : delim ∉ s) : strtok delim s = some (s, []) := by
  obtain ⟨c, s, rfl⟩ := List.exists_cons_of_ne_nil hs
  have hc : delim ≠ c := fun heq => h (heq ▸ List.mem_cons_self)
  have hrest : delim ∉ s := fun hmem => h (List.mem_cons_of_mem _ hmem)
  unfold strtok
  rw [List.dropWhile_cons_of_neg (by simpa using Ne.symm hc)]
  dsimp only
  rw [takeWhile_of_notMem hrest, List.dropWhile_eq_nil_iff.2 fun x hx => by
    simpa using fun heq : x = delim => hrest (heq ▸ hx)]
  rfl

/-- The token before a delimiter. -/
theorem strtok_append (hs : s ≠ []) (h : delim ∉ s) :
    strtok delim (s ++ delim :: rest) = some (s, rest) := by
  obtain ⟨c, s, rfl⟩ := List.exists_cons_of_ne_nil hs
  have hc : delim ≠ c := fun heq => h (heq ▸ List.mem_cons_self)
  have hrest : delim ∉ s := fun hmem => h (List.mem_cons_of_mem _ hmem)
  have hall : ∀ x ∈ s, (decide (x ≠ delim)) = true := fun x hx => by
    simpa using fun heq : x = delim => hrest (heq ▸ hx)
  unfold strtok
  rw [List.cons_append, List.dropWhile_cons_of_neg (by simpa using Ne.symm hc)]
  dsimp only
  rw [List.takeWhile_append_of_pos hall, List.dropWhile_append_of_pos hall,
    List.takeWhile_cons_of_neg (by simp), List.dropWhile_cons_of_neg (by simp), List.append_nil]
  rfl

/-! ## All tokens -/

theorem tokens_nil : tokens delim ([] : List α) = [] := by
  rw [tokens]
  rfl

theorem tokens_of_strtok {token : List α} (h : strtok delim s = some (token, rest)) :
    tokens delim s = token :: tokens delim rest := by
  rw [tokens]
  split
  next hnone => exact nomatch hnone.symm.trans h
  next token' rest' hsome =>
    obtain ⟨rfl, rfl⟩ := Prod.mk.inj (Option.some.inj (hsome.symm.trans h))
    rfl

theorem tokens_cons_delim (s : List α) : tokens delim (delim :: s) = tokens delim s := by
  rw [tokens, tokens, strtok_cons_delim]

end Strtok

/-! ## Tokens of joined segments -/

section Join

variable {α : Type u}

/-- Segments with the delimiter between them. -/
def joinWith (delim : α) : List (List α) → List α
  | [] => []
  | [s] => s
  | s :: s' :: segments => s ++ delim :: joinWith delim (s' :: segments)

theorem joinWith_cons (delim : α) (s : List α) {segments : List (List α)} (h : segments ≠ []) :
    joinWith delim (s :: segments) = s ++ delim :: joinWith delim segments := by
  cases segments with
  | nil => exact absurd rfl h
  | cons s' segments => rfl

variable [DecidableEq α] {delim : α}

theorem tokens_join {segments : List (List α)} (h : ∀ s ∈ segments, delim ∉ s) :
    tokens delim (joinWith delim segments) = segments.filter (· ≠ []) := by
  induction segments with
  | nil => exact tokens_nil
  | cons s segments ih =>
    have hs := h s List.mem_cons_self
    have hrest := ih fun s' hs' => h s' (List.mem_cons_of_mem _ hs')
    by_cases hempty : segments = []
    · subst hempty
      by_cases hnil : s = []
      · subst hnil
        exact tokens_nil
      · show tokens delim s = _
        rw [tokens_of_strtok (strtok_of_notMem hnil hs), tokens_nil,
          List.filter_cons_of_pos (by simpa using hnil)]
        rfl
    · rw [joinWith_cons delim s hempty]
      by_cases hnil : s = []
      · subst hnil
        rw [List.nil_append, tokens_cons_delim, hrest, List.filter_cons_of_neg (by simp)]
      · rw [tokens_of_strtok (strtok_append hnil hs), hrest,
          List.filter_cons_of_pos (by simpa using hnil)]

end Join

end MultiDAQ.Lib
