import Mathlib.Algebra.Ring.Nat
import Mathlib.Data.List.Induction
import Mathlib.Data.List.Nodup

/-!
# Insertion-ordered dictionaries

A dictionary whose iteration order is the order in which its keys were first set. The entries carry
the proof that no key occurs twice. Every operation is described by what it does to a lookup
(`get?_set`, `get?_erase`, `get?_modify`, `get?_mapVals`, `get?_filter_eq_some`), a comprehension
over the entries by which keys it collects (`mem_keysWhere`, `get?_collect`), and a loop that may fail
by what it gives for one entry (`get?_mapValsM`).
-/

namespace MultiDAQ.Lib

universe u v w x

/-- An insertion-ordered dictionary: no key occurs twice. -/
structure Dict (κ : Type u) (υ : Type v) where
  entries : List (κ × υ)
  nodup : (entries.map Prod.fst).Nodup
  deriving DecidableEq, Repr

namespace Dict

variable {κ : Type u} {υ : Type v} {ω : Type w}

def empty : Dict κ υ := ⟨[], List.nodup_nil⟩

def keys (d : Dict κ υ) : List κ := d.entries.map Prod.fst

/-- The keys whose value satisfies `p`, in iteration order. -/
def keysWhere (d : Dict κ υ) (p : υ → Bool) : List κ :=
  (d.entries.filter fun e => p e.2).map Prod.fst

/-- Replaces every value, keeping the keys and their order. -/
def mapVals (d : Dict κ υ) (f : κ → υ → ω) : Dict κ ω :=
  ⟨d.entries.map fun e => (e.1, f e.1 e.2), by simpa [List.map_map, Function.comp_def] using d.nodup⟩

@[simp] theorem keys_mapVals (d : Dict κ υ) (f : κ → υ → ω) : (d.mapVals f).keys = d.keys := by
  simp [keys, mapVals, Function.comp_def]

theorem mapVals_mapVals {χ : Type x} (d : Dict κ υ) (f : κ → υ → ω) (g : κ → ω → χ) :
    (d.mapVals f).mapVals g = d.mapVals fun k v => g k (f k v) := by
  simp [mapVals, Function.comp_def]

/-- Replacing every value by itself changes nothing. -/
theorem mapVals_eq_self {d : Dict κ υ} {f : κ → υ → υ}
    (h : ∀ k v, (k, v) ∈ d.entries → f k v = v) : d.mapVals f = d := by
  have hentries : d.entries.map (fun e => (e.1, f e.1 e.2)) = d.entries := by
    conv_rhs => rw [← List.map_id d.entries]
    exact List.map_congr_left fun e he => by rw [h e.1 e.2 he]; rfl
  unfold mapVals
  simp only [hentries]

variable [DecidableEq κ]

def get? (d : Dict κ υ) (k : κ) : Option υ := d.entries.lookup k

def contains (d : Dict κ υ) (k : κ) : Bool := (d.get? k).isSome

/-- Replaces the value of one key, if it is there. -/
def modify (d : Dict κ υ) (k : κ) (f : υ → υ) : Dict κ υ :=
  d.mapVals fun k' v => if k' = k then f v else v

/-- Removes a key. -/
def erase (d : Dict κ υ) (k : κ) : Dict κ υ :=
  ⟨d.entries.filter fun e => e.1 ≠ k,
    d.nodup.sublist (List.filter_sublist.map _)⟩

/-- Keeps the entries that satisfy `p`. -/
def filter (d : Dict κ υ) (p : υ → Bool) : Dict κ υ :=
  ⟨d.entries.filter fun e => p e.2, d.nodup.sublist (List.filter_sublist.map _)⟩

/-! ## Lookups -/

section Lookup

theorem lookup_map (f : κ → υ → ω) (k : κ) : ∀ l : List (κ × υ),
    (l.map fun e => (e.1, f e.1 e.2)).lookup k = (l.lookup k).map (f k)
  | [] => rfl
  | (a, v) :: l => by
    by_cases h : k = a
    · subst h; simp
    · have hb : (k == a) = false := beq_false_of_ne h
      simp only [List.map_cons, List.lookup_cons, hb]
      exact lookup_map f k l

theorem lookup_filter_ne (k k' : κ) : ∀ l : List (κ × υ),
    (l.filter fun e => e.1 ≠ k).lookup k' = if k' = k then none else l.lookup k'
  | [] => by simp
  | (a, v) :: l => by
    have ih := lookup_filter_ne k k' l
    by_cases ha : a = k
    · subst ha
      rw [List.filter_cons_of_neg (by simp), ih]
      by_cases h : k' = a
      · simp [h]
      · simp [h, List.lookup_cons, beq_false_of_ne h]
    · rw [List.filter_cons_of_pos (by simpa using ha)]
      by_cases h : k' = a
      · subst h; simp [ha]
      · simp only [List.lookup_cons, beq_false_of_ne h, ih]

theorem lookup_isSome {k : κ} : ∀ {l : List (κ × υ)},
    (l.lookup k).isSome ↔ k ∈ l.map Prod.fst
  | [] => by simp
  | (a, v) :: l => by
    by_cases h : k = a
    · subst h; simp
    · simp [List.lookup_cons, beq_false_of_ne h, lookup_isSome (l := l), h]

theorem lookup_append_single (k k' : κ) (v : υ) : ∀ l : List (κ × υ), k ∉ l.map Prod.fst →
    (l ++ [(k, v)]).lookup k' = if k' = k then some v else l.lookup k'
  | [], _ => by
    by_cases h : k' = k
    · subst h; simp
    · simp [List.lookup_cons, beq_false_of_ne h, h]
  | (a, w) :: l, hk => by
    have hka : k ≠ a := fun e => hk (by simp [e])
    have ih := lookup_append_single k k' v l (fun e => hk (by simp [e]))
    by_cases h : k' = a
    · subst h; simp [Ne.symm hka]
    · simp only [List.cons_append, List.lookup_cons, beq_false_of_ne h, ih]

theorem lookup_eq_some_iff {k : κ} {v : υ} : ∀ {l : List (κ × υ)}, (l.map Prod.fst).Nodup →
    (l.lookup k = some v ↔ (k, v) ∈ l)
  | [], _ => by simp
  | (a, w) :: l, hn => by
    have hn' : (l.map Prod.fst).Nodup := (List.nodup_cons.1 hn).2
    by_cases h : k = a
    · subst h
      have hk : (k, v) ∉ l := fun hm => (List.nodup_cons.1 hn).1 (List.mem_map.2 ⟨_, hm, rfl⟩)
      simp [hk, eq_comm]
    · simp [List.lookup_cons, beq_false_of_ne h, lookup_eq_some_iff hn', h]

end Lookup

/-- Sets a key: in place if it is there, at the end otherwise. -/
def set (d : Dict κ υ) (k : κ) (v : υ) : Dict κ υ :=
  if h : d.contains k then d.modify k fun _ => v
  else ⟨d.entries ++ [(k, v)], by
    have hk : k ∉ d.entries.map Prod.fst := fun hm => h (lookup_isSome.2 hm)
    simpa [List.nodup_append, d.nodup] using fun a b hab e => hk (List.mem_map.2 ⟨(a, b), hab, e⟩)⟩

@[simp] theorem get?_empty (k : κ) : (empty : Dict κ υ).get? k = none := rfl

@[simp] theorem get?_mapVals (d : Dict κ υ) (f : κ → υ → ω) (k : κ) :
    (d.mapVals f).get? k = (d.get? k).map (f k) :=
  lookup_map f k d.entries

@[simp] theorem get?_modify (d : Dict κ υ) (k k' : κ) (f : υ → υ) :
    (d.modify k f).get? k' = if k' = k then (d.get? k').map f else d.get? k' := by
  unfold modify
  rw [get?_mapVals]
  by_cases h : k' = k <;> simp [h]

@[simp] theorem get?_erase (d : Dict κ υ) (k k' : κ) :
    (d.erase k).get? k' = if k' = k then none else d.get? k' :=
  lookup_filter_ne k k' d.entries

@[simp] theorem get?_set (d : Dict κ υ) (k k' : κ) (v : υ) :
    (d.set k v).get? k' = if k' = k then some v else d.get? k' := by
  unfold set
  split
  · next h =>
    rw [get?_modify]
    by_cases hk : k' = k
    · subst hk
      obtain ⟨w, hw⟩ := Option.isSome_iff_exists.1 h
      simp [hw]
    · simp [hk]
  · next h =>
    have hk : k ∉ d.entries.map Prod.fst := fun hm => h (lookup_isSome.2 hm)
    exact lookup_append_single k k' v d.entries hk

/-- Setting a key to the value that it has changes nothing. -/
theorem set_eq_self {d : Dict κ υ} {k : κ} {v : υ} (h : d.get? k = some v) : d.set k v = d := by
  have hk : d.contains k = true := Option.isSome_iff_exists.2 ⟨v, h⟩
  unfold set
  rw [dif_pos hk]
  refine mapVals_eq_self fun k' v' hentry => ?_
  split
  next heq =>
    subst heq
    rw [get?, (lookup_eq_some_iff d.nodup).2 hentry] at h
    exact (Option.some.inj h).symm
  next => rfl

theorem get?_erase_of_some {d : Dict κ υ} {k k' : κ} {v : υ} (h : (d.erase k).get? k' = some v) :
    d.get? k' = some v := by
  rw [get?_erase] at h
  split at h
  · cases h
  · exact h

/-- Of the values that a list sets for a key, the dictionary has the last. -/
theorem get?_foldl_set (l : List (κ × υ)) : ∀ (d : Dict κ υ) (k : κ),
    (l.foldl (fun d e => d.set e.1 e.2) d).get? k = (l.reverse.lookup k).or (d.get? k) := by
  induction l using List.reverseRecOn with
  | nil => exact fun d k => rfl
  | append_singleton l e ih =>
    intro d k
    rw [List.foldl_append, List.foldl_cons, List.foldl_nil, get?_set, ih,
      List.reverse_append, List.reverse_singleton, List.singleton_append, List.lookup_cons]
    by_cases hk : k = e.1
    · rw [if_pos hk, hk, beq_self_eq_true]
      rfl
    · rw [if_neg hk, beq_false_of_ne hk]

theorem mem_entries {d : Dict κ υ} {k : κ} {v : υ} : (k, v) ∈ d.entries ↔ d.get? k = some v :=
  (lookup_eq_some_iff d.nodup).symm

theorem mem_keys {d : Dict κ υ} {k : κ} : k ∈ d.keys ↔ ∃ v, d.get? k = some v := by
  simp only [keys, List.mem_map, ← mem_entries]
  exact ⟨fun ⟨e, he, hk⟩ => ⟨e.2, hk ▸ he⟩, fun ⟨v, hv⟩ => ⟨_, hv, rfl⟩⟩

theorem get?_filter_eq_some {d : Dict κ υ} {p : υ → Bool} {k : κ} {v : υ} :
    (d.filter p).get? k = some v ↔ d.get? k = some v ∧ p v = true := by
  rw [← mem_entries, ← mem_entries]
  exact List.mem_filter

/-- What the entries of one key add up to. -/
theorem sum_entries (d : Dict κ υ) (k : κ) (f : υ → Nat) :
    (d.entries.map fun e => if e.1 = k then f e.2 else 0).sum = (d.get? k).elim 0 f := by
  have hlist : ∀ l : List (κ × υ), (l.map Prod.fst).Nodup →
      (l.map fun e => if e.1 = k then f e.2 else 0).sum = (l.lookup k).elim 0 f := by
    intro l
    induction l with
    | nil => intro _; rfl
    | cons e l ih =>
      obtain ⟨a, v⟩ := e
      intro hnodup
      obtain ⟨hnotMem, hnodup⟩ := List.nodup_cons.1 hnodup
      rw [List.map_cons, List.sum_cons, ih hnodup]
      by_cases h : a = k
      · subst h
        have hnone : l.lookup a = none := by
          rw [← Option.not_isSome_iff_eq_none, lookup_isSome]
          exact hnotMem
        simp [hnone]
      · simp [List.lookup_cons, beq_false_of_ne (Ne.symm h), h]
  exact hlist d.entries d.nodup

theorem mem_keysWhere {d : Dict κ υ} {p : υ → Bool} {k : κ} :
    k ∈ d.keysWhere p ↔ ∃ v, d.get? k = some v ∧ p v = true := by
  unfold keysWhere
  simp only [List.mem_map, List.mem_filter, Prod.exists, exists_and_right, exists_eq_right]
  exact exists_congr fun v => and_congr_left' mem_entries

/-! ## Comprehensions and loops -/

section Loops

variable {α : Type x} {ε : Type*}

theorem bind_eq_ok {α β : Type u} {x : Except ε α} {f : α → Except ε β} {b : β} :
    (x >>= f) = .ok b ↔ ∃ a, x = .ok a ∧ f a = .ok b := by
  cases x with
  | error e => exact ⟨nofun, fun ⟨_, h, _⟩ => nomatch h⟩
  | ok a =>
    constructor
    · exact fun h => ⟨a, rfl, h⟩
    · rintro ⟨a', h, hf⟩
      cases h
      exact hf

/-- The entries for which `f` has a value, with that value. -/
def collect (d : Dict κ υ) (f : κ → υ → Option ω) : Dict κ ω :=
  ⟨d.entries.filterMap fun e => (f e.1 e.2).map (e.1, ·), by
    have hkeys : ∀ l : List (κ × υ),
        ((l.filterMap fun e => (f e.1 e.2).map (e.1, ·)).map Prod.fst).Sublist (l.map Prod.fst) := by
      intro l
      induction l with
      | nil => exact .slnil
      | cons e l ih =>
        rw [List.filterMap_cons]
        cases f e.1 e.2 with
        | none => exact ih.cons _
        | some w => exact ih.cons_cons _
    exact d.nodup.sublist (hkeys d.entries)⟩

@[simp] theorem get?_collect (d : Dict κ υ) (f : κ → υ → Option ω) (k : κ) :
    (d.collect f).get? k = (d.get? k).bind (f k) := by
  rw [Option.ext_iff]
  intro w
  rw [Option.bind_eq_some_iff, ← mem_entries]
  simp only [collect, List.mem_filterMap, Option.map_eq_some_iff, Prod.mk.injEq, Prod.exists]
  constructor
  · rintro ⟨k', v, hmem, w', hf, rfl, rfl⟩
    exact ⟨v, mem_entries.1 hmem, hf⟩
  · rintro ⟨v, hv, hf⟩
    exact ⟨k, v, mem_entries.2 hv, w, hf, rfl, rfl⟩

/-- Sets a key for each element of a list in turn, until `f` fails. -/
def setEach (f : α → Except ε (κ × ω)) : List α → Dict κ ω → Except ε (Dict κ ω)
  | [], d => .ok d
  | a :: l, d =>
    match f a with
    | .error e => .error e
    | .ok (k, w) => setEach f l (d.set k w)

/-- A loop that sets the keys that it goes over. -/
theorem get?_setEach_keys {f : κ → Except ε ω} {k : κ} : ∀ {l : List κ} {d r : Dict κ ω},
    setEach (fun k => (f k).map (k, ·)) l d = .ok r →
      (k ∈ l → ∃ w, f k = .ok w ∧ r.get? k = some w) ∧ (k ∉ l → r.get? k = d.get? k)
  | [], d, r, h => by
    cases h
    exact ⟨nofun, fun _ => rfl⟩
  | a :: l, d, r, h => by
    simp only [setEach] at h
    cases hf : f a with
    | error e =>
      rw [hf] at h
      cases h
    | ok w =>
      rw [hf] at h
      obtain ⟨hin, hout⟩ := get?_setEach_keys (k := k) h
      rw [get?_set] at hout
      refine ⟨fun hmem => ?_, fun hnot => ?_⟩
      · by_cases hl : k ∈ l
        · exact hin hl
        · obtain rfl := (List.mem_cons.1 hmem).resolve_right hl
          exact ⟨w, hf, (hout hl).trans (if_pos rfl)⟩
      · obtain ⟨hka, hl⟩ := List.ne_and_not_mem_of_not_mem_cons hnot
        exact (hout hl).trans (if_neg hka)

/-- Replaces every value, unless `f` fails for one. -/
def mapValsM (d : Dict κ υ) (f : κ → υ → Except ε ω) : Except ε (Dict κ ω) :=
  setEach (fun e => (f e.1 e.2).map (e.1, ·)) d.entries empty

private theorem get?_setEach {f : κ → υ → Except ε ω} {k : κ} : ∀ {l : List (κ × υ)} {d r : Dict κ ω},
    (l.map Prod.fst).Nodup → setEach (fun e => (f e.1 e.2).map (e.1, ·)) l d = .ok r →
      (l.lookup k = none → r.get? k = d.get? k) ∧
        ∀ v, l.lookup k = some v → ∃ w, f k v = .ok w ∧ r.get? k = some w
  | [], d, r, _, h => by
    cases h
    exact ⟨fun _ => rfl, nofun⟩
  | (a, v) :: l, d, r, hnodup, h => by
    obtain ⟨hnotMem, hnodup⟩ := List.nodup_cons.1 hnodup
    simp only [setEach] at h
    cases hf : f a v with
    | error e => rw [hf] at h; cases h
    | ok w =>
      rw [hf] at h
      have ih := get?_setEach (k := k) hnodup h
      by_cases hk : k = a
      · subst hk
        have hnone : l.lookup k = none := by
          rw [← Option.not_isSome_iff_eq_none, lookup_isSome]
          exact hnotMem
        have hr : r.get? k = some w := by rw [ih.1 hnone, get?_set, if_pos rfl]
        refine ⟨fun hlookup => by simp at hlookup, fun v' hlookup => ?_⟩
        have hv : v = v' := by simpa using hlookup
        exact ⟨w, hv ▸ hf, hr⟩
      · rw [List.lookup_cons, beq_false_of_ne hk]
        rw [get?_set, if_neg hk] at ih
        exact ih

/-- What a loop that went through has for each key. -/
theorem get?_mapValsM {d : Dict κ υ} {f : κ → υ → Except ε ω} {r : Dict κ ω}
    (h : d.mapValsM f = .ok r) (k : κ) :
    (d.get? k = none → r.get? k = none) ∧
      ∀ v, d.get? k = some v → ∃ w, f k v = .ok w ∧ r.get? k = some w :=
  get?_setEach d.nodup h

/-- A loop goes through when `f` fails for no entry. -/
theorem mapValsM_ok {d : Dict κ υ} {f : κ → υ → Except ε ω}
    (h : ∀ k v, d.get? k = some v → ∃ w, f k v = .ok w) : ∃ r, d.mapValsM f = .ok r := by
  have hloop : ∀ (l : List (κ × υ)) (r : Dict κ ω), (∀ e ∈ l, ∃ w, f e.1 e.2 = .ok w) →
      ∃ r', setEach (fun e => (f e.1 e.2).map (e.1, ·)) l r = .ok r' := by
    intro l
    induction l with
    | nil => exact fun r _ => ⟨r, rfl⟩
    | cons e l ih =>
      intro r hl
      obtain ⟨w, hw⟩ := hl e List.mem_cons_self
      simp only [setEach, hw, Except.map]
      exact ih _ fun e' he' => hl e' (List.mem_cons_of_mem _ he')
  exact hloop d.entries empty fun e he => h e.1 e.2 (mem_entries.1 he)

end Loops

end Dict

end MultiDAQ.Lib
