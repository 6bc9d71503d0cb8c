import Mathlib.Logic.Function.Basic
import Mathlib.Data.List.Basic

/-!
# Hash tables with chains

A table of buckets, each a chain of entries. `index` says which bucket a key belongs in, for the
number of buckets of the table. A key that is not there is put in front of its chain; one that is
there is replaced where it is. Whatever `index` is, `put` changes the lookup of its own key
(`find?_put_self`) and of no other (`find?_put_of_ne`).
-/

namespace MultiDAQ.Lib

universe u v

structure ChainedTable (κ : Type u) (υ : Type v) where
  numBuckets : Nat
  buckets : Nat → List (κ × υ)

namespace ChainedTable

variable {κ : Type u} {υ : Type v} [DecidableEq κ]

def empty (numBuckets : Nat) : ChainedTable κ υ where
  numBuckets := numBuckets
  buckets := fun _ => []

/-- The chain with the first entry of the key replaced; `none` if it has no entry. -/
def replaceIn (k : κ) (v : υ) : List (κ × υ) → Option (List (κ × υ))
  | [] => none
  | (k', v') :: chain =>
    if k' = k then some ((k, v) :: chain) else (replaceIn k v chain).map ((k', v') :: ·)

/-- The chain with an entry of the key. -/
def putIn (k : κ) (v : υ) (chain : List (κ × υ)) : List (κ × υ) :=
  (replaceIn k v chain).getD ((k, v) :: chain)

section Index

variable (index : κ → Nat → Nat)

def find? (t : ChainedTable κ υ) (k : κ) : Option υ := (t.buckets (index k t.numBuckets)).lookup k

def put (t : ChainedTable κ υ) (k : κ) (v : υ) : ChainedTable κ υ :=
  let i := index k t.numBuckets
  { t with buckets := Function.update t.buckets i (putIn k v (t.buckets i)) }

end Index

/-! ## Chains -/

theorem replaceIn_spec {k : κ} {v : υ} : ∀ {chain chain' : List (κ × υ)},
    replaceIn k v chain = some chain' →
      chain'.lookup k = some v ∧ ∀ k', k' ≠ k → chain'.lookup k' = chain.lookup k' := by
  intro chain
  induction chain with
  | nil => exact nofun
  | cons e chain ih =>
    obtain ⟨a, w⟩ := e
    intro chain' h
    unfold replaceIn at h
    split at h
    next ha =>
      obtain rfl := ha
      obtain rfl := Option.some.inj h
      refine ⟨List.lookup_cons_self, fun k' hk' => ?_⟩
      rw [List.lookup_cons, List.lookup_cons]
      simp only [beq_false_of_ne hk']
    next ha =>
      obtain ⟨rest, hrest, rfl⟩ := Option.map_eq_some_iff.1 h
      obtain ⟨hself, hother⟩ := ih hrest
      refine ⟨?_, fun k' hk' => ?_⟩
      · rw [List.lookup_cons]
        simp only [beq_false_of_ne (Ne.symm ha)]
        exact hself
      · rw [List.lookup_cons, List.lookup_cons, hother k' hk']

theorem lookup_putIn_self (k : κ) (v : υ) (chain : List (κ × υ)) :
    (putIn k v chain).lookup k = some v := by
  unfold putIn
  cases h : replaceIn k v chain with
  | none => exact List.lookup_cons_self
  | some chain' => exact (replaceIn_spec h).1

theorem lookup_putIn_of_ne {k k' : κ} (hk : k' ≠ k) (v : υ) (chain : List (κ × υ)) :
    (putIn k v chain).lookup k' = chain.lookup k' := by
  unfold putIn
  cases h : replaceIn k v chain with
  | none =>
    rw [Option.getD_none, List.lookup_cons]
    simp only [beq_false_of_ne hk]
  | some chain' => exact (replaceIn_spec h).2 k' hk

/-- A key that is not in the chain is put in front of it. -/
theorem putIn_of_lookup_eq_none {k : κ} {chain : List (κ × υ)} (h : chain.lookup k = none) (v : υ) :
    putIn k v chain = (k, v) :: chain := by
  have hreplace : replaceIn k v chain = none := by
    induction chain with
    | nil => rfl
    | cons e chain ih =>
      obtain ⟨a, w⟩ := e
      rw [List.lookup_cons] at h
      cases hk : k == a with
      | true =>
        rw [hk] at h
        cases h
      | false =>
        rw [hk] at h
        unfold replaceIn
        rw [if_neg (Ne.symm (ne_of_beq_false hk)), ih h]
        rfl
  unfold putIn
  rw [hreplace, Option.getD_none]

/-! ## Tables -/

variable {index : κ → Nat → Nat}

@[simp] theorem find?_empty (numBuckets : Nat) (k : κ) :
    find? index (empty numBuckets : ChainedTable κ υ) k = none := rfl

/-- What is found for a key is in its bucket. -/
theorem mem_of_find? {t : ChainedTable κ υ} {k : κ} {v : υ} (h : find? index t k = some v) :
    (k, v) ∈ t.buckets (index k t.numBuckets) := by
  obtain ⟨before, after, hchain, -⟩ := List.lookup_eq_some_iff.1 h
  rw [hchain]
  exact List.mem_append_right _ List.mem_cons_self

@[simp] theorem find?_put_self (t : ChainedTable κ υ) (k : κ) (v : υ) :
    find? index (put index t k v) k = some v := by
  show (Function.update t.buckets (index k t.numBuckets) _ (index k t.numBuckets)).lookup k = some v
  rw [Function.update_self]
  exact lookup_putIn_self k v _

theorem find?_put_of_ne (t : ChainedTable κ υ) {k k' : κ} (hk : k' ≠ k) (v : υ) :
    find? index (put index t k v) k' = find? index t k' := by
  show (Function.update t.buckets _ _ (index k' t.numBuckets)).lookup k' = (t.buckets _).lookup k'
  by_cases hi : index k' t.numBuckets = index k t.numBuckets
  · rw [hi, Function.update_self]
    exact lookup_putIn_of_ne hk v _
  · rw [Function.update_of_ne hi]

end ChainedTable

end MultiDAQ.Lib
