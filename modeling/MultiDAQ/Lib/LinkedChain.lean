import Mathlib.Data.List.Basic

/-!
# Linked chains

Nodes that are linked in memory: the address of a node is its place in the list of the nodes that have
been allocated, and `next` is its pointer to another node. The nodes from a pointer on are a chain of
addresses (`IsChain`). A loop that follows the pointers finds the first node of the chain that meets a
condition (`findFrom_eq`), and it comes to an end where every node was allocated after the one it
points to (`length_le_of_newest`). Neither a new node nor a change of other fields breaks a chain.
-/

namespace MultiDAQ.Lib

universe u v

section

variable {ν : Type u} (next : ν → Option Nat)

/-- The nodes from the pointer `p` on are the ones at these addresses. -/
def IsChain (nodes : List ν) : Option Nat → List Nat → Prop
  | p, [] => p = none
  | p, a :: as => p = some a ∧ ∃ node, nodes[a]? = some node ∧ IsChain nodes (next node) as

/-- The address of the first node from `p` on that meets `f`, if there is one. The loop follows `fuel`
pointers at most, and none to where no node is. -/
def findFrom (f : ν → Bool) (nodes : List ν) : Nat → Option Nat → Option (Option Nat)
  | _, none => some none
  | 0, some _ => none
  | fuel + 1, some a =>
    match nodes[a]? with
    | none => none
    | some node => if f node then some (some a) else findFrom f nodes fuel (next node)

variable {next} {nodes : List ν} {p : Option Nat} {as : List Nat}

theorem findFrom_eq {f : ν → Bool} {fuel : Nat} (h : IsChain next nodes p as)
    (hfuel : as.length ≤ fuel) :
    findFrom next f nodes fuel p = some (as.find? fun a => nodes[a]?.any f) := by
  induction as generalizing p fuel with
  | nil =>
    obtain rfl : p = none := h
    cases fuel <;> rfl
  | cons a as ih =>
    obtain ⟨rfl, node, hnode, hrest⟩ := h
    rw [List.length_cons] at hfuel
    obtain ⟨fuel, rfl⟩ : ∃ k, fuel = k + 1 := ⟨fuel - 1, by omega⟩
    have hlength : as.length ≤ fuel := Nat.le_of_succ_le_succ hfuel
    unfold findFrom
    rw [hnode, List.find?_cons, hnode, Option.any_some]
    dsimp only
    cases hf : f node with
    | true => exact if_pos rfl
    | false =>
      rw [if_neg Bool.false_ne_true]
      exact ih hrest hlength

theorem IsChain.lt_length (h : IsChain next nodes p as) : ∀ a ∈ as, a < nodes.length := by
  induction as generalizing p with
  | nil => exact fun a ha => absurd ha List.not_mem_nil
  | cons a as ih =>
    obtain ⟨-, node, hnode, hrest⟩ := h
    intro b hb
    rcases List.mem_cons.1 hb with rfl | hb
    · exact (List.getElem?_eq_some_iff.1 hnode).1
    · exact ih hrest b hb

/-- Addresses that get smaller are not more than the addresses there are. -/
theorem length_le_of_newest {as : List Nat} {n : Nat} (hnewest : as.Pairwise (· > ·))
    (hlt : ∀ a ∈ as, a < n) : as.length ≤ n := by
  induction as generalizing n with
  | nil => exact Nat.zero_le n
  | cons a as ih =>
    obtain ⟨hrest, hnewest⟩ := List.pairwise_cons.1 hnewest
    exact Nat.succ_le_of_lt (Nat.lt_of_le_of_lt (ih hnewest hrest) (hlt a List.mem_cons_self))

/-- New nodes do not change a chain. -/
theorem IsChain.append (h : IsChain next nodes p as) (more : List ν) :
    IsChain next (nodes ++ more) p as := by
  induction as generalizing p with
  | nil => exact h
  | cons a as ih =>
    obtain ⟨rfl, node, hnode, hrest⟩ := h
    have hlt : a < nodes.length := (List.getElem?_eq_some_iff.1 hnode).1
    refine ⟨rfl, node, ?_, ih hrest⟩
    rw [List.getElem?_append_left hlt, hnode]

/-- A change that keeps the pointer of a node does not change a chain. -/
theorem IsChain.modify {g : ν → ν} (hg : ∀ node, next (g node) = next node)
    (h : IsChain next nodes p as) (b : Nat) : IsChain next (nodes.modify b g) p as := by
  induction as generalizing p with
  | nil => exact h
  | cons a as ih =>
    obtain ⟨rfl, node, hnode, hrest⟩ := h
    refine ⟨rfl, if b = a then g node else node, ?_, ?_⟩
    · rw [List.getElem?_modify, hnode]
      rfl
    · have hnext : next (if b = a then g node else node) = next node := by
        split
        · exact hg node
        · rfl
      rw [hnext]
      exact ih hrest

/-- Where the nodes of a chain are filed under their keys, the first node with a key is the one that
the chain has for it. -/
theorem find?_eq_lookup {κ : Type v} [DecidableEq κ] (key : ν → κ) {chain : List (κ × Nat)} (k : κ)
    (h : ∀ e ∈ chain, ∃ node, nodes[e.2]? = some node ∧ key node = e.1) :
    ((chain.map Prod.snd).find? fun a => nodes[a]?.any fun node => key node = k) =
      chain.lookup k := by
  induction chain with
  | nil => rfl
  | cons e chain ih =>
    obtain ⟨_, a⟩ := e
    obtain ⟨node, hnode, rfl⟩ := h _ List.mem_cons_self
    have hrest := ih fun e he => h e (List.mem_cons_of_mem _ he)
    rw [List.map_cons, List.find?_cons, hnode, Option.any_some, List.lookup_cons, hrest]
    by_cases heq : key node = k
    · rw [decide_eq_true heq, heq, beq_self_eq_true]
    · rw [decide_eq_false heq, beq_false_of_ne (Ne.symm heq)]

end

end MultiDAQ.Lib
