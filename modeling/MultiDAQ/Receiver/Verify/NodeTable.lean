import MultiDAQ.Lib.Run
import MultiDAQ.Receiver.NodeTable

/-!
# The table of a worker is a finite map

Each bucket points to a chain of nodes, and the chains are those of a `ChainedTable` of addresses
(`Represents`). So the loop of a search finds the address that the table has for an identity, and an
identity that is not there gets a node in front of its chain. What the calls answer is therefore what
a finite map from the identities to the nodes answers (`replies_eq_map`). The worker of one source
does with its node what this map does with it (`addNode_eq_add`).
-/

namespace MultiDAQ.Receiver

open MultiDAQ.Lib

variable {μ : Type}

namespace NodeTable

/-! ## The chains of a table -/

/-- The chains in memory are the chains of addresses of the table `c`: each node has the identity that
its address is filed under, and the newest nodes come first. -/
structure Represents (t : NodeTable μ) (c : ChainedTable Bytes Nat) : Prop where
  numBuckets : c.numBuckets = t.numBuckets
  chain : ∀ i, IsChain ChainNode.next t.nodes (t.buckets i) ((c.buckets i).map Prod.snd)
  keyed : ∀ i, ∀ e ∈ c.buckets i, ∃ node, t.nodes[e.2]? = some node ∧ node.sourceId = e.1
  newest : ∀ i, ((c.buckets i).map Prod.snd).Pairwise (· > ·)

theorem represents_createTable (numBuckets : ℕ+) :
    (createTable numBuckets : NodeTable μ).Represents (.empty numBuckets) where
  numBuckets := rfl
  chain _ := rfl
  keyed _ _ he := absurd he List.not_mem_nil
  newest _ := List.Pairwise.nil

namespace Represents

variable {t : NodeTable μ} {c : ChainedTable Bytes Nat} {sourceId : Bytes} {address : Nat}

/-- The loop of a search ends, at the address that the table has for the identity. -/
theorem search (h : t.Represents c) (sourceId : Bytes) :
    t.search sourceId = some (c.find? keyIndex sourceId) := by
  have hchain := h.chain (keyIndex sourceId t.numBuckets)
  have hlength := length_le_of_newest (h.newest _) hchain.lt_length
  unfold NodeTable.search ChainedTable.find?
  rw [findFrom_eq hchain hlength, find?_eq_lookup ChainNode.sourceId sourceId (h.keyed _), h.numBuckets]

/-- The node at the address of an identity has this identity. -/
theorem exists_node (h : t.Represents c) (hfind : c.find? keyIndex sourceId = some address) :
    ∃ node, t.nodes[address]? = some node ∧ node.sourceId = sourceId :=
  h.keyed _ _ (ChainedTable.mem_of_find? hfind)

/-- Different identities have different nodes. -/
theorem address_injective {sourceId' : Bytes} (h : t.Represents c)
    (hfind : c.find? keyIndex sourceId = some address)
    (hfind' : c.find? keyIndex sourceId' = some address) : sourceId = sourceId' := by
  obtain ⟨node, hnode, rfl⟩ := h.exists_node hfind
  obtain ⟨node', hnode', rfl⟩ := h.exists_node hfind'
  rw [hnode] at hnode'
  rw [Option.some.inj hnode']

theorem write (h : t.Represents c) (address : Nat) (f : NodeData μ → NodeData μ) :
    (t.write address f).Represents c where
  numBuckets := h.numBuckets
  chain i := by
    let g : ChainNode μ → ChainNode μ := fun node => { node with toNodeData := f node.toNodeData }
    have hg : ∀ node, (g node).next = node.next := fun _ => rfl
    exact (h.chain i).modify hg address
  keyed i e he := by
    obtain ⟨node, hnode, hid⟩ := h.keyed i e he
    refine ⟨if address = e.2 then { node with toNodeData := f node.toNodeData } else node, ?_, ?_⟩
    · show (t.nodes.modify address _)[e.2]? = _
      rw [List.getElem?_modify, hnode]
      rfl
    · split <;> exact hid
  newest := h.newest

/-- A node for an identity that is not there. -/
theorem prepend (h : t.Represents c) (hnone : c.find? keyIndex sourceId = none)
    (n : NodeData μ) :
    (t.prepend sourceId n).Represents (c.put keyIndex sourceId t.nodes.length) := by
  have hput : (c.put keyIndex sourceId t.nodes.length).buckets =
      Function.update c.buckets (keyIndex sourceId t.numBuckets)
        ((sourceId, t.nodes.length) :: c.buckets (keyIndex sourceId t.numBuckets)) := by
    rw [← h.numBuckets]
    exact congrArg (Function.update c.buckets _) (ChainedTable.putIn_of_lookup_eq_none hnone _)
  have hnew : (t.prepend sourceId n).nodes[t.nodes.length]? = some
      { n with sourceId, next := t.buckets (keyIndex sourceId t.numBuckets) } := by
    show (t.nodes ++ [_])[t.nodes.length]? = _
    rw [List.getElem?_append_right (Nat.le_refl _), Nat.sub_self]
    rfl
  have hold {a : Nat} {node : ChainNode μ} (ha : t.nodes[a]? = some node) :
      (t.prepend sourceId n).nodes[a]? = some node := by
    show (t.nodes ++ [_])[a]? = _
    rw [List.getElem?_append_left (List.getElem?_eq_some_iff.1 ha).1, ha]
  refine ⟨h.numBuckets, fun i => ?_, fun i => ?_, fun i => ?_⟩
  · rw [hput]
    by_cases hi : i = keyIndex sourceId t.numBuckets
    · subst hi
      rw [Function.update_self]
      refine ⟨Function.update_self _ _ _, _, hnew, ?_⟩
      exact (h.chain _).append _
    · rw [Function.update_of_ne hi]
      show IsChain _ _ (Function.update t.buckets _ _ i) _
      rw [Function.update_of_ne hi]
      exact (h.chain i).append _
  · rw [hput]
    by_cases hi : i = keyIndex sourceId t.numBuckets
    · subst hi
      rw [Function.update_self]
      intro e he
      rcases List.mem_cons.1 he with rfl | he
      · exact ⟨_, hnew, rfl⟩
      · obtain ⟨node, hnode, hid⟩ := h.keyed _ e he
        exact ⟨node, hold hnode, hid⟩
    · rw [Function.update_of_ne hi]
      intro e he
      obtain ⟨node, hnode, hid⟩ := h.keyed i e he
      exact ⟨node, hold hnode, hid⟩
  · rw [hput]
    by_cases hi : i = keyIndex sourceId t.numBuckets
    · subst hi
      rw [Function.update_self, List.map_cons, List.pairwise_cons]
      exact ⟨(h.chain _).lt_length, h.newest _⟩
    · rw [Function.update_of_ne hi]
      exact h.newest i

end Represents

/-! ## The map of a table -/

/-- The map has the node that the table has for each identity, at the same address. -/
structure Agrees (t : NodeTable μ) (c : ChainedTable Bytes Nat) (m : NodeMap μ) : Prop where
  represents : t.Represents c
  made : m.made = t.nodes.length
  nil : m.nodes.get? [] = none
  get? : ∀ sourceId, m.nodes.get? sourceId =
    (c.find? keyIndex sourceId).bind fun a => t.nodes[a]?.map fun node => (a, node.toNodeData)

theorem agrees_createTable (numBuckets : ℕ+) :
    (createTable numBuckets : NodeTable μ).Agrees (.empty numBuckets) {} where
  represents := represents_createTable numBuckets
  made := rfl
  nil := rfl
  get? _ := rfl

namespace Agrees

variable {t : NodeTable μ} {c : ChainedTable Bytes Nat} {m m' : NodeMap μ} {sourceId : Bytes}
  {address : Nat} {n : NodeData μ}

theorem find?_of_none (h : t.Agrees c m) (hnone : m.nodes.get? sourceId = none) :
    c.find? keyIndex sourceId = none := by
  cases hfind : c.find? keyIndex sourceId with
  | none => rfl
  | some address =>
    obtain ⟨node, hnode, -⟩ := h.represents.exists_node hfind
    rw [h.get?, hfind, Option.bind_some, hnode] at hnone
    cases hnone

theorem find?_of_some (h : t.Agrees c m) (hsome : m.nodes.get? sourceId = some (address, n)) :
    c.find? keyIndex sourceId = some address ∧
      ∃ node, t.nodes[address]? = some node ∧ node.toNodeData = n := by
  rw [h.get?] at hsome
  obtain ⟨a, hfind, hread⟩ := Option.bind_eq_some_iff.1 hsome
  obtain ⟨node, hnode, heq⟩ := Option.map_eq_some_iff.1 hread
  obtain ⟨rfl, rfl⟩ := Prod.mk.inj heq
  exact ⟨hfind, node, hnode, rfl⟩

/-- The fields of the node of an identity are written. -/
theorem write (h : t.Agrees c m) (hsome : m.nodes.get? sourceId = some (address, n))
    (f : NodeData μ → NodeData μ) (hmade : m'.made = m.made)
    (hget : ∀ id, m'.nodes.get? id =
      if id = sourceId then some (address, f n) else m.nodes.get? id) :
    (t.write address f).Agrees c m' := by
  obtain ⟨hfind, node, hnode, rfl⟩ := h.find?_of_some hsome
  refine ⟨h.represents.write address f, ?_, ?_, fun id => ?_⟩
  · rw [hmade, h.made]
    exact (List.length_modify _ _ _).symm
  · rw [hget, if_neg, h.nil]
    rintro rfl
    rw [h.nil] at hsome
    cases hsome
  · have hread (a : Nat) : (t.write address f).nodes[a]? = t.nodes[a]?.map fun node =>
        if address = a then { node with toNodeData := f node.toNodeData } else node :=
      List.getElem?_modify ..
    rw [hget]
    split
    next hid =>
      rw [hid, hfind, Option.bind_some, hread, hnode, Option.map_some, if_pos rfl]
      rfl
    next hid =>
      rw [h.get?]
      cases hother : c.find? keyIndex id with
      | none => rfl
      | some a =>
        have hne : address ≠ a := by
          rintro rfl
          exact hid (h.represents.address_injective hother hfind)
        rw [Option.bind_some, Option.bind_some, hread]
        simp only [hne, if_false, Option.map_id_fun', id_eq]

/-- A new node is made for an identity that is not there. -/
theorem prepend (h : t.Agrees c m) (hnone : m.nodes.get? sourceId = none) (hid : sourceId ≠ [])
    (n : NodeData μ) (hmade : m'.made = m.made + 1)
    (hget : ∀ id, m'.nodes.get? id = if id = sourceId then some (m.made, n) else m.nodes.get? id) :
    (t.prepend sourceId n).Agrees (c.put keyIndex sourceId t.nodes.length) m' := by
  have hrep := h.represents.prepend (h.find?_of_none hnone) n
  refine ⟨hrep, ?_, ?_, fun id => ?_⟩
  · rw [hmade, h.made]
    show _ = (t.nodes ++ [_]).length
    rw [List.length_append, List.length_singleton]
  · rw [hget, if_neg (Ne.symm hid), h.nil]
  · rw [hget]
    split
    next heq =>
      rw [heq, ChainedTable.find?_put_self, Option.bind_some, h.made]
      show _ = (t.nodes ++ [_])[t.nodes.length]?.map _
      rw [List.getElem?_append_right (Nat.le_refl _), Nat.sub_self]
      rfl
    next hne =>
      rw [ChainedTable.find?_put_of_ne c hne, h.get?]
      cases hother : c.find? keyIndex id with
      | none => rfl
      | some a =>
        obtain ⟨node, hnode, -⟩ := h.represents.exists_node hother
        show t.nodes[a]?.map _ = (t.nodes ++ [_])[a]?.map _
        rw [List.getElem?_append_left (List.getElem?_eq_some_iff.1 hnode).1]

end Agrees

/-! ## Calls -/

/-- `add_node` after its checks. -/
theorem addNode_eq (t : NodeTable μ) (call : AddNode μ) :
    t.addNode call =
      match NodeMap.accepted call with
      | none => t.refused
      | some (sourceId, outputFile, filePath) =>
        match t.search sourceId with
        | none => none
        | some (some address) =>
          t.nodes[address]?.map fun node => (true,
            t.write address fun n => n.reopen outputFile call.metadata call.outputFormat filePath,
            node.release outputFile)
        | some none =>
          if !call.allocated then t.refused
          else some (true, t.prepend sourceId
            (.createNode outputFile call.metadata call.outputFormat filePath), []) := by
  obtain ⟨sourceId, outputFile, metadata, outputFormat, filePath, allocated⟩ := call
  cases sourceId with
  | none => rfl
  | some sourceId =>
    cases sourceId with
    | nil => cases outputFile <;> cases filePath <;> rfl
    | cons b sourceId =>
      cases outputFile with
      | none => rfl
      | some outputFile =>
        cases filePath with
        | none => rfl
        | some filePath =>
          cases filePath with
          | nil => rfl
          | cons ch filePath =>
            unfold addNode NodeMap.accepted
            simp only [reduceCtorEq, or_self, if_false]
            cases t.search (b :: sourceId) with
            | none => rfl
            | some pointer =>
              cases pointer with
              | none => rfl
              | some address =>
                dsimp only
                cases t.nodes[address]? <;> rfl

theorem accepted_ne_nil {call : AddNode μ} {sourceId : Bytes} {outputFile : Nat} {filePath : Path}
    (h : NodeMap.accepted call = some (sourceId, outputFile, filePath)) : sourceId ≠ [] := by
  unfold NodeMap.accepted at h
  split at h
  · split at h
    next => cases h
    next hne =>
      cases h
      exact fun hnil => hne (.inl hnil)
  · cases h

/-- The file of the node is released as the map says. -/
theorem release_eq_closes (n : NodeData μ) (outputFile : Nat) :
    n.release outputFile = NodeMap.closes n outputFile := by
  unfold NodeData.release NodeMap.closes
  cases n.outputFile with
  | none => rfl
  | some file =>
    dsimp only
    split
    · rfl
    · split <;> rfl

variable {t : NodeTable μ} {c : ChainedTable Bytes Nat} {m : NodeMap μ}

theorem Agrees.addNode (h : t.Agrees c m) (call : AddNode μ) : ∃ ok t' files c',
    t.addNode call = some (ok, t', files) ∧ (m.add call).2 = .added ok files ∧
      t'.Agrees c' (m.add call).1 := by
  rw [addNode_eq]
  unfold NodeMap.add
  cases haccepted : NodeMap.accepted call with
  | none => exact ⟨_, _, _, c, rfl, rfl, h⟩
  | some accepted =>
    obtain ⟨sourceId, outputFile, filePath⟩ := accepted
    dsimp only
    rw [h.represents.search]
    cases hget : m.nodes.get? sourceId with
    | some entry =>
      obtain ⟨address, n⟩ := entry
      obtain ⟨hfind, node, hnode, hn⟩ := h.find?_of_some hget
      rw [hfind]
      dsimp only
      rw [hnode, ← hn]
      refine ⟨_, _, _, c, rfl, congrArg _ (release_eq_closes _ _).symm, h.write hget _ rfl fun id => ?_⟩
      rw [Dict.get?_set, hn]
      rfl
    | none =>
      rw [h.find?_of_none hget]
      dsimp only
      cases hallocated : call.allocated with
      | false => exact ⟨_, _, _, c, rfl, rfl, h⟩
      | true =>
        exact ⟨_, _, _, _, rfl, rfl, h.prepend hget (accepted_ne_nil haccepted) _ rfl fun id =>
          Dict.get?_set ..⟩

/-- A pointer that is looked up is that of the map, and so is what it points to. -/
theorem Agrees.getNode (h : t.Agrees c m) (sourceId : Option Bytes) :
    (t.getNode sourceId).bind t.deref = some (m.find sourceId) := by
  have hsearch (id : Bytes) : (t.search id).bind t.deref = some (m.nodes.get? id) := by
    rw [h.represents.search, Option.bind_some]
    cases hget : m.nodes.get? id with
    | none =>
      rw [h.find?_of_none hget]
      rfl
    | some entry =>
      obtain ⟨address, n⟩ := entry
      obtain ⟨hfind, node, hnode, rfl⟩ := h.find?_of_some hget
      rw [hfind]
      unfold deref
      dsimp only [Option.bind_some]
      rw [hnode]
      rfl
  cases sourceId with
  | none => rfl
  | some id =>
    cases id with
    | nil => exact congrArg some h.nil.symm
    | cons b id => exact hsearch (b :: id)

/-- One call: the table answers what the map answers, and they still agree. -/
theorem Agrees.step (h : t.Agrees c m) (call : TableCall μ) : ∃ t' c',
    t.step call = some (t', (m.step call).2) ∧ t'.Agrees c' (m.step call).1 := by
  cases call with
  | add call =>
    obtain ⟨ok, t', files, c', hadd, hreply, hagrees⟩ := h.addNode call
    refine ⟨t', c', ?_, hagrees⟩
    show (t.addNode call).map _ = some (t', (m.add call).2)
    rw [hadd, hreply]
    rfl
  | get sourceId =>
    obtain ⟨pointer, hpointer, hread⟩ := Option.bind_eq_some_iff.1 (h.getNode sourceId)
    refine ⟨t, c, ?_, h⟩
    show (t.getNode sourceId).bind _ = _
    rw [hpointer, Option.bind_some, hread]
    rfl
  | write sourceId f =>
    obtain ⟨pointer, hpointer, hread⟩ := Option.bind_eq_some_iff.1 (h.getNode (some sourceId))
    have hstep : t.step (.write sourceId f) = some
        ((m.find (some sourceId)).elim t fun e => t.write e.1 f, .found (m.find (some sourceId))) := by
      show (t.getNode (some sourceId)).bind _ = _
      rw [hpointer, Option.bind_some, hread]
      cases m.find (some sourceId) <;> rfl
    cases hget : m.nodes.get? sourceId with
    | none =>
      have hfind : m.find (some sourceId) = none := hget
      refine ⟨t, c, ?_, h.represents, h.made, ?_, fun id => ?_⟩
      · show _ = some (t, TableReply.found (m.find (some sourceId)))
        rw [hstep, hfind]
        rfl
      · show (m.nodes.modify _ _).get? [] = none
        rw [Dict.get?_modify, h.nil]
        split <;> rfl
      · show (m.nodes.modify _ _).get? id = _
        rw [Dict.get?_modify, ← h.get?]
        split
        next hid => rw [hid, hget, Option.map_none]
        next => rfl
    | some entry =>
      obtain ⟨address, n⟩ := entry
      have hfind : m.find (some sourceId) = some (address, n) := hget
      refine ⟨t.write address f, c, ?_, h.write hget f rfl fun id => ?_⟩
      · show _ = some (t.write address f, TableReply.found (m.find (some sourceId)))
        rw [hstep, hfind]
        rfl
      · show (m.nodes.modify _ _).get? id = _
        rw [Dict.get?_modify]
        split
        next hid => rw [hid, hget, Option.map_some]
        next => rfl

/-- A sequence of calls: the answers of the table are those of the map, and in the end they agree. -/
theorem Agrees.replies (calls : List (TableCall μ)) (h : t.Agrees c m) :
    t.replies calls = some (outputs NodeMap.step m calls) ∧
      ∃ (t' : NodeTable μ) (c' : ChainedTable Bytes Nat),
        t'.Agrees c' (finalState NodeMap.step m calls) := by
  induction calls generalizing t c m with
  | nil => exact ⟨rfl, t, c, h⟩
  | cons call calls ih =>
    obtain ⟨t', c', hstep, hagrees⟩ := h.step call
    obtain ⟨hreplies, hfinal⟩ := ih hagrees
    refine ⟨?_, hfinal⟩
    unfold NodeTable.replies
    rw [hstep, Option.bind_some]
    dsimp only
    rw [hreplies]
    rfl

/-- Whatever is called, the table answers what the map answers: no pointer leads to no node, no loop
goes on without end, and the node of an identity is the one that was last added for it. No two
identities share a node. -/
theorem replies_eq_map (numBuckets : ℕ+) (calls : List (TableCall μ)) :
    (createTable numBuckets).replies calls = some (outputs NodeMap.step {} calls) ∧
      let nodes := (finalState NodeMap.step ({} : NodeMap μ) calls).nodes
      ∀ sourceId sourceId' address n n', nodes.get? sourceId = some (address, n) →
        nodes.get? sourceId' = some (address, n') → sourceId = sourceId' := by
  obtain ⟨hreplies, t, c, h⟩ := (agrees_createTable (μ := μ) numBuckets).replies calls
  refine ⟨hreplies, fun sourceId sourceId' address n n' hsome hsome' => ?_⟩
  exact h.represents.address_injective (h.find?_of_some hsome).1 (h.find?_of_some hsome').1

end NodeTable

/-! ## The node of a source -/

/-- The node that the worker of one source has, when `pathOf` are the paths of the files. -/
def NodeData.tankNode (pathOf : Nat → Path) (n : NodeData μ) : TankNode μ where
  metadata := n.metadata
  outputFormat := n.outputFormat
  chunkIndex := n.chunkIndex
  bytesWritten := n.bytesWritten
  outputFile := n.outputFile.map pathOf
  filePath := n.filePath
  baseFilePath := n.baseFilePath
  eventsWritten := n.eventsWritten
  writeBuffer := n.writeBuffer
  eventsReceived := n.eventsReceived
  bytesReceived := n.bytesReceived

/-- The worker of a source does with its node what the map does with it. -/
theorem addNode_eq_add {m : NodeMap μ} {w : Worker μ} {path : ItemPath} {pathOf : Nat → Path}
    {file : Nat}
    (hnode : w.node = (m.nodes.get? w.sourceId).map fun e => e.2.tankNode pathOf)
    (hfile : pathOf file = path.val) (metainfo : μ) (format : OutputFormat) (allocated : Bool) :
    addNode w path metainfo format allocated =
      ((m.add {
        sourceId := some w.sourceId, outputFile := some file, metadata := metainfo
        outputFormat := format, filePath := some path.val, allocated := allocated
      }).1.nodes.get? w.sourceId).map fun e => e.2.tankNode pathOf := by
  unfold addNode NodeMap.add NodeMap.accepted
  by_cases hrefused : w.sourceId = [] ∨ path.val = []
  · rw [if_pos hrefused, hnode]
    dsimp only
    rw [if_pos hrefused]
  · rw [if_neg hrefused]
    dsimp only
    rw [if_neg hrefused]
    dsimp only
    cases hget : m.nodes.get? w.sourceId with
    | some entry =>
      rw [hget] at hnode
      rw [hnode, Dict.get?_set, if_pos rfl, ← hfile]
      rfl
    | none =>
      rw [hget] at hnode
      rw [hnode]
      cases allocated with
      | false => exact (congrArg (Option.map _) hget).symm
      | true =>
        dsimp only
        rw [if_pos rfl, Dict.get?_set, if_pos rfl, ← hfile]
        rfl

end MultiDAQ.Receiver
