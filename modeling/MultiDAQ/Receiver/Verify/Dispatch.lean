import MultiDAQ.Receiver.Dispatch
import MultiDAQ.Receiver.Verify.Attribution

/-!
# Routing

The tables of the workers are to be one node for each identity (`Sources`): the items of an identity
reach the node that its payloads are looked up to, and no item of another identity does. They are
for a set of identities exactly when `Separated` holds of it (`routingAgrees_iff`): on the way the
identity is cut, on one side without notice, and it is compared and hashed up to its first NUL,
except where the worker of a payload is chosen.
-/

namespace MultiDAQ.Receiver

open MultiDAQ.Lib

/-! ## One node for each identity -/

structure Sources (μ : Type) where
  nodes : Bytes → Option (TankNode μ) := fun _ => none
  files : Files

namespace Sources

variable {μ : Type} (fileHeader : μ → Bytes)

def worker (t : Sources μ) (identity : Bytes) : Worker μ where
  sourceId := identity
  node := t.nodes identity
  files := t.files

def handle (t : Sources μ) (identity : Bytes) (item : QueueItem μ) : Option (Sources μ) :=
  (processItem fileHeader (t.worker identity) item).map fun w => {
    nodes := Function.update t.nodes identity w.node
    files := w.files }

def handleAll (t : Sources μ) : List (Bytes × QueueItem μ) → Option (Sources μ)
  | [] => some t
  | (identity, item) :: items =>
    match t.handle fileHeader identity item with
    | none => none
    | some t => t.handleAll items

end Sources

/-- The tables hold the node of each identity of the set where its payloads are looked up to. -/
def Workers.Holds {μ : Type} (numWorkers : Nat) (S : Set Bytes) (s : Workers μ)
    (t : Sources μ) : Prop :=
  s.files = t.files ∧ ∀ a ∈ S, s.dataNode numWorkers a = (t.worker a).getNode

/-- The workers agree, and whatever the identities of the set send, each has its own node. -/
structure RoutingAgrees {μ : Type} (fileHeader : μ → Bytes) (numWorkers : Nat) (S : Set Bytes) :
    Prop where
  worker : ∀ a ∈ S, (controlRoute numWorkers a).map Prod.fst = some (dataRoute numWorkers a).1
  node : ∀ files (items : List (Bytes × QueueItem μ)), (∀ i ∈ items, i.1 ∈ S) →
    Option.Rel (Workers.Holds numWorkers S)
      (Workers.arriveAll fileHeader numWorkers { files := files } items)
      (Sources.handleAll fileHeader { files := files } items)

/-- What the routing relies on: the identity fits, a NUL in it does not change the worker, and what
is before the first NUL tells it from the others. -/
structure Separated (numWorkers : Nat) (S : Set Bytes) : Prop where
  length : ∀ a ∈ S, a.length ≤ maxSourceIdLen - 1
  worker : ∀ a ∈ S, 0 ∈ a → workerAmong numWorkers (cString a) = workerAmong numWorkers a
  nonempty : ∀ a ∈ S, cString a = [] → a = []
  injective : ∀ a ∈ S, ∀ b ∈ S, cString a = cString b → a = b

/-! ## A worker and the name of its source -/

section Items

variable {μ : Type} {fileHeader : μ → Bytes} {w w' : Worker μ}

theorem openWorkerFile_snd (w : Worker μ) (path : ItemPath) (metainfo : μ) (format : OutputFormat)
    (allocated : Bool) : (openWorkerFile fileHeader w path metainfo format allocated).2 =
      if w.openFile.isSome then w
      else { w with
        node := addNode w path metainfo format allocated
        files := w.files.create fileHeader path.val format metainfo } := by
  unfold openWorkerFile
  split <;> rfl

/-- All that matters of the source id is whether it is empty. -/
theorem processItem_sourceId {id : Bytes} (h : id = [] ↔ w.sourceId = []) (item : QueueItem μ) :
    processItem fileHeader { w with sourceId := id } item =
      (processItem fileHeader w item).map fun w => { w with sourceId := id } := by
  have hnode : Worker.getNode { w with sourceId := id } = w.getNode := by
    unfold Worker.getNode
    simp only [h]
  cases item with
  | data payload =>
    simp only [processItem, processBatch, hnode]
    cases w.getNode with
    | none => rfl
    | some n =>
      dsimp only
      cases n.outputFile with
      | none => rfl
      | some path =>
        dsimp only
        generalize processRawEvents fileHeader _ w.files (payloadEvents payload) = written
        cases written with
        | none => rfl
        | some written => rfl
  | opening path metainfo outputFormat allocated =>
    have hopen : Worker.openFile { w with sourceId := id } = w.openFile :=
      congrArg (·.bind (·.outputFile)) hnode
    simp only [processItem, openWorkerFile_snd, Option.map_some, hopen]
    split
    next => rfl
    next => simp only [addNode, h]
  | closing =>
    simp only [processItem, closeWorkerFile, hnode]
    cases w.getNode with
    | none => rfl
    | some n =>
      dsimp only
      cases n.outputFile with
      | none => rfl
      | some path => rfl

theorem addNode_eq_none {path : ItemPath} {metainfo : μ} {format : OutputFormat} {allocated : Bool}
    (h : addNode w path metainfo format allocated = none) : w.node = none := by
  unfold addNode at h
  split at h
  next => exact h
  next =>
    split at h
    next => cases h
    next hn => exact hn

/-- A node is never removed. -/
theorem processItem_node {item : QueueItem μ} (h : processItem fileHeader w item = some w')
    (hnone : w'.node = none) : w.node = none := by
  cases item with
  | data payload =>
    simp only [processItem, processBatch] at h
    split at h
    next =>
      obtain rfl := Option.some.inj h
      exact hnone
    next =>
      split at h
      next =>
        obtain rfl := Option.some.inj h
        exact hnone
      next =>
        split at h
        next => cases h
        next =>
          obtain rfl := Option.some.inj h
          cases hnone
  | opening path metainfo outputFormat allocated =>
    simp only [processItem, openWorkerFile_snd] at h
    split at h
    next =>
      obtain rfl := Option.some.inj h
      exact hnone
    next =>
      obtain rfl := Option.some.inj h
      exact addNode_eq_none hnone
  | closing =>
    simp only [processItem, closeWorkerFile] at h
    split at h
    next =>
      obtain rfl := Option.some.inj h
      exact hnone
    next =>
      split at h
      next =>
        obtain rfl := Option.some.inj h
        exact hnone
      next =>
        obtain rfl := Option.some.inj h
        cases hnone

end Items

/-! ## Routes -/

section Routes

variable {numWorkers : Nat} {S : Set Bytes} {a b : Bytes}

theorem cString_of_notMem (h : 0 ∉ a) : cString a = a := by
  refine List.takeWhile_eq_self_iff.2 fun x hx => ?_
  simpa using fun e : x = 0 => h (e ▸ hx)

theorem dataRoute_of_length (h : a.length ≤ maxSourceIdLen - 1) :
    dataRoute numWorkers a = (workerAmong numWorkers a, cString a) := by
  unfold dataRoute
  rw [List.take_of_length_le h]

theorem controlRoute_of_length (h : a.length ≤ maxSourceIdLen - 1) :
    controlRoute numWorkers a = some (workerAmong numWorkers (cString a), cString a) := by
  unfold controlRoute
  rw [if_neg (Nat.not_lt_of_le h)]

namespace Separated

theorem controlRoute_eq (h : Separated numWorkers S) (ha : a ∈ S) :
    controlRoute numWorkers a = some (dataRoute numWorkers a) := by
  rw [controlRoute_of_length (h.length a ha), dataRoute_of_length (h.length a ha)]
  by_cases h₀ : 0 ∈ a
  · rw [h.worker a ha h₀]
  · rw [cString_of_notMem h₀]

theorem route_eq {μ : Type} (h : Separated numWorkers S) (ha : a ∈ S) (item : QueueItem μ) :
    route numWorkers a item = some (dataRoute numWorkers a) := by
  cases item with
  | data => rfl
  | opening | closing => exact h.controlRoute_eq ha

theorem sourceId_eq_nil (h : Separated numWorkers S) (ha : a ∈ S) :
    (dataRoute numWorkers a).2 = [] ↔ a = [] := by
  rw [dataRoute_of_length (h.length a ha)]
  refine ⟨h.nonempty a ha, fun hnil => ?_⟩
  rw [hnil]
  rfl

theorem sourceId_ne (h : Separated numWorkers S) (ha : a ∈ S) (hb : b ∈ S) (hne : b ≠ a) :
    (dataRoute numWorkers b).2 ≠ (dataRoute numWorkers a).2 := by
  rw [dataRoute_of_length (h.length a ha), dataRoute_of_length (h.length b hb)]
  exact fun heq => hne (h.injective b hb a ha heq)

end Separated

end Routes

/-! ## The tables hold the nodes -/

section Tables

variable {μ : Type} {fileHeader : μ → Bytes} {numWorkers : Nat} {S : Set Bytes} {a : Bytes}
  {s : Workers μ} {t : Sources μ} {items : List (Bytes × QueueItem μ)}

namespace Workers

/-- The entry of the tables for an identity. -/
def entry (s : Workers μ) (numWorkers : Nat) (identity : Bytes) : Option (TankNode μ) :=
  (s.tables (dataRoute numWorkers identity).1).find? keyIndex (dataRoute numWorkers identity).2

/-- The tables hold the nodes of the identities of the set. -/
def Represents (numWorkers : Nat) (S : Set Bytes) (s : Workers μ) (t : Sources μ) : Prop :=
  s.files = t.files ∧ ∀ a ∈ S, s.entry numWorkers a = t.nodes a

theorem Represents.holds (hS : Separated numWorkers S) (h : Represents numWorkers S s t) :
    Holds numWorkers S s t := by
  refine ⟨h.1, fun a ha => ?_⟩
  simp only [dataNode, Worker.getNode, TankTable.worker, Sources.worker, hS.sourceId_eq_nil ha,
    ← h.2 a ha]
  rfl

theorem find?_store_of_ne (t : TankTable μ) {id id' : Bytes} (hid : id' ≠ id)
    (node : Option (TankNode μ)) :
    (t.store id node).find? keyIndex id' = t.find? keyIndex id' := by
  cases node with
  | none => rfl
  | some n => exact t.find?_put_of_ne hid n

theorem Represents.arrive (hS : Separated numWorkers S) (h : Represents numWorkers S s t)
    (ha : a ∈ S) (item : QueueItem μ) : Option.Rel (Represents numWorkers S)
      (s.arrive fileHeader numWorkers a item) (t.handle fileHeader a item) := by
  unfold Workers.arrive
  rw [hS.route_eq ha]
  dsimp only
  have hview : (s.tables (dataRoute numWorkers a).1).worker (dataRoute numWorkers a).2 s.files =
      ⟨(dataRoute numWorkers a).2, t.nodes a, t.files⟩ := by
    unfold TankTable.worker
    rw [h.1, ← h.2 a ha]
    rfl
  have hprocess := @processItem_sourceId _ fileHeader (t.worker a) _ (hS.sourceId_eq_nil ha) item
  unfold handle Sources.handle
  rw [hview]
  refine hprocess ▸ ?_
  cases hw : processItem fileHeader (t.worker a) item with
  | none => exact .none
  | some w =>
    refine .some ⟨rfl, fun b hb => ?_⟩
    unfold entry
    dsimp only [Option.map_some]
    by_cases hba : b = a
    · subst hba
      rw [Function.update_self, Function.update_self]
      cases hnode : w.node with
      | none => exact (h.2 b hb).trans (processItem_node hw hnode)
      | some n => exact ChainedTable.find?_put_self _ _ n
    · rw [Function.update_of_ne hba, ← h.2 b hb]
      by_cases hworker : (dataRoute numWorkers b).1 = (dataRoute numWorkers a).1
      · rw [hworker, Function.update_self, find?_store_of_ne _ (hS.sourceId_ne ha hb hba)]
        unfold entry
        rw [hworker]
      · rw [Function.update_of_ne hworker]
        rfl

theorem Represents.arriveAll (hS : Separated numWorkers S) (h : Represents numWorkers S s t)
    (hitems : ∀ i ∈ items, i.1 ∈ S) : Option.Rel (Represents numWorkers S)
      (s.arriveAll fileHeader numWorkers items) (t.handleAll fileHeader items) := by
  induction items generalizing s t with
  | nil => exact .some h
  | cons i items ih =>
    obtain ⟨a, item⟩ := i
    have hstep := @arrive _ fileHeader _ _ _ _ _ hS h (hitems _ List.mem_cons_self) item
    unfold Workers.arriveAll Sources.handleAll
    dsimp only at hstep ⊢
    generalize Workers.arrive fileHeader numWorkers s a item = s' at hstep ⊢
    generalize t.handle fileHeader a item = t' at hstep ⊢
    cases hstep with
    | none => exact .none
    | some hnext => exact ih hnext fun i hi => hitems i (List.mem_cons_of_mem _ hi)

end Workers

theorem Separated.agrees (hS : Separated numWorkers S) (fileHeader : μ → Bytes) :
    RoutingAgrees fileHeader numWorkers S where
  worker a ha := congrArg (Option.map Prod.fst) (hS.controlRoute_eq ha)
  node files items hitems := by
    have hinit : Workers.Represents numWorkers S { files := files } ({ files := files } : Sources μ) :=
      ⟨rfl, fun _ _ => rfl⟩
    have hrel := @Workers.Represents.arriveAll _ fileHeader _ _ _ _ _ hS hinit hitems
    generalize Workers.arriveAll fileHeader numWorkers { files := files } items = s at hrel ⊢
    generalize Sources.handleAll fileHeader { files := files } items = t at hrel ⊢
    cases hrel with
    | none => exact .none
    | some h => exact .some (h.holds hS)

/-! ## An OPEN of one identity -/

/-- An OPEN that nothing hinders. -/
def openItem [Inhabited μ] : QueueItem μ := .opening ⟨['A'], by decide⟩ default .csv true

theorem processItem_openItem [Inhabited μ] {id : Bytes} (hid : id ≠ []) (files : Files) :
    ∃ n files', processItem fileHeader ⟨id, none, files⟩ openItem = some ⟨id, some n, files'⟩ := by
  have hclosed : Worker.openFile (⟨id, none, files⟩ : Worker μ) = none := by
    simp [Worker.openFile, Worker.getNode]
  unfold openItem processItem
  dsimp only
  rw [openWorkerFile_snd, hclosed]
  simp only [Option.isSome_none, Bool.false_eq_true, if_false, addNode, hid, false_or,
    List.cons_ne_nil, Bool.not_true]
  exact ⟨_, _, rfl⟩

theorem Sources.handle_openItem [Inhabited μ] (hid : a ≠ []) (files : Files) :
    ∃ t, Sources.handleAll fileHeader { files := files } [(a, openItem)] = some t ∧
      (t.worker a).getNode.isSome ∧ ∀ b, b ≠ a → (t.worker b).getNode = none := by
  obtain ⟨n, files', hn⟩ := @processItem_openItem _ fileHeader _ _ hid files
  have hhandle : Sources.handle fileHeader { files := files } a openItem =
      some { nodes := Function.update (fun _ => none) a (some n), files := files' } :=
    congrArg (Option.map _) hn
  refine ⟨{ nodes := Function.update (fun _ => none) a (some n), files := files' }, ?_, ?_, ?_⟩
  · simp only [Sources.handleAll, hhandle]
  · simp [Worker.getNode, Sources.worker, hid]
  · intro b hb
    simp [Worker.getNode, Sources.worker, Function.update_of_ne hb]

theorem Workers.arrive_openItem [Inhabited μ] {b : Bytes} {worker : Nat} {id : Bytes}
    (hid : id ≠ []) (hroute : controlRoute numWorkers a = some (worker, id))
    (hb : dataRoute numWorkers b = (worker, id)) (files : Files) :
    ∃ s, Workers.arriveAll fileHeader numWorkers { files := files } [(a, openItem)] = some s ∧
      (s.dataNode numWorkers b).isSome := by
  obtain ⟨n, files', hn⟩ := @processItem_openItem _ fileHeader _ _ hid files
  have harrive : Workers.arrive fileHeader numWorkers { files := files } a openItem = some {
      tables := Function.update (fun _ => TankTable.createTable) worker
        (TankTable.createTable.store id (some n))
      files := files' } := by
    have hr : route numWorkers a (openItem : QueueItem μ) = some (worker, id) := hroute
    unfold Workers.arrive
    rw [hr]
    exact congrArg (Option.map _) hn
  refine ⟨{
    tables := Function.update (fun _ => TankTable.createTable) worker
      (TankTable.createTable.store id (some n))
    files := files' }, by simp only [Workers.arriveAll, harrive], ?_⟩
  simp only [Workers.dataNode, hb, Function.update_self, Worker.getNode, TankTable.worker, hid,
    if_false, TankTable.store, ChainedTable.find?_put_self, Option.isSome_some]

end Tables

/-! ## Agreement -/

section Agreement

variable {μ : Type} {fileHeader : μ → Bytes} {numWorkers : Nat} {S : Set Bytes}

namespace RoutingAgrees

theorem length (h : RoutingAgrees fileHeader numWorkers S) {a : Bytes} (ha : a ∈ S) :
    a.length ≤ maxSourceIdLen - 1 := by
  by_contra hlong
  have hworker := h.worker a ha
  unfold controlRoute at hworker
  rw [if_pos (Nat.lt_of_not_le hlong)] at hworker
  cases hworker

theorem workerAmong_eq (h : RoutingAgrees fileHeader numWorkers S) {a : Bytes} (ha : a ∈ S) :
    workerAmong numWorkers (cString a) = workerAmong numWorkers a := by
  have hworker := h.worker a ha
  rw [controlRoute_of_length (h.length ha), dataRoute_of_length (h.length ha)] at hworker
  exact Option.some.inj hworker

/-- After an OPEN of one identity, another one does not have a node. -/
theorem dataNode_of_open [Inhabited μ] (h : RoutingAgrees fileHeader numWorkers S) {a : Bytes}
    (ha : a ∈ S) (hne : a ≠ []) {s : Workers μ}
    (hs : Workers.arriveAll fileHeader numWorkers { files := .empty } [(a, openItem)] = some s) :
    (s.dataNode numWorkers a).isSome ∧ ∀ b ∈ S, b ≠ a → s.dataNode numWorkers b = none := by
  obtain ⟨t, ht, hself, hother⟩ := @Sources.handle_openItem _ fileHeader _ _ hne .empty
  have hrel := h.node .empty [(a, openItem)] (by simpa using ha)
  rw [hs, ht] at hrel
  cases hrel with
  | some hholds =>
    refine ⟨?_, fun b hb hba => ?_⟩
    · rwa [hholds.2 a ha]
    · rw [hholds.2 b hb, hother b hba]

theorem nonempty [Inhabited μ] (h : RoutingAgrees fileHeader numWorkers S) {a : Bytes}
    (ha : a ∈ S) (hnil : cString a = []) : a = [] := by
  by_contra hne
  obtain ⟨t, ht, hself, -⟩ := @Sources.handle_openItem _ fileHeader _ _ hne .empty
  have hrel := h.node .empty [(a, openItem)] (by simpa using ha)
  rw [ht] at hrel
  generalize Workers.arriveAll fileHeader numWorkers { files := .empty } [(a, openItem)] = s at hrel
  cases hrel with
  | @some s _ hholds =>
    have hnone : s.dataNode numWorkers a = none := by
      simp [Workers.dataNode, dataRoute_of_length (h.length ha), hnil, TankTable.worker,
        Worker.getNode]
    rw [← hholds.2 a ha, hnone] at hself
    cases hself

theorem injective [Inhabited μ] (h : RoutingAgrees fileHeader numWorkers S) {a b : Bytes}
    (ha : a ∈ S) (hb : b ∈ S) (heq : cString a = cString b) : a = b := by
  by_contra hne
  by_cases hnil : cString a = []
  · exact hne ((h.nonempty ha hnil).trans (h.nonempty hb (heq ▸ hnil)).symm)
  · have hroute : controlRoute numWorkers a = some (workerAmong numWorkers (cString a), cString a) :=
      controlRoute_of_length (h.length ha)
    have hdata : dataRoute numWorkers b = (workerAmong numWorkers (cString a), cString a) := by
      rw [dataRoute_of_length (h.length hb), heq, h.workerAmong_eq hb]
    obtain ⟨s, hs, hsome⟩ :=
      @Workers.arrive_openItem _ fileHeader _ _ _ _ _ _ hnil hroute hdata .empty
    have hanil : a ≠ [] := by
      rintro rfl
      exact hnil rfl
    have hnone := (h.dataNode_of_open ha hanil hs).2 b hb fun hba => hne hba.symm
    rw [hnone] at hsome
    cases hsome

end RoutingAgrees

/-- The routing agrees for a set of identities exactly when they are separated, as all identities
that fit and have no NUL are (`Separated.of_fits`). -/
theorem routingAgrees_iff [Inhabited μ] (fileHeader : μ → Bytes) (numWorkers : Nat)
    (S : Set Bytes) : RoutingAgrees fileHeader numWorkers S ↔ Separated numWorkers S :=
  ⟨fun h => {
    length := fun _ ha => h.length ha
    worker := fun _ ha _ => h.workerAmong_eq ha
    nonempty := fun _ ha => h.nonempty ha
    injective := fun _ ha _ hb => h.injective ha hb }, fun hS => hS.agrees fileHeader⟩

/-- An identity of three bytes with a NUL has its payloads and its requests at two workers; one of 32
bytes cannot be opened, and its payloads go to the node of another identity. -/
theorem routing_disagrees :
    ¬ RoutingAgrees (fun _ : Unit => []) nWorkers {a | a.length ≤ 255} ∧
    (controlRoute nWorkers [65, 0, 66]).map Prod.fst ≠
      some (dataRoute nWorkers [65, 0, 66]).1 ∧
    controlRoute nWorkers (List.replicate 32 65) = none ∧
    dataRoute nWorkers (List.replicate 32 65) = dataRoute nWorkers (List.replicate 31 65) ∧
    controlRoute nWorkers (List.replicate 31 65) =
      some (dataRoute nWorkers (List.replicate 31 65)) := by
  refine ⟨fun h => ?_, by decide +kernel, by decide, by decide +kernel, by decide +kernel⟩
  have hlen := h.length (a := List.replicate 32 65)
    (show (List.replicate 32 (65 : UInt8)).length ≤ 255 by decide)
  exact absurd hlen (by decide)

end Agreement

end MultiDAQ.Receiver
