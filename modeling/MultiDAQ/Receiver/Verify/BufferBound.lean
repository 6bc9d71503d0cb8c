import MultiDAQ.Receiver.Verify.Streams

/-!
# The bound of the write buffer

A record is shorter than 256 bytes, and a flush leaves at least 256 bytes of the buffer free. So
between two events the node of a source is `Roomy`: that holds in every run, whatever calls of the
file system fail (`buffer_bounded`).
-/

namespace MultiDAQ.Receiver

open MultiDAQ.Lib

/-- The node has room for a record, as it is between two events. -/
def StreamNode.Roomy {μ : Type} (n : StreamNode μ) : Prop :=
  n.writeBuffer.length ≤ writeBufferSize - 256

/-- What the code that encodes an event finds and leaves: the record is as short as its format makes
it, and it fits behind what is in the buffer, for a line of text with the NUL that `snprintf` adds.
-/
structure StreamNode.Fits {μ : Type} (n : StreamNode μ) (e : EventRecord) : Prop where
  used : n.writeBuffer.length ≤ writeBufferSize - 256
  record : (e.encode n.outputFormat).length ≤
    match n.outputFormat with
    | .bin => 12
    | .csv => 34
  room : n.writeBuffer.length + (e.encode n.outputFormat).length < writeBufferSize
  after : (n.buffered e).writeBuffer.length ≤ writeBufferSize

namespace StreamNode

variable {μ : Type} {fileHeader : μ → Bytes} {fs : FileSystem} {n : StreamNode μ}

theorem Roomy.fits (h : n.Roomy) {e : EventRecord} (he : e.Narrow) : n.Fits e := by
  have hrecord : (e.encode n.outputFormat).length ≤
      match n.outputFormat with
      | .bin => 12
      | .csv => 34 := by
    cases n.outputFormat with
    | bin => exact Nat.le_of_eq (binary_length e)
    | csv =>
      have hline := csvLine_length he
      simpa [EventRecord.encode, asciiBytes] using hline
  have hlen := encode_length he n.outputFormat
  have hroom : n.writeBuffer.length + (e.encode n.outputFormat).length < writeBufferSize := by
    unfold Roomy writeBufferSize at h
    unfold writeBufferSize
    omega
  refine ⟨h, hrecord, hroom, ?_⟩
  rw [buffered, List.length_append]
  exact Nat.le_of_lt hroom

theorem rolloverFile_writeBuffer (n : StreamNode μ) (calls : StreamCalls) :
    (n.rolloverFile fileHeader fs calls).1.writeBuffer = n.writeBuffer := by
  unfold rolloverFile
  dsimp only
  split
  · rfl
  · split <;> rfl

/-- A flush empties the buffer, also when it goes on to the next file. -/
theorem flushBuffer_writeBuffer (n : StreamNode μ) (calls : StreamCalls) :
    (n.flushBuffer fileHeader fs calls).1.writeBuffer = [] := by
  unfold flushBuffer
  dsimp only
  split
  · exact rolloverFile_writeBuffer _ _
  · rfl

theorem roomy_of_nil (h : n.writeBuffer = []) : n.Roomy := by
  rw [Roomy, h]
  exact Nat.zero_le _

theorem roomy_of_not_flushDue {eventsWritten : Nat}
    (h : ¬flushDue n.writeBuffer.length eventsWritten = true) : n.Roomy := by
  unfold flushDue at h
  unfold Roomy
  generalize writeBufferSize - 256 = free at h ⊢
  rw [Bool.or_eq_true, not_or, decide_eq_true_eq, Nat.not_lt] at h
  exact h.1

theorem roomy_processRawEvent (h : n.Roomy) (calls : StreamCalls) (event : Bytes) :
    (n.processRawEvent fileHeader fs calls event).1.Roomy := by
  rw [processRawEvent_eq]
  split
  · unfold writeRecord
    dsimp only
    split
    · exact roomy_of_nil (flushBuffer_writeBuffer _ _)
    · next hdue => exact roomy_of_not_flushDue hdue
  · exact h

theorem roomy_processRawEvents (events : List Bytes) :
    ∀ {n : StreamNode μ} {calls : StreamCalls}, n.Roomy →
      (n.processRawEvents fileHeader fs calls events).1.Roomy := by
  induction events with
  | nil => exact fun h => h
  | cons event events ih =>
    intro n calls h
    rw [processRawEvents_cons]
    exact ih (roomy_processRawEvent h calls event)

end StreamNode

/-! ## Items -/

namespace StreamWorker

variable {μ : Type} {fileHeader : μ → Bytes} {fs : FileSystem} {w : StreamWorker μ}

/-- The node of the source, if there is one, has room for a record. -/
def Roomy (w : StreamWorker μ) : Prop := ∀ n, w.node = some n → n.Roomy

theorem Roomy.of_node {w' : StreamWorker μ} (h : w.Roomy) (hnode : w'.node = w.node) :
    w'.Roomy := by
  unfold Roomy
  rwa [hnode]

theorem Roomy.of_nil {n : StreamNode μ} (hnode : w.node = some n) (hn : n.writeBuffer = []) :
    w.Roomy := by
  intro n' hn'
  obtain rfl := Option.some.inj (hnode.symm.trans hn')
  exact StreamNode.roomy_of_nil hn

theorem node_of_getNode {n : StreamNode μ} (h : w.getNode = some n) : w.node = some n := by
  unfold getNode at h
  split at h
  · cases h
  · exact h

theorem roomy_addNode (h : w.Roomy) (file : Nat) (path : ItemPath) (metainfo : μ)
    (format : OutputFormat) (allocated : Bool) :
    (w.addNode file path metainfo format allocated).Roomy := by
  unfold addNode
  split
  · exact h
  · split
    · exact .of_nil rfl rfl
    · split
      · exact h
      · exact .of_nil rfl rfl

theorem roomy_openWorkerFile (h : w.Roomy) (path : ItemPath) (metainfo : μ)
    (format : OutputFormat) (allocated : Bool) :
    (w.openWorkerFile fileHeader fs path metainfo format allocated).2.Roomy := by
  unfold openWorkerFile
  split
  · exact h
  · dsimp only
    split
    · exact h.of_node rfl
    · split
      · exact h.of_node rfl
      · have hadd (calls : StreamCalls) : (addNode { w with calls := calls } w.calls.length path
            metainfo format allocated).Roomy :=
          roomy_addNode (w := { w with calls := calls }) h _ _ _ _ _
        split
        · exact hadd _
        · exact (hadd _).of_node rfl

theorem roomy_closeWorkerFile (h : w.Roomy) : (w.closeWorkerFile fs).2.Roomy := by
  unfold closeWorkerFile
  split
  · exact h
  · next n hn =>
    split
    · exact h
    · dsimp only
      split
      · next hnil => exact .of_nil rfl hnil
      · exact .of_nil rfl rfl

theorem roomy_processBatch (h : w.Roomy) (payload : Bytes) :
    (w.processBatch fileHeader fs payload).Roomy := by
  unfold processBatch
  split
  · exact h
  · next n hn =>
    split
    · exact h
    · intro n' hn'
      obtain rfl := Option.some.inj hn'
      exact StreamNode.roomy_processRawEvents _ (h n (node_of_getNode hn))

theorem roomy_processItem (h : w.Roomy) (item : QueueItem μ) :
    (w.processItem fileHeader fs item).Roomy := by
  cases item with
  | data payload => exact roomy_processBatch h payload
  | opening path metainfo format allocated => exact roomy_openWorkerFile h path metainfo format _
  | closing => exact roomy_closeWorkerFile h

/-- The node that the loop over the events of a payload has before the event number `k`. -/
def loopNode (fileHeader : μ → Bytes) (fs : FileSystem) (w : StreamWorker μ) (n : StreamNode μ)
    (payload : Bytes) (k : Nat) : StreamNode μ :=
  let events := payloadEvents payload
  ({ n with
    eventsReceived := n.eventsReceived + events.length
    bytesReceived := n.bytesReceived + payload.length }.processRawEvents fileHeader fs w.calls
      (events.take k)).1

end StreamWorker

/-- In every state of the worker of a source, whatever items it has taken and whatever calls fail:
wherever the loop over the events of a payload is, the record of the next event fits, and the buffer
is never used beyond its end. -/
theorem buffer_bounded {μ : Type} (fileHeader : μ → Bytes) (fs : FileSystem) (sourceId : Bytes)
    {w : StreamWorker μ} (hw : Reachable (fun w item => w.processItem fileHeader fs item)
      (⟨sourceId, none, []⟩ : StreamWorker μ) w) {n : StreamNode μ} (hn : w.getNode = some n) :
    n.writeBuffer.length ≤ writeBufferSize ∧
    ∀ payload k event, (w.loopNode fileHeader fs n payload k).Fits
      (decodeEvent (cutBuffer event)) := by
  have hrun : w.Roomy := by
    refine hw.invariant (fun w item h => ?_) ?_
    · exact StreamWorker.roomy_processItem h item
    · intro n hn
      cases hn
  have hroomy : n.Roomy := hrun n (StreamWorker.node_of_getNode hn)
  refine ⟨Nat.le_trans hroomy (Nat.sub_le _ _), fun payload k event => ?_⟩
  refine StreamNode.Roomy.fits ?_ (decodeEvent_narrow _)
  exact StreamNode.roomy_processRawEvents _ hroomy

/-- The node of a source after its first OPEN. -/
def openedNode : StreamNode Unit where
  metadata := ()
  outputFormat := .csv
  chunkIndex := 0
  bytesWritten := 0
  outputFile := some 0
  filePath := runPath.val.take 255
  baseFilePath := runPath.val.take 255
  eventsWritten := 0
  writeBuffer := []
  eventsReceived := 0
  bytesReceived := 0

theorem buffer_bounded_openedNode :
    ∃ w : StreamWorker Unit, w.getNode = some openedNode ∧
      (w.loopNode (fun _ => []) ⟨fun _ => false, fun _ => 0⟩ openedNode validEvent 1).Fits
        (decodeEvent (cutBuffer validEvent)) :=
  ⟨_, rfl, (buffer_bounded (fun _ => []) ⟨fun _ => false, fun _ => 0⟩ [65]
    ⟨[.opening runPath () .csv true], rfl⟩ rfl).2 validEvent 1 validEvent⟩

end MultiDAQ.Receiver
