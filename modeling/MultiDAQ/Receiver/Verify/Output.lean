import MultiDAQ.Lib.SegmentedLog
import MultiDAQ.Receiver.Verify.Encoding
import MultiDAQ.Receiver.Verify.FilePath
import MultiDAQ.Receiver.Worker

/-!
# The output of a worker

The files and the buffer of an open source are a segmented log (`Represents`): the chunk files are
its segments, the write buffer is its buffer. Handling an event appends its record to the log, and
flushing, rolling over, closing and shutting down do not change what the log says. So the chunk
files of an acquisition hold the records of its valid events, in order and once each
(`records_exactly_once`).
-/

namespace MultiDAQ.Receiver

open MultiDAQ.Lib

/-- An event that is written: its CRC is valid, and it is not the excluded pattern. -/
def recorded (event : Bytes) : Bool :=
  checkCrc (cutBuffer event) && !(decodeEvent (cutBuffer event)).excluded

/-- The record of an event. -/
def encodeEvent (format : OutputFormat) (event : Bytes) : Bytes :=
  (decodeEvent (cutBuffer event)).encode format

/-- What the events of a list add to the output. -/
def encodeEvents (format : OutputFormat) (events : List Bytes) : Bytes :=
  (events.filter recorded).flatMap (encodeEvent format)

/-- The events of the DATA items of a list. -/
def itemEvents {μ : Type} (items : List (QueueItem μ)) : List Bytes :=
  items.flatMap fun
    | .data payload => payloadEvents payload
    | _ => []

theorem encodeEvents_append (format : OutputFormat) (events events' : List Bytes) :
    encodeEvents format (events ++ events') =
      encodeEvents format events ++ encodeEvents format events' := by
  simp [encodeEvents]

/-! ## Files -/

section Files

variable {files : Files} {path path' : Path}

theorem Files.get?_fwrite (data : Bytes) :
    (files.fwrite path data).get? path' =
      if path' = path then (files.get? path').map (· ++ data) else files.get? path' :=
  Dict.get?_modify _ _ _ _

theorem Files.get?_create {μ : Type} (fileHeader : μ → Bytes) (format : OutputFormat)
    (metadata : μ) :
    (files.create fileHeader path format metadata).get? path' =
      if path' = path then some (fileHead fileHeader format metadata) else files.get? path' := by
  unfold Files.create
  rw [Files.get?_fwrite, Files.fopen, Dict.get?_set]
  by_cases h : path' = path <;> simp [h]

end Files

variable {μ : Type} {fileHeader : μ → Bytes} {base : Path} {format : OutputFormat} {metadata : μ}
  {n : TankNode μ} {files : Files} {log : SegmentedLog UInt8}

/-- The chunk files of an acquisition and the write buffer of its node are the log: each segment is
in its file, after the header. -/
structure Represents (fileHeader : μ → Bytes) (base : Path) (format : OutputFormat) (metadata : μ)
    (n : TankNode μ) (files : Files) (log : SegmentedLog UInt8) : Prop where
  baseFilePath : n.baseFilePath = base
  outputFormat : n.outputFormat = format
  metainfo : n.metadata = metadata
  outputFile : n.outputFile = some (chunkName base n.chunkIndex)
  chunks : log.closed.length = n.chunkIndex
  buffer : n.writeBuffer = log.buffer
  files : ∀ i segment, log.segments[i]? = some segment →
    files.get? (chunkName base i) = some (fileHead fileHeader format metadata ++ segment)

namespace Represents

/-- A record appended to the buffer. -/
theorem append (h : Represents fileHeader base format metadata n files log) (record : Bytes)
    (eventsWritten : Nat) :
    Represents fileHeader base format metadata
      { n with writeBuffer := n.writeBuffer ++ record, eventsWritten := eventsWritten } files
      (log.append record) :=
  { h with buffer := by simp [h.buffer] }

/-- The buffer written to the current chunk. -/
theorem fwrite (hpath : IsBuiltFilePath base)
    (h : Represents fileHeader base format metadata n files log) (bytesWritten : Nat) :
    Represents fileHeader base format metadata
      { n with bytesWritten := bytesWritten, writeBuffer := [] }
      (files.fwrite (chunkName base n.chunkIndex) n.writeBuffer) log.flush :=
  { h with
    buffer := rfl
    files := by
      intro i segment hi
      rw [Files.get?_fwrite]
      by_cases hlast : i = n.chunkIndex
      · have hlog : log.segments[i]? = some log.current := by
          simp [SegmentedLog.segments, hlast, h.chunks]
        have hflush : log.flush.segments[i]? = some (log.current ++ log.buffer) := by
          simp [SegmentedLog.segments, SegmentedLog.flush, hlast, h.chunks]
        obtain rfl := Option.some.inj (hflush.symm.trans hi)
        rw [hlast] at hlog ⊢
        rw [if_pos rfl, h.files _ _ hlog, h.buffer]
        simp
      · have hne : chunkName base i ≠ chunkName base n.chunkIndex := fun he =>
          hlast (chunkName_injective hpath he)
        rw [if_neg hne]
        refine h.files i segment (Eq.trans ?_ hi)
        have hi' : i < log.closed.length := by
          have hlt := (List.getElem?_eq_some_iff.1 hi).1
          simp only [SegmentedLog.segments, SegmentedLog.flush, List.length_append,
            List.length_cons, List.length_nil] at hlt
          have hchunks := h.chunks
          omega
        simp [SegmentedLog.segments, SegmentedLog.flush, List.getElem?_append_left hi'] }

/-- A rollover begins the next segment. -/
theorem roll (hpath : IsBuiltFilePath base)
    (h : Represents fileHeader base format metadata n files log) :
    Represents fileHeader base format metadata (rolloverFile fileHeader n files).1
      (rolloverFile fileHeader n files).2 log.roll where
  baseFilePath := h.baseFilePath
  outputFormat := h.outputFormat
  metainfo := h.metainfo
  outputFile := by simp [rolloverFile, h.baseFilePath, chunkName]
  chunks := by simp [rolloverFile, SegmentedLog.roll, h.chunks]
  buffer := h.buffer
  files := by
    intro i segment hi
    have hname : chunkPath n.baseFilePath (n.chunkIndex + 1) = chunkName base (n.chunkIndex + 1) := by
      rw [h.baseFilePath]; rfl
    simp only [rolloverFile, hname, h.outputFormat, h.metainfo]
    rw [Files.get?_create]
    by_cases hnext : i = n.chunkIndex + 1
    · have hroll : log.roll.segments[i]? = some [] := by
        simp [SegmentedLog.segments, SegmentedLog.roll, hnext, h.chunks]
      obtain rfl := Option.some.inj (hroll.symm.trans hi)
      rw [hnext, if_pos rfl, List.append_nil]
    · have hne : chunkName base i ≠ chunkName base (n.chunkIndex + 1) := fun he =>
        hnext (chunkName_injective hpath he)
      rw [if_neg hne]
      refine h.files i segment (Eq.trans ?_ hi)
      have hi' : i < log.segments.length := by
        have hlt := (List.getElem?_eq_some_iff.1 hi).1
        simp only [SegmentedLog.segments, SegmentedLog.roll, List.length_append,
          List.length_cons, List.length_nil] at hlt ⊢
        have hchunks := h.chunks
        omega
      exact (List.getElem?_append_left hi').symm

/-- A flush, with the rollover it may cause, changes nothing of what the log says. -/
theorem flushBuffer (hpath : IsBuiltFilePath base)
    (h : Represents fileHeader base format metadata n files log) :
    ∃ n' files' log', flushBuffer fileHeader n files = some (n', files') ∧
      Represents fileHeader base format metadata n' files' log' ∧
      n'.writeBuffer = [] ∧ log'.contents = log.contents := by
  unfold Receiver.flushBuffer
  have hfwrite := h.fwrite hpath (n.bytesWritten + n.writeBuffer.length)
  split
  · next hnone => exact absurd (hnone.symm.trans h.outputFile) nofun
  next path hsome =>
  obtain rfl := Option.some.inj (hsome.symm.trans h.outputFile)
  simp only
  split
  · exact ⟨_, _, log.flush.roll, rfl, hfwrite.roll hpath, rfl, by simp⟩
  · exact ⟨_, _, log.flush, rfl, hfwrite, rfl, by simp⟩

end Represents

/-- The two checks of an event, taken together. -/
theorem ite_recorded {α : Type} (event : Bytes) (skip write : α) :
    (if !checkCrc (cutBuffer event) then skip
      else if (decodeEvent (cutBuffer event)).excluded then skip else write) =
      if recorded event then write else skip := by
  unfold recorded
  cases checkCrc (cutBuffer event) with
  | false => rfl
  | true => cases (decodeEvent (cutBuffer event)).excluded <;> rfl

/-- An event that is not recorded is skipped. -/
theorem processRawEvent_eq (fileHeader : μ → Bytes) (n : TankNode μ) (files : Files)
    (event : Bytes) :
    processRawEvent fileHeader n files event =
      if recorded event then writeRecord fileHeader n files (decodeEvent (cutBuffer event))
      else some (n, files) :=
  ite_recorded event _ _

/-- Between two events the buffer has room for a record. -/
def Ready (n : TankNode μ) : Prop := n.writeBuffer.length ≤ writeBufferSize - 256

namespace Represents

theorem writeRecord (hpath : IsBuiltFilePath base)
    (h : Represents fileHeader base format metadata n files log) (hn : Ready n) {e : EventRecord}
    (he : e.Narrow) :
    ∃ n' files' log', writeRecord fileHeader n files e = some (n', files') ∧
      Represents fileHeader base format metadata n' files' log' ∧ Ready n' ∧
      log'.contents = log.contents ++ e.encode format := by
  obtain rfl := h.outputFormat
  have hlen := encode_length he n.outputFormat
  have hroom : n.hasRoom (e.encode n.outputFormat) = true := by
    unfold Ready writeBufferSize at hn
    unfold TankNode.hasRoom writeBufferSize
    split <;> simp only [decide_eq_true_eq] <;> omega
  have happend := h.append (e.encode n.outputFormat) ((n.eventsWritten + 1) % 2 ^ 64)
  obtain ⟨n', files', log', hflush, hrep, hnil, hcontents⟩ := happend.flushBuffer hpath
  have hready : Ready n' := by
    rw [Ready, hnil]
    exact Nat.zero_le _
  unfold Receiver.writeRecord
  simp only [hroom, Bool.not_true, Bool.false_eq_true, if_false]
  split
  · exact ⟨n', files', log', hflush, hrep, hready, by rw [hcontents, log.contents_append]⟩
  · next hsmall =>
    split
    · exact ⟨n', files', log', hflush, hrep, hready, by rw [hcontents, log.contents_append]⟩
    · exact ⟨_, _, _, rfl, happend, Nat.le_of_not_lt hsmall, log.contents_append _⟩

theorem processRawEvent (hpath : IsBuiltFilePath base)
    (h : Represents fileHeader base format metadata n files log) (hn : Ready n) (event : Bytes) :
    ∃ n' files' log', processRawEvent fileHeader n files event = some (n', files') ∧
      Represents fileHeader base format metadata n' files' log' ∧ Ready n' ∧
      log'.contents = log.contents ++ encodeEvents format [event] := by
  rw [processRawEvent_eq, encodeEvents, List.filter_cons, List.filter_nil]
  by_cases hrecorded : recorded event = true
  · obtain ⟨n', files', log', hwrite, hrep, hready, hcontents⟩ :=
      h.writeRecord hpath hn (decodeEvent_narrow (cutBuffer event))
    refine ⟨n', files', log', by rw [if_pos hrecorded, hwrite], hrep, hready, ?_⟩
    rw [hcontents, if_pos hrecorded, List.flatMap_singleton, encodeEvent]
  · refine ⟨n, files, log, by rw [if_neg hrecorded], h, hn, ?_⟩
    rw [if_neg hrecorded, List.flatMap_nil, List.append_nil]

theorem processRawEvents (hpath : IsBuiltFilePath base) (events : List Bytes) :
    ∀ {n : TankNode μ} {files : Files} {log : SegmentedLog UInt8},
    Represents fileHeader base format metadata n files log → Ready n →
    ∃ n' files' log', processRawEvents fileHeader n files events = some (n', files') ∧
      Represents fileHeader base format metadata n' files' log' ∧ Ready n' ∧
      log'.contents = log.contents ++ encodeEvents format events := by
  induction events with
  | nil =>
    intro n files log h hn
    exact ⟨n, files, log, rfl, h, hn, by simp [encodeEvents]⟩
  | cons event events ih =>
    intro n files log h hn
    obtain ⟨n₁, files₁, log₁, hstep, h₁, hn₁, hcontents₁⟩ := h.processRawEvent hpath hn event
    obtain ⟨n₂, files₂, log₂, hrest, h₂, hn₂, hcontents₂⟩ := ih h₁ hn₁
    refine ⟨n₂, files₂, log₂, by simp [Receiver.processRawEvents, hstep, hrest], h₂, hn₂, ?_⟩
    rw [hcontents₂, hcontents₁, List.append_assoc, ← encodeEvents_append, List.singleton_append]

end Represents

/-! ## Items -/

/-- The worker has the file of an acquisition open, and its output is the log. -/
def Writing (fileHeader : μ → Bytes) (w : Worker μ) (base : Path) (format : OutputFormat)
    (metadata : μ) (log : SegmentedLog UInt8) : Prop :=
  ∃ n, w.getNode = some n ∧ Represents fileHeader base format metadata n w.files log ∧ Ready n

section Items

variable {w w' : Worker μ}

theorem getNode_eq_some : w.getNode = some n ↔ w.sourceId ≠ [] ∧ w.node = some n := by
  unfold Worker.getNode
  split
  · next h => simp [h]
  · next h => simp [h]

theorem Writing.openFile (h : Writing fileHeader w base format metadata log) :
    w.openFile.isSome := by
  obtain ⟨n, hn, hrep, -⟩ := h
  simp [Worker.openFile, hn, hrep.outputFile]

/-- A DATA item appends the records of its events. -/
theorem Writing.data (hpath : IsBuiltFilePath base)
    (h : Writing fileHeader w base format metadata log) (payload : Bytes) :
    ∃ w' log', processItem fileHeader w (.data payload) = some w' ∧
      Writing fileHeader w' base format metadata log' ∧
      log'.contents = log.contents ++ encodeEvents format (payloadEvents payload) := by
  obtain ⟨n, hn, hrep, hready⟩ := h
  have hcounted : Represents fileHeader base format metadata
      { n with
        eventsReceived := n.eventsReceived + (payloadEvents payload).length
        bytesReceived := n.bytesReceived + payload.length } w.files log := { hrep with }
  obtain ⟨n', files', log', hrun, hrep', hready', hcontents⟩ :=
    hcounted.processRawEvents hpath (payloadEvents payload) hready
  refine ⟨{ w with node := some n', files := files' }, log', ?_, ⟨n', ?_, hrep', hready'⟩,
    hcontents⟩
  · simp only [processItem, processBatch, hn]
    split
    · next hnone => exact absurd (hnone.symm.trans hrep.outputFile) nofun
    · rw [hrun]
  · exact getNode_eq_some.2 ⟨(getNode_eq_some.1 hn).1, rfl⟩

/-- An OPEN item is refused while a file is open. -/
theorem Writing.opening (h : Writing fileHeader w base format metadata log) (path : ItemPath)
    (metainfo : μ) (outputFormat : OutputFormat) (allocated : Bool) :
    openWorkerFile fileHeader w path metainfo outputFormat allocated = (false, w) := by
  simp [openWorkerFile, h.openFile]

/-- A node that starts on a file. -/
structure Fresh (path : ItemPath) (format : OutputFormat) (metadata : μ) (n : TankNode μ) :
    Prop where
  outputFile : n.outputFile = some path.val
  baseFilePath : n.baseFilePath = path.val.take 255
  outputFormat : n.outputFormat = format
  metainfo : n.metadata = metadata
  chunkIndex : n.chunkIndex = 0
  writeBuffer : n.writeBuffer = []

/-- The table is as it was, or has a fresh node of the source. -/
theorem addNode_spec {path : ItemPath} {allocated : Bool}
    (h : addNode w path metadata format allocated = some n) :
    w.node = some n ∨ Fresh path format metadata n := by
  unfold addNode at h
  split at h
  · exact .inl h
  · split at h
    · cases h
      exact .inr ⟨rfl, rfl, rfl, rfl, rfl, rfl⟩
    · split at h
      · cases h
      · cases h
        exact .inr ⟨rfl, rfl, rfl, rfl, rfl, rfl⟩

/-- The node of the source after an OPEN item, when it had no open file before. -/
theorem openWorkerFile_node {path : ItemPath} {allocated : Bool} {file : Path}
    (hclosed : w.openFile = none)
    (h : (openWorkerFile fileHeader w path metadata format allocated).2.openFile = some file) :
    ∃ n, (openWorkerFile fileHeader w path metadata format allocated).2.getNode = some n ∧
      Fresh path format metadata n := by
  obtain ⟨n, hn, hfile⟩ := Option.bind_eq_some_iff.1 h
  refine ⟨n, hn, ?_⟩
  obtain ⟨hid, hadd⟩ := getNode_eq_some.1 hn
  simp only [openWorkerFile, hclosed, Option.isSome_none, Bool.false_eq_true, if_false] at hid hadd
  refine (addNode_spec hadd).resolve_left fun hold => ?_
  have hopen : w.openFile = some file :=
    Option.bind_eq_some_iff.2 ⟨n, getNode_eq_some.2 ⟨hid, hold⟩, hfile⟩
  exact absurd (hclosed.symm.trans hopen) nofun

/-- An accepted OPEN item begins an empty log. -/
theorem writing_of_open {path : ItemPath} {allocated : Bool}
    (h : openWorkerFile fileHeader w path metadata format allocated = (true, w')) :
    Writing fileHeader w' path.val format metadata .empty := by
  have hclosed : w.openFile = none := by
    by_contra hopen
    rw [openWorkerFile, if_pos (Option.isSome_iff_ne_none.2 hopen)] at h
    cases h
  have hfile : w'.openFile = some path.val ∧
      w'.files = w.files.create fileHeader path.val format metadata := by
    simp only [openWorkerFile, hclosed, Option.isSome_none, Bool.false_eq_true, if_false,
      Prod.mk.injEq, decide_eq_true_eq] at h
    obtain ⟨hopen, rfl⟩ := h
    exact ⟨hopen, rfl⟩
  obtain rfl : (openWorkerFile fileHeader w path metadata format allocated).2 = w' :=
    congrArg Prod.snd h
  obtain ⟨n, hn, hfresh⟩ := openWorkerFile_node hclosed hfile.1
  refine ⟨n, hn, ?_, by rw [Ready, hfresh.writeBuffer]; exact Nat.zero_le _⟩
  rw [hfile.2]
  exact {
    baseFilePath := hfresh.baseFilePath.trans
      (List.take_of_length_le (Nat.le_of_lt_succ path.property))
    outputFormat := hfresh.outputFormat
    metainfo := hfresh.metainfo
    outputFile := by rw [hfresh.outputFile, hfresh.chunkIndex]; rfl
    chunks := hfresh.chunkIndex.symm
    buffer := hfresh.writeBuffer
    files := by
      intro i segment hi
      cases i with
      | zero =>
        obtain rfl : [] = segment := Option.some.inj hi
        rw [chunkName, Files.get?_create, if_pos rfl, List.append_nil]
      | succ i => cases hi }

/-- A refused OPEN item opens no file. -/
theorem openFile_of_refused {path : ItemPath} {metainfo : μ} {outputFormat : OutputFormat}
    {allocated : Bool} (hclosed : w.openFile = none)
    (h : (openWorkerFile fileHeader w path metainfo outputFormat allocated).1 = false) :
    (openWorkerFile fileHeader w path metainfo outputFormat allocated).2.openFile = none := by
  by_contra hopen
  obtain ⟨file, hfile⟩ := Option.ne_none_iff_exists'.1 hopen
  obtain ⟨n, hn, hfresh⟩ := openWorkerFile_node hclosed hfile
  have hpath : (openWorkerFile fileHeader w path metainfo outputFormat allocated).2.openFile =
      some path.val := Option.bind_eq_some_iff.2 ⟨n, hn, hfresh.outputFile⟩
  simp only [openWorkerFile, hclosed, Option.isSome_none, Bool.false_eq_true, if_false] at h hpath
  exact absurd hpath (of_decide_eq_false h)

/-! ## The end of an acquisition -/

/-- The chunk files of the acquisition hold the records of `events`: they begin with the header, and
what follows in them, one after the other, is the encoding of the events. -/
def Holds (fileHeader : μ → Bytes) (w : Worker μ) (base : Path) (format : OutputFormat)
    (metadata : μ) (events : List Bytes) : Prop :=
  ∃ (n : TankNode μ) (segments : List Bytes), w.node = some n ∧ segments.length = n.chunkIndex + 1 ∧
    (∀ i segment, segments[i]? = some segment → w.files.get? (chunkName base i) =
      some (fileHead fileHeader format metadata ++ segment)) ∧
    segments.flatten = encodeEvents format events

/-- When the buffer is empty, the segments of the log are the chunk files. -/
theorem holds_of_represents {events : List Bytes}
    (h : Represents fileHeader base format metadata n w.files log) (hbuffer : log.buffer = [])
    (hcontents : log.contents = encodeEvents format events) {n' : TankNode μ}
    (hn : w.node = some n') (hchunk : n'.chunkIndex = n.chunkIndex) :
    Holds fileHeader w base format metadata events :=
  ⟨n', log.segments, hn, by simp [SegmentedLog.segments, h.chunks, hchunk], h.files,
    (log.segments_flatten hbuffer).trans hcontents⟩

theorem Writing.close (hpath : IsBuiltFilePath base)
    (h : Writing fileHeader w base format metadata log) {events : List Bytes}
    (hcontents : log.contents = encodeEvents format events) :
    Holds fileHeader (closeWorkerFile w).2 base format metadata events := by
  obtain ⟨n, hn, hrep, -⟩ := h
  have hclose : (closeWorkerFile w).2 = { w with
      node := some { n with
        bytesWritten := n.bytesWritten + n.writeBuffer.length, writeBuffer := []
        outputFile := none }
      files := w.files.fwrite (chunkName base n.chunkIndex) n.writeBuffer } := by
    simp only [closeWorkerFile, hn]
    split
    · next hnone => exact absurd (hnone.symm.trans hrep.outputFile) nofun
    · next path hsome => rw [Option.some.inj (hsome.symm.trans hrep.outputFile)]
  rw [hclose]
  exact holds_of_represents (hrep.fwrite hpath n.bytesWritten) rfl
    (log.contents_flush.trans hcontents) rfl rfl

theorem Writing.shutdown (hpath : IsBuiltFilePath base)
    (h : Writing fileHeader w base format metadata log) {events : List Bytes}
    (hcontents : log.contents = encodeEvents format events) :
    Holds fileHeader (shutdownWorker w) base format metadata events := by
  obtain ⟨n, hn, hrep, -⟩ := h
  obtain ⟨-, hnode⟩ := getNode_eq_some.1 hn
  by_cases hnil : n.writeBuffer = []
  · have hshutdown : shutdownWorker w = w := by
      simp only [shutdownWorker, hnode]
      split
      · rfl
      · rw [if_pos hnil]
    rw [hshutdown]
    exact holds_of_represents hrep (hrep.buffer ▸ hnil) hcontents hnode rfl
  · have hshutdown : shutdownWorker w = { w with
        node := some { n with writeBuffer := [] }
        files := w.files.fwrite (chunkName base n.chunkIndex) n.writeBuffer } := by
      simp only [shutdownWorker, hnode]
      split
      · next hnone => exact absurd (hnone.symm.trans hrep.outputFile) nofun
      · next path hsome =>
        rw [if_neg hnil, Option.some.inj (hsome.symm.trans hrep.outputFile)]
    rw [hshutdown]
    exact holds_of_represents (hrep.fwrite hpath n.bytesWritten) rfl
      (log.contents_flush.trans hcontents) rfl rfl

theorem Writing.openFile_close (h : Writing fileHeader w base format metadata log) :
    (closeWorkerFile w).2.openFile = none := by
  obtain ⟨n, hn, hrep, -⟩ := h
  simp only [closeWorkerFile, hn]
  split
  · next hnone => exact absurd (hnone.symm.trans hrep.outputFile) nofun
  · simp [Worker.openFile, Worker.getNode, (getNode_eq_some.1 hn).1]

/-! ## Runs -/

variable {items : List (QueueItem μ)}

/-- Until it is closed, an acquisition appends the records of the events of its DATA items. -/
theorem Writing.run (hpath : IsBuiltFilePath base) (hitems : .closing ∉ items) :
    ∀ {w : Worker μ} {log : SegmentedLog UInt8},
    Writing fileHeader w base format metadata log →
    ∃ w' log', processItems fileHeader w items = some w' ∧
      Writing fileHeader w' base format metadata log' ∧
      log'.contents = log.contents ++ encodeEvents format (itemEvents items) := by
  induction items with
  | nil =>
    intro w log h
    exact ⟨w, log, rfl, h, by simp [itemEvents, encodeEvents]⟩
  | cons item items ih =>
    intro w log h
    obtain ⟨hitem, htail⟩ := not_or.1 (mt List.mem_cons.2 hitems)
    cases item with
    | data payload =>
      obtain ⟨w₁, log₁, hstep, h₁, hcontents₁⟩ := h.data hpath payload
      obtain ⟨w₂, log₂, hrest, h₂, hcontents₂⟩ := ih htail h₁
      refine ⟨w₂, log₂, by simp [processItems, hstep, hrest], h₂, ?_⟩
      rw [hcontents₂, hcontents₁, List.append_assoc, ← encodeEvents_append]
      rfl
    | opening path metainfo outputFormat allocated =>
      obtain ⟨w₂, log₂, hrest, h₂, hcontents₂⟩ := ih htail h
      refine ⟨w₂, log₂, ?_, h₂, hcontents₂⟩
      simp [processItems, processItem, h.opening, hrest]
    | closing => exact absurd rfl hitem

/-- The path of an OPEN item is one of `_build_file_path`. -/
def QueueItem.HasBuiltPath : QueueItem μ → Prop
  | .opening path _ _ _ => IsBuiltFilePath path.val
  | _ => True

/-- No file is open, or one whose output is a log. -/
def Sound (fileHeader : μ → Bytes) (w : Worker μ) : Prop :=
  w.openFile = none ∨ ∃ base format metadata log,
    IsBuiltFilePath base ∧ Writing fileHeader w base format metadata log

theorem Sound.step {item : QueueItem μ} (hitem : item.HasBuiltPath) (h : Sound fileHeader w) :
    ∃ w', processItem fileHeader w item = some w' ∧ Sound fileHeader w' := by
  rcases h with hclosed | ⟨base, format, metadata, log, hpath, h⟩
  · cases item with
    | data payload =>
      refine ⟨w, ?_, .inl hclosed⟩
      simp only [processItem, processBatch]
      split
      · rfl
      · next n hn =>
        have hfile : n.outputFile = none := by
          simpa [Worker.openFile, hn] using hclosed
        split
        · rfl
        · next hsome => exact absurd (hfile.symm.trans hsome) nofun
    | opening path metainfo outputFormat allocated =>
      refine ⟨_, rfl, ?_⟩
      cases hopen : (openWorkerFile fileHeader w path metainfo outputFormat allocated).1 with
      | true => exact .inr ⟨_, _, _, _, hitem, writing_of_open (Prod.ext hopen rfl)⟩
      | false => exact .inl (openFile_of_refused hclosed hopen)
    | closing =>
      refine ⟨_, rfl, .inl ?_⟩
      unfold closeWorkerFile
      split
      · exact hclosed
      · next n hn =>
        have hfile : n.outputFile = none := by
          simpa [Worker.openFile, hn] using hclosed
        split
        · exact hclosed
        · next hsome => exact absurd (hfile.symm.trans hsome) nofun
  · cases item with
    | data payload =>
      obtain ⟨w', log', hstep, h', -⟩ := h.data hpath payload
      exact ⟨w', hstep, .inr ⟨_, _, _, _, hpath, h'⟩⟩
    | opening path metainfo outputFormat allocated =>
      refine ⟨w, ?_, .inr ⟨_, _, _, _, hpath, h⟩⟩
      rw [processItem, h.opening]
    | closing => exact ⟨_, rfl, .inl h.openFile_close⟩

/-- The worker never writes outside of its buffer, or to no file. -/
theorem Sound.run (hitems : ∀ item ∈ items, item.HasBuiltPath) :
    ∀ {w : Worker μ}, Sound fileHeader w →
    ∃ w', processItems fileHeader w items = some w' ∧ Sound fileHeader w' := by
  induction items with
  | nil => exact fun h => ⟨_, rfl, h⟩
  | cons item items ih =>
    intro w h
    obtain ⟨hitem, hitems⟩ := List.forall_mem_cons.1 hitems
    obtain ⟨w₁, hstep, h₁⟩ := h.step hitem
    obtain ⟨w₂, hrest, h₂⟩ := ih hitems h₁
    exact ⟨w₂, by simp [processItems, hstep, hrest], h₂⟩

/-- Whatever the items before it, an acquisition leaves the records of the valid events of its DATA
items in its chunk files, in order and once each, when it is closed and when the worker shuts
down. -/
theorem records_exactly_once (fileHeader : μ → Bytes) (sourceId : Bytes) (files : Files)
    (pre : List (QueueItem μ)) (path : ItemPath) (metadata : μ) (format : OutputFormat) (allocated : Bool)
    (hpre : ∀ item ∈ pre, item.HasBuiltPath) (hpath : IsBuiltFilePath path.val)
    (hitems : .closing ∉ items) :
    ∃ w, processItems fileHeader { sourceId := sourceId, node := none, files := files } pre =
        some w ∧
      ∀ w₁, openWorkerFile fileHeader w path metadata format allocated = (true, w₁) →
        ∃ w₂, processItems fileHeader w₁ items = some w₂ ∧
          Holds fileHeader (closeWorkerFile w₂).2 path.val format metadata (itemEvents items) ∧
          Holds fileHeader (shutdownWorker w₂) path.val format metadata (itemEvents items) := by
  have hinit : ({ sourceId := sourceId, node := none, files := files } : Worker μ).openFile =
      none := by
    simp [Worker.openFile, Worker.getNode]
  have hsound : Sound fileHeader { sourceId := sourceId, node := none, files := files } :=
    .inl hinit
  obtain ⟨w, hrun, -⟩ := hsound.run hpre
  refine ⟨w, hrun, fun w₁ hopen => ?_⟩
  obtain ⟨w₂, log, hitems', h₂, hcontents⟩ := (writing_of_open hopen).run hpath hitems
  rw [SegmentedLog.contents_empty, List.nil_append] at hcontents
  exact ⟨w₂, hitems', h₂.close hpath hcontents, h₂.shutdown hpath hcontents⟩

/-- An event with a valid CRC. -/
def validEvent : Bytes := [0, 0, 1, 0, 0, 0, 0, 0, 0, 0, 0, 0, 1, 0, 0, 0]

/-- The same event with another CRC. -/
def corruptEvent : Bytes := validEvent.set 12 0

def runPath : ItemPath :=
  ⟨fileStem "run".toList "0".toList [] none ++ '.' :: "bin".toList, by decide⟩

theorem runPath_isBuilt : IsBuiltFilePath runPath.val :=
  ⟨"run".toList, "0".toList, [], none, .bin, rfl⟩

/-- The event is in the output file, and an event with a wrong CRC is not. -/
theorem records_exactly_once_validEvent :
    ∃ w : Worker Unit, processItems (fun _ => []) ⟨[65], none, .empty⟩ [] = some w ∧
      ∀ w₁, openWorkerFile (fun _ => []) w runPath () .bin true = (true, w₁) →
        ∃ w₂, processItems (fun _ => []) w₁ [.data (validEvent ++ corruptEvent)] = some w₂ ∧
          Holds (fun _ => []) (closeWorkerFile w₂).2 runPath.val .bin () [validEvent] := by
  have hitems : QueueItem.closing (μ := Unit) ∉ [.data (validEvent ++ corruptEvent)] := by
    simp
  obtain ⟨w, hrun, hacquired⟩ := records_exactly_once (fun _ => []) [65] .empty [] runPath () .bin
    true (List.forall_mem_nil _) runPath_isBuilt hitems
  refine ⟨w, hrun, fun w₁ hopen => ?_⟩
  obtain ⟨w₂, hitems, ⟨n, segments, hn, hlen, hfiles, hflatten⟩, -⟩ := hacquired w₁ hopen
  refine ⟨w₂, hitems, n, segments, hn, hlen, hfiles, hflatten.trans ?_⟩
  decide

end Items

end MultiDAQ.Receiver
