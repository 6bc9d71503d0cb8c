import MultiDAQ.Receiver.Streams
import MultiDAQ.Receiver.Verify.Output

/-!
# The streams of a worker

A rollover that fails leaves the node without a file, but the loop over the events of the payload
goes on: it is the next flush of the same payload that is given a null pointer. How large the buffers
are that a payload flushes is known before its first event (`flushSizes`). The calls are sound in a
run exactly when in every payload only the rollover of the last flush fails (`failsLast`,
`rollover_safe_iff`).
-/

namespace MultiDAQ.Receiver

open MultiDAQ.Lib

/-! ## Calls on one stream -/

/-- The calls are sound, and the file is `NULL` or a stream that is open. -/
structure Holding (calls : StreamCalls) (file : FilePtr) : Prop where
  sound : streamCalls.Sound calls
  isOpen : ∀ k, file = some k → streamCalls.IsOpen calls k

namespace Holding

variable {calls : StreamCalls} {k : Nat} {c : StreamCall}

theorem none (h : streamCalls.Sound calls) : Holding calls none := ⟨h, nofun⟩

/-- A call on the stream that does not close it. -/
theorem use (h : Holding calls (some k)) (hp : streamCalls.pointer c = some (some k))
    (hc : streamCalls.closes c = false) : Holding (calls ++ [c]) (some k) where
  sound := HandleCalls.sound_snoc.2
    ⟨h.sound, HandleCalls.soundAfter_of_isOpen (h.isOpen k rfl) hp⟩
  isOpen := by
    intro j hj
    obtain rfl := Option.some.inj hj
    exact (h.isOpen _ rfl).snoc fun hcl => nomatch hc.symm.trans hcl

theorem close (h : Holding calls (some k)) : streamCalls.Sound (calls ++ [.fclose (some k)]) :=
  HandleCalls.sound_snoc.2 ⟨h.sound, HandleCalls.soundAfter_of_isOpen (h.isOpen k rfl) rfl⟩

theorem fopen (h : streamCalls.Sound calls) (path : Path) :
    Holding (calls ++ [.fopen path true]) (some calls.length) where
  sound := HandleCalls.sound_snoc.2 ⟨h, HandleCalls.soundAfter_of_pointer rfl⟩
  isOpen := by
    intro j hj
    obtain rfl := Option.some.inj hj
    exact h.isOpen_snoc rfl rfl

end Holding

theorem sound_fopen {calls : StreamCalls} (h : streamCalls.Sound calls) (path : Path)
    (opened : Bool) : streamCalls.Sound (calls ++ [.fopen path opened]) :=
  HandleCalls.sound_snoc.2 ⟨h, HandleCalls.soundAfter_of_pointer rfl⟩

theorem not_sound_null {calls more : StreamCalls} {data : Bytes} :
    ¬ streamCalls.Sound (calls ++ .fwrite none data :: more) := by
  intro h
  rw [List.append_cons] at h
  exact HandleCalls.not_soundAfter_null rfl (HandleCalls.sound_snoc.1 h.of_append).2

/-! ## What a payload flushes -/

/-- The sizes of the records of the events. -/
def recordSizes (format : OutputFormat) (events : List Bytes) : List Nat :=
  (events.filter recorded).map fun event => ((decodeEvent (cutBuffer event)).encode format).length

/-- The sizes of the buffers that are flushed on the way. -/
def flushSizes : Nat → Nat → List Nat → List Nat
  | _, _, [] => []
  | bufferUsed, eventsWritten, size :: sizes =>
    let bufferUsed := bufferUsed + size
    let eventsWritten := (eventsWritten + 1) % 2 ^ 64
    if StreamNode.flushDue bufferUsed eventsWritten then
      bufferUsed :: flushSizes 0 eventsWritten sizes
    else flushSizes bufferUsed eventsWritten sizes

section Rollovers

variable (fs : FileSystem) (headerSize : Nat) (format : OutputFormat)

/-- A rollover after `k` calls fails: the file cannot be opened, or its header not be written. -/
def rolloverFails (k : Nat) : Bool :=
  fs.fails (k + 1) || fs.fwrite (k + 2) headerSize ≠ headerSize

/-- The calls of a rollover that does not fail. -/
def rolloverCalls : Nat :=
  match format with
  | .csv => 5
  | .bin => 3

/-- After a rollover that fails there is nothing to flush. -/
def failsLast : Nat → Nat → List Nat → Bool
  | _, _, [] => true
  | bytesWritten, k, size :: sizes =>
    if bytesWritten + size < maxFileSizeBytes then failsLast (bytesWritten + size) (k + 2) sizes
    else if rolloverFails fs headerSize (k + 2) then sizes.isEmpty
    else failsLast 0 (k + 2 + rolloverCalls format) sizes

end Rollovers

namespace StreamNode

variable {μ : Type} {fileHeader : μ → Bytes} {fs : FileSystem} {n n' : StreamNode μ}
  {calls calls' : StreamCalls}

/-- What a flush leaves of a node for the rest of the payload. -/
structure Frame (n n' : StreamNode μ) : Prop where
  metadata : n'.metadata = n.metadata
  outputFormat : n'.outputFormat = n.outputFormat
  eventsWritten : n'.eventsWritten = n.eventsWritten
  writeBuffer : n'.writeBuffer = n.writeBuffer

/-- The calls of a rollover up to the header of the new file. -/
theorem holding_rollover {k : Nat} (h : Holding calls (some k)) (path : Path) (header : Bytes) :
    Holding (calls ++ [.fclose (some k), .fopen path true, .fwrite (some (calls.length + 1)) header])
      (some (calls.length + 1)) := by
  have hopened := Holding.fopen h.close path
  rw [List.length_append, List.length_singleton] at hopened
  have hwritten := hopened.use (c := .fwrite (some (calls.length + 1)) header) rfl rfl
  rwa [List.append_assoc, List.append_assoc] at hwritten

/-- A rollover that fails leaves no file. -/
theorem rolloverFile_fails {k : Nat} (hfile : n.outputFile = some k) (h : Holding calls (some k))
    (hfails : rolloverFails fs (fileHeader n.metadata).length calls.length = true) :
    Frame n (n.rolloverFile fileHeader fs calls).1 ∧
    (n.rolloverFile fileHeader fs calls).1.outputFile = none ∧
    streamCalls.Sound (n.rolloverFile fileHeader fs calls).2 := by
  unfold rolloverFile
  simp only [hfile, List.length_append, List.length_singleton]
  cases hopen : fs.fails (calls.length + 1) with
  | true =>
    rw [if_pos rfl]
    exact ⟨⟨rfl, rfl, rfl, rfl⟩, rfl, sound_fopen h.close _ _⟩
  | false =>
    have hheader : fs.fwrite (calls.length + 2) (fileHeader n.metadata).length ≠
        (fileHeader n.metadata).length := by simpa [rolloverFails, hopen] using hfails
    have hsound := (holding_rollover h (chunkPath n.baseFilePath (n.chunkIndex + 1))
      (fileHeader n.metadata)).close
    rw [List.append_assoc] at hsound
    simp only [Bool.false_eq_true, if_false, Bool.not_false, writeHeader, List.append_assoc,
      List.cons_append, List.nil_append, List.length_append, List.length_cons, List.length_nil,
      hheader, decide_false, if_true]
    exact ⟨⟨rfl, rfl, rfl, rfl⟩, trivial, hsound⟩

/-- A rollover that does not fail. -/
theorem rolloverFile_ok {k : Nat} (hfile : n.outputFile = some k) (h : Holding calls (some k))
    (hok : rolloverFails fs (fileHeader n.metadata).length calls.length = false) :
    Frame n (n.rolloverFile fileHeader fs calls).1 ∧
    (∃ j, (n.rolloverFile fileHeader fs calls).1.outputFile = some j ∧
      Holding (n.rolloverFile fileHeader fs calls).2 (some j)) ∧
    (n.rolloverFile fileHeader fs calls).1.bytesWritten = 0 ∧
    (n.rolloverFile fileHeader fs calls).2.length =
      calls.length + rolloverCalls n.outputFormat := by
  obtain ⟨hopen, hheader⟩ : fs.fails (calls.length + 1) = false ∧
      fs.fwrite (calls.length + 2) (fileHeader n.metadata).length =
        (fileHeader n.metadata).length := by
    simpa [rolloverFails] using hok
  have hwritten := holding_rollover h (chunkPath n.baseFilePath (n.chunkIndex + 1))
    (fileHeader n.metadata)
  unfold rolloverFile
  simp only [hfile, List.length_append, hopen, Bool.false_eq_true, if_false,
    Bool.not_false, writeHeader, List.append_assoc, List.cons_append, List.nil_append,
    List.length_cons, List.length_nil, hheader, decide_true, Bool.not_true]
  refine ⟨⟨rfl, rfl, rfl, rfl⟩, ⟨_, rfl, ?_⟩, trivial, ?_⟩
  · cases n.outputFormat with
    | bin => exact hwritten
    | csv =>
      have htitles := (hwritten.use (c := .fprintf (some (calls.length + 1)) csvColumns) rfl rfl).use
        (c := .fflush (some (calls.length + 1))) rfl rfl
      rwa [List.append_assoc, List.append_assoc] at htitles
  · cases n.outputFormat <;> simp [rolloverCalls]

/-! ## The events of a payload -/

theorem prefix_rolloverFile (n : StreamNode μ) (calls : StreamCalls) :
    calls <+: (n.rolloverFile fileHeader fs calls).2 := by
  unfold rolloverFile
  dsimp only
  split
  next => exact ⟨_, (List.append_assoc ..).symm⟩
  next =>
    unfold writeHeader
    dsimp only
    split
    next => simp [List.append_assoc]
    next => cases n.outputFormat <;> simp [List.append_assoc]

theorem prefix_flushBuffer (n : StreamNode μ) (calls : StreamCalls) :
    calls ++ [.fwrite n.outputFile n.writeBuffer, .fflush n.outputFile] <+:
      (n.flushBuffer fileHeader fs calls).2 := by
  unfold flushBuffer
  dsimp only
  split
  next => exact prefix_rolloverFile ..
  next => exact List.prefix_refl _

theorem processRawEvent_eq (n : StreamNode μ) (calls : StreamCalls) (event : Bytes) :
    n.processRawEvent fileHeader fs calls event =
      if recorded event then n.writeRecord fileHeader fs calls (decodeEvent (cutBuffer event))
      else (n, calls) :=
  ite_recorded event _ _

theorem processRawEvents_cons (n : StreamNode μ) (calls : StreamCalls) (event : Bytes)
    (events : List Bytes) : n.processRawEvents fileHeader fs calls (event :: events) =
      let r := n.processRawEvent fileHeader fs calls event
      r.1.processRawEvents fileHeader fs r.2 events := rfl

theorem prefix_processRawEvents (n : StreamNode μ) (calls : StreamCalls) (events : List Bytes) :
    calls <+: (n.processRawEvents fileHeader fs calls events).2 := by
  induction events generalizing n calls with
  | nil => exact List.prefix_refl _
  | cons event events ih =>
    rw [processRawEvents_cons, processRawEvent_eq]
    refine List.IsPrefix.trans ?_ (ih _ _)
    split
    next =>
      unfold writeRecord
      dsimp only
      split
      next => exact (List.prefix_append ..).trans (prefix_flushBuffer ..)
      next => exact List.prefix_refl _
    next => exact List.prefix_refl _

/-- A record is added to the buffer. -/
def buffered (n : StreamNode μ) (e : EventRecord) : StreamNode μ := { n with
  writeBuffer := n.writeBuffer ++ e.encode n.outputFormat
  eventsWritten := (n.eventsWritten + 1) % 2 ^ 64 }

/-- The node after the writing of the buffer, before a rollover. -/
def emptied (n : StreamNode μ) : StreamNode μ :=
  { n with bytesWritten := n.bytesWritten + n.writeBuffer.length, writeBuffer := [] }

theorem recordSizes_cons (format : OutputFormat) (event : Bytes) (events : List Bytes) :
    recordSizes format (event :: events) =
      if recorded event then
        ((decodeEvent (cutBuffer event)).encode format).length :: recordSizes format events
      else recordSizes format events := by
  unfold recordSizes
  rw [List.filter_cons]
  split <;> rfl

/-- What is flushed from now on. -/
def flushes (n : StreamNode μ) (events : List Bytes) : List Nat :=
  flushSizes n.writeBuffer.length n.eventsWritten (recordSizes n.outputFormat events)

theorem Frame.flushes (h : Frame n n') (events : List Bytes) :
    n'.flushes events = n.flushes events := by
  unfold StreamNode.flushes
  rw [h.writeBuffer, h.eventsWritten, h.outputFormat]

/-- The loop on an event that is recorded. -/
theorem processRawEvents_recorded {event : Bytes} {events : List Bytes} (hr : recorded event) :
    n.processRawEvents fileHeader fs calls (event :: events) =
      let n₁ := n.buffered (decodeEvent (cutBuffer event))
      let r := if flushDue n₁.writeBuffer.length n₁.eventsWritten then
        n₁.flushBuffer fileHeader fs calls else (n₁, calls)
      r.1.processRawEvents fileHeader fs r.2 events := by
  rw [processRawEvents_cons, processRawEvent_eq, if_pos hr]
  rfl

theorem flushes_recorded {event : Bytes} {events : List Bytes} (hr : recorded event) :
    n.flushes (event :: events) =
      let n₁ := n.buffered (decodeEvent (cutBuffer event))
      if flushDue n₁.writeBuffer.length n₁.eventsWritten then
        n₁.writeBuffer.length :: n₁.emptied.flushes events
      else n₁.flushes events := by
  unfold flushes
  rw [recordSizes_cons, if_pos hr]
  simp only [flushSizes, buffered, emptied, List.length_append, List.length_nil]

theorem processRawEvents_skipped {event : Bytes} {events : List Bytes} (hr : ¬ recorded event) :
    n.processRawEvents fileHeader fs calls (event :: events) =
      n.processRawEvents fileHeader fs calls events := by
  rw [processRawEvents_cons, processRawEvent_eq, if_neg hr]

theorem flushes_skipped {event : Bytes} {events : List Bytes} (hr : ¬ recorded event) :
    n.flushes (event :: events) = n.flushes events := by
  unfold flushes
  rw [recordSizes_cons, if_neg hr]

/-- Without a file the next flush is given a null pointer; as long as there is none, no call is
made. -/
theorem processRawEvents_null (hfile : n.outputFile = none) (events : List Bytes) :
    (n.flushes events = [] → (n.processRawEvents fileHeader fs calls events).2 = calls ∧
      (n.processRawEvents fileHeader fs calls events).1.outputFile = none) ∧
    (n.flushes events ≠ [] →
      ¬ streamCalls.Sound (n.processRawEvents fileHeader fs calls events).2) := by
  induction events generalizing n with
  | nil => exact ⟨fun _ => ⟨rfl, hfile⟩, fun h => absurd rfl h⟩
  | cons event events ih =>
    by_cases hr : recorded event
    · rw [processRawEvents_recorded hr, flushes_recorded hr]
      dsimp only
      split
      next =>
        refine ⟨nofun, fun _ hsound => ?_⟩
        obtain ⟨more, hmore⟩ := (@prefix_flushBuffer _ fileHeader fs
          (n.buffered (decodeEvent (cutBuffer event))) calls).trans
            (prefix_processRawEvents _ _ events)
        rw [← hmore] at hsound
        have hnull := hsound.of_append
        rw [show (n.buffered (decodeEvent (cutBuffer event))).outputFile = none from hfile] at hnull
        exact not_sound_null hnull
      next => exact ih hfile
    · rw [processRawEvents_skipped hr, flushes_skipped hr]
      exact ih hfile

/-- A flush of an open file, on which the calls stay sound, or the file is lost. -/
theorem flushBuffer_open {k : Nat} (hfile : n.outputFile = some k) (h : Holding calls (some k)) :
    (n.emptied.bytesWritten < maxFileSizeBytes ∧
      (n.flushBuffer fileHeader fs calls).1 = n.emptied ∧
      (n.flushBuffer fileHeader fs calls).2.length = calls.length + 2 ∧
      Holding (n.flushBuffer fileHeader fs calls).2 (some k)) ∨
    (maxFileSizeBytes ≤ n.emptied.bytesWritten ∧
      Frame n.emptied (n.flushBuffer fileHeader fs calls).1 ∧
      if rolloverFails fs (fileHeader n.metadata).length (calls.length + 2) then
        (n.flushBuffer fileHeader fs calls).1.outputFile = none ∧
        streamCalls.Sound (n.flushBuffer fileHeader fs calls).2
      else
        (∃ j, (n.flushBuffer fileHeader fs calls).1.outputFile = some j ∧
          Holding (n.flushBuffer fileHeader fs calls).2 (some j)) ∧
        (n.flushBuffer fileHeader fs calls).1.bytesWritten = 0 ∧
        (n.flushBuffer fileHeader fs calls).2.length =
          calls.length + 2 + rolloverCalls n.outputFormat) := by
  have hwritten := (h.use (c := .fwrite (some k) n.writeBuffer) rfl rfl).use
    (c := .fflush (some k)) rfl rfl
  rw [List.append_assoc] at hwritten
  have hlength : (calls ++ [StreamCall.fwrite (some k) n.writeBuffer, .fflush (some k)]).length =
      calls.length + 2 := by simp
  have heq : n.flushBuffer fileHeader fs calls =
      if maxFileSizeBytes ≤ n.emptied.bytesWritten then
        n.emptied.rolloverFile fileHeader fs
          (calls ++ [.fwrite n.outputFile n.writeBuffer, .fflush n.outputFile])
      else (n.emptied, calls ++ [.fwrite n.outputFile n.writeBuffer, .fflush n.outputFile]) := rfl
  rw [heq, hfile]
  by_cases hfull : maxFileSizeBytes ≤ n.emptied.bytesWritten
  · rw [if_pos hfull]
    refine .inr ⟨hfull, ?_⟩
    cases hfails : rolloverFails fs (fileHeader n.metadata).length (calls.length + 2) with
    | true =>
      rw [if_pos rfl]
      exact rolloverFile_fails (n := n.emptied) hfile hwritten (by rw [hlength]; exact hfails)
    | false =>
      rw [if_neg Bool.false_ne_true, ← hlength]
      exact rolloverFile_ok (n := n.emptied) hfile hwritten (by rw [hlength]; exact hfails)
  · rw [if_neg hfull]
    exact .inl ⟨Nat.lt_of_not_le hfull, rfl, hlength, hwritten⟩

/-- No rollover that fails is followed by a flush among the events. -/
def survives (fileHeader : μ → Bytes) (fs : FileSystem) (n : StreamNode μ) (k : Nat)
    (events : List Bytes) : Bool :=
  failsLast fs (fileHeader n.metadata).length n.outputFormat n.bytesWritten k (n.flushes events)

theorem survives_flush (n : StreamNode μ) (k : Nat) {event : Bytes} {events : List Bytes}
    (hr : recorded event)
    (hdue : flushDue (n.buffered (decodeEvent (cutBuffer event))).writeBuffer.length
      (n.buffered (decodeEvent (cutBuffer event))).eventsWritten = true) :
    n.survives fileHeader fs k (event :: events) =
      let n₁ := n.buffered (decodeEvent (cutBuffer event))
      if n₁.emptied.bytesWritten < maxFileSizeBytes then
        n₁.emptied.survives fileHeader fs (k + 2) events
      else if rolloverFails fs (fileHeader n₁.metadata).length (k + 2) then
        (n₁.emptied.flushes events).isEmpty
      else
        failsLast fs (fileHeader n₁.metadata).length n₁.outputFormat 0
          (k + 2 + rolloverCalls n₁.outputFormat) (n₁.emptied.flushes events) := by
  unfold survives
  rw [flushes_recorded hr]
  dsimp only
  rw [if_pos hdue]
  rfl

/-- With an open file the calls of a payload are sound exactly if the rollovers that fail are
last. -/
theorem processRawEvents_open {k : Nat} (hfile : n.outputFile = some k)
    (h : Holding calls (some k)) (events : List Bytes) :
    (n.survives fileHeader fs calls.length events = true →
      Holding (n.processRawEvents fileHeader fs calls events).2
        (n.processRawEvents fileHeader fs calls events).1.outputFile) ∧
    (n.survives fileHeader fs calls.length events = false →
      ¬ streamCalls.Sound (n.processRawEvents fileHeader fs calls events).2) := by
  induction events generalizing n calls k with
  | nil => exact ⟨fun _ => by rwa [← hfile] at h, nofun⟩
  | cons event events ih =>
    by_cases hr : recorded event
    · rw [processRawEvents_recorded hr]
      dsimp only
      split
      next hdue =>
        rw [survives_flush n calls.length hr hdue]
        generalize hn₁ : n.buffered (decodeEvent (cutBuffer event)) = n₁
        have hfile₁ : n₁.outputFile = some k := hn₁ ▸ hfile
        dsimp only
        rcases @flushBuffer_open _ fileHeader fs _ _ _ hfile₁ h with
          ⟨hroom, hnode, hlength, hholding⟩ | ⟨hfull, hframe, hrollover⟩
        · rw [if_pos hroom, ← hlength, hnode]
          exact ih (n := n₁.emptied) hfile₁ hholding
        · rw [if_neg (Nat.not_lt_of_le hfull), ← hframe.flushes events]
          cases hfails : rolloverFails fs (fileHeader n₁.metadata).length (calls.length + 2) with
          | true =>
            rw [hfails, if_pos rfl] at hrollover
            rw [if_pos rfl, List.isEmpty_iff, List.isEmpty_eq_false_iff]
            obtain ⟨hnone, hsound⟩ := hrollover
            obtain ⟨hlast, hnull⟩ := @processRawEvents_null _ fileHeader fs _
              (n₁.flushBuffer fileHeader fs calls).2 hnone events
            refine ⟨fun hempty => ?_, hnull⟩
            rw [(hlast hempty).1, (hlast hempty).2]
            exact .none hsound
          | false =>
            rw [hfails, if_neg Bool.false_ne_true] at hrollover
            obtain ⟨⟨j, hj, hholding⟩, hzero, hlength⟩ := hrollover
            have hrest := ih hj hholding
            unfold survives at hrest
            rw [hframe.metadata, hframe.outputFormat, hzero, hlength] at hrest
            exact hrest
      next hdue =>
        have hsurvives : n.survives fileHeader fs calls.length (event :: events) =
            (n.buffered (decodeEvent (cutBuffer event))).survives fileHeader fs calls.length
              events := by
          unfold survives
          rw [flushes_recorded hr]
          dsimp only
          rw [if_neg hdue]
          rfl
        rw [hsurvives]
        exact ih (n := n.buffered (decodeEvent (cutBuffer event))) hfile h
    · have hsurvives : n.survives fileHeader fs calls.length (event :: events) =
          n.survives fileHeader fs calls.length events := by
        unfold survives
        rw [flushes_skipped hr]
      rw [processRawEvents_skipped hr, hsurvives]
      exact ih hfile h

end StreamNode

/-! ## Items -/

namespace StreamWorker

variable {μ : Type} {fileHeader : μ → Bytes} {fs : FileSystem} {w : StreamWorker μ}

/-- The calls are sound, and the file of the node is `NULL` or open. -/
structure Attached (w : StreamWorker μ) : Prop where
  sound : streamCalls.Sound w.calls
  named : w.sourceId = [] → w.node = none
  node : ∀ n, w.node = some n → Holding w.calls n.outputFile

namespace Attached

theorem getNode_eq (h : w.Attached) : w.getNode = w.node := by
  unfold getNode
  split
  next hid => exact (h.named hid).symm
  next => rfl

theorem outputFile_eq {n : StreamNode μ} (h : w.Attached) (hn : w.node = some n) :
    w.outputFile = n.outputFile := by
  unfold outputFile
  rw [h.getNode_eq, hn]
  rfl

end Attached

/-- The rollovers of a DATA item that fail are last. -/
def RolloversFailLast (fileHeader : μ → Bytes) (fs : FileSystem) (w : StreamWorker μ) :
    QueueItem μ → Prop
  | .data payload => ∀ n, w.getNode = some n → n.outputFile ≠ none →
      n.survives fileHeader fs w.calls.length (payloadEvents payload) = true
  | _ => True

theorem processBatch_open (h : w.Attached) {n : StreamNode μ} (hnode : w.node = some n)
    (hfile : n.outputFile ≠ none) (payload : Bytes) :
    (n.survives fileHeader fs w.calls.length (payloadEvents payload) = true →
      (w.processBatch fileHeader fs payload).Attached) ∧
    (n.survives fileHeader fs w.calls.length (payloadEvents payload) = false →
      ¬ streamCalls.Sound (w.processBatch fileHeader fs payload).calls) := by
  obtain ⟨k, hk⟩ := Option.ne_none_iff_exists'.1 hfile
  have hopen := @StreamNode.processRawEvents_open _ fileHeader fs
    { n with
      eventsReceived := n.eventsReceived + (payloadEvents payload).length
      bytesReceived := n.bytesReceived + payload.length } _ _ hk
    (hk ▸ h.node n hnode) (payloadEvents payload)
  unfold processBatch
  rw [h.getNode_eq, hnode]
  dsimp only
  rw [if_neg hfile]
  refine ⟨fun hsurvives => ?_, hopen.2⟩
  have hholding := hopen.1 hsurvives
  exact {
    sound := hholding.sound
    named := fun hid => nomatch (h.named hid).symm.trans hnode
    node := fun n' hn' => Option.some.inj hn' ▸ hholding }

theorem processBatch_iff (h : w.Attached) (payload : Bytes) :
    (w.processBatch fileHeader fs payload).Attached ↔
      RolloversFailLast fileHeader fs w (.data payload) := by
  unfold RolloversFailLast
  rw [h.getNode_eq]
  constructor
  · intro hatt n hnode hfile
    by_contra hfalse
    exact (processBatch_open h hnode hfile payload).2 (Bool.eq_false_iff.2 hfalse) hatt.sound
  · intro hlast
    by_cases hfile : ∃ n, w.node = some n ∧ n.outputFile ≠ none
    · obtain ⟨n, hnode, hfile⟩ := hfile
      exact (processBatch_open h hnode hfile payload).1 (hlast n hnode hfile)
    · unfold processBatch
      rw [h.getNode_eq]
      cases hnode : w.node with
      | none => exact h
      | some n =>
        dsimp only
        rw [if_pos (by_contra fun hne => hfile ⟨n, hnode, hne⟩)]
        exact h

/-- What `open_worker_file` writes to the new file. -/
theorem holding_writeHead {file : Nat} {calls : StreamCalls} (h : Holding calls (some file))
    (metainfo : μ) (format : OutputFormat) :
    Holding (writeHead fileHeader fs file metainfo format calls).2 (some file) := by
  have hheader := h.use (c := .fwrite (some file) (fileHeader metainfo)) rfl rfl
  unfold writeHead StreamNode.writeHeader
  dsimp only
  split
  next => exact hheader
  next =>
    cases format with
    | bin => exact hheader.use (c := .fflush (some file)) rfl rfl
    | csv =>
      dsimp only
      have htitles := hheader.use (c := .fprintf (some file) csvColumns) rfl rfl
      split
      next => exact htitles
      next => exact htitles.use (c := .fflush (some file)) rfl rfl

/-- A node that has no file is given the new one, with an empty buffer; or nothing changes. -/
theorem addNode_spec (h : ∀ n, w.node = some n → n.outputFile = none) (file : Nat)
    (path : ItemPath) (metainfo : μ) (format : OutputFormat) (allocated : Bool) :
    w.addNode file path metainfo format allocated = w ∨
    (w.sourceId ≠ [] ∧ ∃ n, w.addNode file path metainfo format allocated =
      { w with node := some n } ∧ n.outputFile = some file ∧ n.writeBuffer = []) := by
  unfold addNode
  split
  next => exact .inl rfl
  next hnames =>
    have hid : w.sourceId ≠ [] := fun hid => hnames (.inl hid)
    split
    next n hn =>
      dsimp only
      rw [h n hn]
      exact .inr ⟨hid, _, rfl, rfl, rfl⟩
    next =>
      split
      next => exact .inl rfl
      next => exact .inr ⟨hid, _, rfl, rfl, rfl⟩

/-- `open_worker_file` leaves the node as it is, without a file, or gives it an open file and an
empty buffer. -/
theorem openWorkerFile_spec (h : w.Attached) (hfile : w.outputFile = none) (path : ItemPath)
    (metainfo : μ) (format : OutputFormat) (allocated : Bool) :
    ∃ calls, streamCalls.Sound calls ∧
      (w.openWorkerFile fileHeader fs path metainfo format allocated =
        (false, { w with calls := calls }) ∨
      ∃ n file, w.sourceId ≠ [] ∧ Holding calls (some file) ∧ n.outputFile = some file ∧
        n.writeBuffer = [] ∧
        w.openWorkerFile fileHeader fs path metainfo format allocated =
          (true, { w with node := some n, calls := calls })) := by
  have hnone : ∀ n, w.node = some n → n.outputFile = none := fun n hn =>
    (h.outputFile_eq hn).symm.trans hfile
  unfold openWorkerFile
  rw [hfile, if_neg (by simp)]
  dsimp only
  cases hfails : fs.fails w.calls.length with
  | true => exact ⟨_, sound_fopen h.sound _ _, .inl (by rw [if_pos rfl])⟩
  | false =>
    rw [if_neg Bool.false_ne_true, Bool.not_false]
    have hhead := @holding_writeHead _ fileHeader fs _ _
      (Holding.fopen h.sound path.val) metainfo format
    generalize writeHead fileHeader fs w.calls.length metainfo format
      (w.calls ++ [.fopen path.val true]) = head at hhead ⊢
    split
    next => exact ⟨_, hhead.close, .inl rfl⟩
    next =>
      rcases addNode_spec (w := { w with calls := head.2 }) hnone w.calls.length path metainfo
        format allocated with hadd | ⟨hid, n, hadd, hn, hbuffer⟩
      · rw [hadd, if_neg (show ¬ outputFile { w with calls := head.2 } = some w.calls.length from
          fun hsome => nomatch hfile.symm.trans hsome)]
        exact ⟨_, hhead.close, .inl rfl⟩
      · have hout : outputFile { w with node := some n, calls := head.2 } = some w.calls.length := by
          unfold outputFile getNode
          rw [if_neg hid]
          exact hn
        rw [hadd, if_pos hout]
        exact ⟨_, hhead.sound, .inr ⟨n, w.calls.length, hid, hhead, hn, hbuffer, rfl⟩⟩

theorem openWorkerFile_attached (h : w.Attached) (path : ItemPath) (metainfo : μ)
    (format : OutputFormat) (allocated : Bool) :
    (w.openWorkerFile fileHeader fs path metainfo format allocated).2.Attached := by
  cases hfile : w.outputFile with
  | some file =>
    unfold openWorkerFile
    rw [hfile]
    exact h
  | none =>
    obtain ⟨calls, hsound, heq | ⟨n, file, hid, hholding, hn, -, heq⟩⟩ :=
      @openWorkerFile_spec _ fileHeader fs _ h hfile path metainfo format allocated
    · rw [heq]
      refine ⟨hsound, h.named, fun n hn => ?_⟩
      rw [← h.outputFile_eq hn, hfile]
      exact .none hsound
    · rw [heq]
      refine ⟨hsound, fun hnil => absurd hnil hid, fun n' hn' => ?_⟩
      obtain rfl := Option.some.inj hn'
      rwa [hn]

theorem closeWorkerFile_attached (h : w.Attached) : (w.closeWorkerFile fs).2.Attached := by
  unfold closeWorkerFile
  rw [h.getNode_eq]
  cases hnode : w.node with
  | none => exact h
  | some n =>
    dsimp only
    cases hfile : n.outputFile with
    | none => exact h
    | some file =>
      have herror := (hfile ▸ h.node n hnode).use (c := .ferror (some file)) rfl rfl
      have hnamed : w.sourceId ≠ [] := fun hid => nomatch (h.named hid).symm.trans hnode
      dsimp only
      split
      next =>
        have hclosed := (herror.use (c := .fflush (some file)) rfl rfl).close
        exact ⟨hclosed, fun hid => absurd hid hnamed, fun n' hn' =>
          Option.some.inj hn' ▸ .none hclosed⟩
      next =>
        have hclosed := ((herror.use (c := .fwrite (some file) n.writeBuffer) rfl rfl).use
          (c := .fflush (some file)) rfl rfl).close
        exact ⟨hclosed, fun hid => absurd hid hnamed, fun n' hn' =>
          Option.some.inj hn' ▸ .none hclosed⟩

theorem shutdown_sound (h : w.Attached) : streamCalls.Sound w.shutdown.calls := by
  unfold shutdown
  split
  next => exact h.sound
  next n hnode =>
    split
    next => exact h.sound
    next file hfile =>
      split
      next => exact h.sound
      next =>
        have hwritten := ((hfile ▸ h.node n hnode).use (c := .fwrite (some file) n.writeBuffer)
          rfl rfl).use (c := .fflush (some file)) rfl rfl
        rw [List.append_assoc] at hwritten
        exact hwritten.sound

theorem processItem_attached_iff (h : w.Attached) (item : QueueItem μ) :
    (w.processItem fileHeader fs item).Attached ↔ RolloversFailLast fileHeader fs w item := by
  cases item with
  | data payload => exact processBatch_iff h payload
  | opening path metainfo format allocated =>
    exact iff_of_true (openWorkerFile_attached h path metainfo format allocated) trivial
  | closing => exact iff_of_true (closeWorkerFile_attached h) trivial

/-! ## Runs -/

/-- Without a file the items of the source change nothing, up to an OPEN that succeeds, and this one
begins with an empty buffer. -/
structure Discards (fileHeader : μ → Bytes) (fs : FileSystem) (w : StreamWorker μ) : Prop where
  data : ∀ payload, w.processItem fileHeader fs (.data payload) = w
  closing : w.processItem fileHeader fs .closing = w
  refused : ∀ path metainfo format allocated,
    (w.openWorkerFile fileHeader fs path metainfo format allocated).1 = false →
      (w.openWorkerFile fileHeader fs path metainfo format allocated).2.outputFile = none
  opened : ∀ path metainfo format allocated,
    (w.openWorkerFile fileHeader fs path metainfo format allocated).1 = true →
      ∃ n, (w.openWorkerFile fileHeader fs path metainfo format allocated).2.node = some n ∧
        n.writeBuffer = []

theorem Attached.discards (h : w.Attached) (hfile : w.outputFile = none) :
    Discards fileHeader fs w where
  data payload := by
    unfold processItem processBatch
    dsimp only
    rw [h.getNode_eq]
    cases hnode : w.node with
    | none => rfl
    | some n =>
      dsimp only
      rw [if_pos ((h.outputFile_eq hnode).symm.trans hfile)]
  closing := by
    unfold processItem closeWorkerFile
    dsimp only
    rw [h.getNode_eq]
    cases hnode : w.node with
    | none => rfl
    | some n =>
      dsimp only
      rw [(h.outputFile_eq hnode).symm.trans hfile]
  refused path metainfo format allocated hrefused := by
    obtain ⟨calls, -, heq | ⟨n, file, -, -, -, -, heq⟩⟩ :=
      @openWorkerFile_spec _ fileHeader fs _ h hfile path metainfo format allocated
    · rw [heq]
      exact hfile
    · rw [heq] at hrefused
      cases hrefused
  opened path metainfo format allocated hopened := by
    obtain ⟨calls, -, heq | ⟨n, file, -, -, -, hbuffer, heq⟩⟩ :=
      @openWorkerFile_spec _ fileHeader fs _ h hfile path metainfo format allocated
    · rw [heq] at hopened
      cases hopened
    · rw [heq]
      exact ⟨n, rfl, hbuffer⟩

/-- What is to hold in every state: no call was given a null pointer or a stream that was closed,
the same goes for the shutdown, the file of the node is `NULL` or open, and without a file the items
are discarded. -/
structure Safe (fileHeader : μ → Bytes) (fs : FileSystem) (w : StreamWorker μ) : Prop where
  attached : w.Attached
  shutdown : streamCalls.Sound w.shutdown.calls
  discards : w.outputFile = none → Discards fileHeader fs w

theorem safe_iff : Safe fileHeader fs w ↔ w.Attached :=
  ⟨fun h => h.attached, fun h => ⟨h, shutdown_sound h, h.discards⟩⟩

/-- From any state of the node and its buffer, whatever calls fail, a run is safe throughout exactly
if in each of its payloads every rollover that fails comes at the last flush. -/
theorem rollover_safe_iff (h : w.Attached) (items : List (QueueItem μ)) :
    (∀ pre, pre <+: items →
      Safe fileHeader fs (run (fun w item => w.processItem fileHeader fs item) w pre)) ↔
    Meets (fun w item => w.processItem fileHeader fs item) (RolloversFailLast fileHeader fs) w
      items := by
  simp only [safe_iff]
  exact @run_invariant_iff _ _ (fun w item => w.processItem fileHeader fs item) Attached (fun _ => True)
    (RolloversFailLast fileHeader fs) (fun _ _ _ => trivial)
    (fun _ item _ hw => processItem_attached_iff hw item) _ _ trivial h

/-- A worker with a binary file that has room for fewer than 100 more events, after the call that
opened it. -/
def nearlyFull : StreamWorker Unit where
  sourceId := [65]
  node := some {
    metadata := (), outputFormat := .bin, chunkIndex := 0, bytesWritten := 10737417600
    outputFile := some 0, filePath := runPath.val, baseFilePath := runPath.val
    eventsWritten := 894784800, writeBuffer := [], eventsReceived := 894784800
    bytesReceived := 14316556800 }
  calls := [.fopen runPath.val true]

theorem nearlyFull_attached : nearlyFull.Attached where
  sound := sound_fopen HandleCalls.sound_nil _ _
  named := nofun
  node n hn := by
    obtain rfl := Option.some.inj hn
    exact Holding.fopen HandleCalls.sound_nil runPath.val

/-- The rollover cannot open its file: the fifth call fails. -/
def noRollover : FileSystem where
  fails k := k = 4
  writes _ := 0

/-- A payload of valid events. -/
def validPayload (events : Nat) : Bytes := (List.replicate events validEvent).flatten

theorem payloadEvents_append {event payload : Bytes} (h : event.length = eventSizeBytes) :
    payloadEvents (event ++ payload) = event :: payloadEvents payload := by
  unfold payloadEvents
  rw [List.length_append, h, Nat.add_div_left _ (by decide), List.range_succ_eq_map, List.map_cons,
    List.map_map]
  refine congrArg₂ List.cons ?_ (List.map_congr_left fun e _ => ?_)
  · rw [Nat.zero_mul, List.drop_zero, ← h, List.take_left]
  · rw [Function.comp_apply, Nat.succ_mul, Nat.add_comm, ← h, ← List.drop_drop, List.drop_left]

theorem payloadEvents_validPayload (events : Nat) :
    payloadEvents (validPayload events) = List.replicate events validEvent := by
  induction events with
  | zero => rfl
  | succ events ih =>
    show payloadEvents (validEvent ++ validPayload events) = _
    rw [payloadEvents_append rfl, ih]
    rfl

theorem recordSizes_validPayload (events : Nat) :
    recordSizes .bin (payloadEvents (validPayload events)) = List.replicate events 12 := by
  unfold recordSizes
  rw [payloadEvents_validPayload, List.filter_replicate, if_pos (by decide), List.map_replicate]
  rfl

theorem rollover_safe_nearlyFull :
    Safe (fun _ => []) noRollover (run (fun w item => w.processItem (fun _ => []) noRollover item)
      nearlyFull [.data (validPayload 100), .closing]) := by
  refine (@rollover_safe_iff _ (fun _ => []) noRollover _ nearlyFull_attached
    [.data (validPayload 100), .closing]).2 ⟨?_, trivial, trivial⟩ _ (List.prefix_refl _)
  intro n hn _
  obtain rfl := Option.some.inj hn
  unfold StreamNode.survives StreamNode.flushes
  rw [recordSizes_validPayload]
  decide +kernel

/-- With 200 events the loop goes on after the rollover that failed, and the second flush is given a
null pointer. -/
theorem rollover_writes_null :
    ¬ streamCalls.Sound
      (nearlyFull.processItem (fun _ => []) noRollover (.data (validPayload 200))).calls := by
  have hsizes := recordSizes_validPayload 200
  generalize validPayload 200 = payload at hsizes ⊢
  refine (processBatch_open nearlyFull_attached rfl nofun payload).2 ?_
  unfold StreamNode.survives StreamNode.flushes
  rw [hsizes]
  decide +kernel

end StreamWorker

end MultiDAQ.Receiver
