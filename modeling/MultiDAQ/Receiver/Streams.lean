import MultiDAQ.Lib.Handles
import MultiDAQ.Receiver.Worker

/-!
# `process_data` and its streams

The same handling of the items of one source as in `MultiDAQ.Receiver.Worker`, over a file system
whose calls can fail. The worker records its calls with the pointers it gives them. A call with a
pointer that is null, or to a stream that was closed, is recorded like the others, and what comes
after it is what the code would do if it came back.
-/

namespace MultiDAQ.Receiver

open MultiDAQ.Lib

/-- `FILE *`: a stream is named by the number of the call that opened it; `none` is `NULL`. -/
abbrev FilePtr := Option Nat

inductive StreamCall
  | fopen (path : Path) (opened : Bool)
  | fwrite (file : FilePtr) (data : Bytes)
  | fprintf (file : FilePtr) (text : Bytes)
  | fflush (file : FilePtr)
  | ferror (file : FilePtr)
  | fclose (file : FilePtr)
  deriving DecidableEq, Repr

abbrev StreamCalls := List StreamCall

/-- What the calls do with streams. -/
def streamCalls : HandleCalls StreamCall where
  opens
    | .fopen _ opened => opened
    | _ => false
  closes
    | .fclose _ => true
    | _ => false
  pointer
    | .fopen .. => none
    | .fwrite file _ | .fprintf file _ | .fflush file | .ferror file | .fclose file => some file

/-- Which calls fail, by their number, and how much an `fwrite` that fails writes. -/
structure FileSystem where
  fails : Nat → Bool
  writes : Nat → Nat

/-- What the `k`-th call returns, an `fwrite` of `size` bytes. -/
def FileSystem.fwrite (fs : FileSystem) (k size : Nat) : Nat :=
  if fs.fails k then min (fs.writes k) size else size

/-- `tank_node` without its place in the table. -/
structure StreamNode (μ : Type) where
  metadata : μ
  outputFormat : OutputFormat
  chunkIndex : Nat
  bytesWritten : Nat
  outputFile : FilePtr
  filePath : Path
  baseFilePath : Path
  eventsWritten : Nat
  writeBuffer : Bytes
  eventsReceived : Nat
  bytesReceived : Nat

namespace StreamNode

variable {μ : Type} (fileHeader : μ → Bytes) (fs : FileSystem)

/-- `write_header`. -/
def writeHeader (stream : Nat) (metadata : μ) (calls : StreamCalls) : Bool × StreamCalls :=
  let header := fileHeader metadata
  (fs.fwrite calls.length header.length = header.length,
    calls ++ [.fwrite (some stream) header])

/-- `rollover_file`. -/
def rolloverFile (n : StreamNode μ) (calls : StreamCalls) : StreamNode μ × StreamCalls :=
  let calls := calls ++ [.fclose n.outputFile]
  let n := { n with outputFile := none, chunkIndex := n.chunkIndex + 1 }
  let newPath := chunkPath n.baseFilePath n.chunkIndex
  let newFile := calls.length
  let calls := calls ++ [.fopen newPath (!fs.fails newFile)]
  if fs.fails newFile then (n, calls)
  else
    let (ok, calls) := writeHeader fileHeader fs newFile n.metadata calls
    if !ok then (n, calls ++ [.fclose (some newFile)])
    else
      ({ n with outputFile := some newFile, bytesWritten := 0, filePath := newPath.take 255 },
        match n.outputFormat with
        | .csv => calls ++ [.fprintf (some newFile) csvColumns, .fflush (some newFile)]
        | .bin => calls)

/-- Writes the buffer to the file, and goes on to the next file when this one is full. -/
def flushBuffer (n : StreamNode μ) (calls : StreamCalls) : StreamNode μ × StreamCalls :=
  let calls := calls ++ [.fwrite n.outputFile n.writeBuffer, .fflush n.outputFile]
  let n := { n with bytesWritten := n.bytesWritten + n.writeBuffer.length, writeBuffer := [] }
  if maxFileSizeBytes ≤ n.bytesWritten then rolloverFile fileHeader fs n calls else (n, calls)

/-- The buffer is to be written out. -/
def flushDue (bufferUsed eventsWritten : Nat) : Bool :=
  writeBufferSize - 256 < bufferUsed || eventsWritten % numEventsWrite = 0

/-- The part of the loop that writes the record of an event. -/
def writeRecord (n : StreamNode μ) (calls : StreamCalls) (e : EventRecord) :
    StreamNode μ × StreamCalls :=
  let n := { n with
    writeBuffer := n.writeBuffer ++ e.encode n.outputFormat
    eventsWritten := (n.eventsWritten + 1) % 2 ^ 64 }
  if flushDue n.writeBuffer.length n.eventsWritten then flushBuffer fileHeader fs n calls
  else (n, calls)

/-- The body of the loop over the events of a payload. -/
def processRawEvent (n : StreamNode μ) (calls : StreamCalls) (event : Bytes) :
    StreamNode μ × StreamCalls :=
  let buffer := cutBuffer event
  if !checkCrc buffer then (n, calls)
  else
    let e := decodeEvent buffer
    if e.excluded then (n, calls) else writeRecord fileHeader fs n calls e

/-- The loop over the events of a payload. -/
def processRawEvents (n : StreamNode μ) (calls : StreamCalls) :
    List Bytes → StreamNode μ × StreamCalls
  | [] => (n, calls)
  | event :: events =>
    let (n, calls) := processRawEvent fileHeader fs n calls event
    n.processRawEvents calls events

end StreamNode

/-- A worker, as far as one source goes: its node in the table, if it has one, and the calls that
were made for it. -/
structure StreamWorker (μ : Type) where
  sourceId : Bytes
  node : Option (StreamNode μ)
  calls : StreamCalls

namespace StreamWorker

variable {μ : Type} (fileHeader : μ → Bytes) (fs : FileSystem) (w : StreamWorker μ)

/-- `get_node`. -/
def getNode : Option (StreamNode μ) := if w.sourceId = [] then none else w.node

/-- The stream of the source. -/
def outputFile : FilePtr := w.getNode.bind (·.outputFile)

/-- `add_node`: the node of the source starts again on the file, except for the counters, or a new
node is made. A file that the node had open is closed. -/
def addNode (file : Nat) (path : ItemPath) (metainfo : μ) (outputFormat : OutputFormat)
    (allocated : Bool) : StreamWorker μ :=
  if w.sourceId = [] ∨ path.val = [] then w
  else
    match w.node with
    | some n =>
      let calls :=
        match n.outputFile with
        | none => w.calls
        | some old =>
          (if n.writeBuffer = [] then w.calls
            else w.calls ++ [.fwrite (some old) n.writeBuffer, .fflush (some old)]) ++
          [.fclose (some old)]
      { w with
        node := some { n with
          metadata := metainfo, outputFormat := outputFormat, chunkIndex := 0, bytesWritten := 0
          outputFile := some file, filePath := path.val.take 255
          baseFilePath := path.val.take 255, writeBuffer := [] }
        calls := calls }
    | none =>
      if !allocated then w
      else { w with
        node := some {
          metadata := metainfo, outputFormat := outputFormat, chunkIndex := 0, bytesWritten := 0
          outputFile := some file, filePath := path.val.take 255
          baseFilePath := path.val.take 255
          eventsWritten := 0, writeBuffer := [], eventsReceived := 0, bytesReceived := 0 } }

def flushHead (file : Nat) (calls : StreamCalls) : Bool × StreamCalls :=
  (!fs.fails calls.length, calls ++ [.fflush (some file)])

/-- What `open_worker_file` writes to a new file, and whether that went well: the header, the titles
of a CSV file, and an `fflush`. -/
def writeHead (file : Nat) (metainfo : μ) (outputFormat : OutputFormat) (calls : StreamCalls) :
    Bool × StreamCalls :=
  let (ok, calls) := StreamNode.writeHeader fileHeader fs file metainfo calls
  if !ok then (false, calls)
  else
    match outputFormat with
    | .bin => flushHead fs file calls
    | .csv =>
      let written := !fs.fails calls.length
      let calls := calls ++ [StreamCall.fprintf (some file) csvColumns]
      if !written then (false, calls) else flushHead fs file calls

/-- `open_worker_file`. -/
def openWorkerFile (path : ItemPath) (metainfo : μ) (outputFormat : OutputFormat)
    (allocated : Bool) : Bool × StreamWorker μ :=
  if w.outputFile.isSome then (false, w)
  else
    let file := w.calls.length
    let calls := w.calls ++ [.fopen path.val (!fs.fails file)]
    if fs.fails file then (false, { w with calls := calls })
    else
      let (ok, calls) := writeHead fileHeader fs file metainfo outputFormat calls
      if !ok then (false, { w with calls := calls ++ [.fclose (some file)] })
      else
        let w := addNode { w with calls := calls } file path metainfo outputFormat allocated
        if w.outputFile = some file then (true, w)
        else (false, { w with calls := w.calls ++ [.fclose (some file)] })

/-- `close_worker_file`. -/
def closeWorkerFile : Bool × StreamWorker μ :=
  match w.getNode with
  | none => (false, w)
  | some n =>
    match n.outputFile with
    | none => (true, w)
    | some file =>
      let ok := !fs.fails w.calls.length
      let calls := w.calls ++ [.ferror (some file)]
      let (ok, calls, n) :=
        if n.writeBuffer = [] then (ok, calls, n)
        else
          let written := fs.fwrite calls.length n.writeBuffer.length
          (ok && written = n.writeBuffer.length, calls ++ [.fwrite (some file) n.writeBuffer],
            { n with bytesWritten := n.bytesWritten + written, writeBuffer := [] })
      let ok := ok && !fs.fails calls.length
      let calls := calls ++ [.fflush (some file)]
      let ok := ok && !fs.fails calls.length
      let calls := calls ++ [.fclose (some file)]
      (ok, { w with node := some { n with outputFile := none }, calls := calls })

/-- The handling of a DATA item: without an open file its payload is discarded. -/
def processBatch (payload : Bytes) : StreamWorker μ :=
  match w.getNode with
  | none => w
  | some n =>
    if n.outputFile = none then w
    else
      let events := payloadEvents payload
      let n := { n with
        eventsReceived := n.eventsReceived + events.length
        bytesReceived := n.bytesReceived + payload.length }
      let (n, calls) := n.processRawEvents fileHeader fs w.calls events
      { w with node := some n, calls := calls }

/-- One item of a batch of `process_data`. -/
def processItem : QueueItem μ → StreamWorker μ
  | .data payload => w.processBatch fileHeader fs payload
  | .opening path metainfo outputFormat allocated =>
    (w.openWorkerFile fileHeader fs path metainfo outputFormat allocated).2
  | .closing => (w.closeWorkerFile fs).2

/-- The end of `process_data`: the buffer of an open file is written out. -/
def shutdown : StreamWorker μ :=
  match w.node with
  | none => w
  | some n =>
    match n.outputFile with
    | none => w
    | some file =>
      if n.writeBuffer = [] then w
      else { w with
        node := some { n with writeBuffer := [] }
        calls := w.calls ++ [.fwrite (some file) n.writeBuffer, .fflush (some file)] }

end StreamWorker

end MultiDAQ.Receiver
