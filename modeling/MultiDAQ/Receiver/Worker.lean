import MultiDAQ.Lib.Dict
import MultiDAQ.Receiver.FilePath

/-!
# `process_data`

What a worker of the receiver does with the items of one source: the node of the source with its
write buffer, the output files, and the handling of an OPEN, a DATA and a CLOSE item and of the
shutdown. No call of the file system fails here; a file is the bytes written to it. A step is `none`
where the C code would write outside of the buffer, or to no file.
-/

namespace MultiDAQ.Receiver

open MultiDAQ.Lib

/-- The size of `write_buffer`. -/
def writeBufferSize : Nat := 1024 * 128

/-- `NUM_EVENTS_WRITE`. -/
def numEventsWrite : Nat := 100

/-- `MAX_FILE_SIZE_BYTES`. -/
def maxFileSizeBytes : Nat := 10 * 1024 * 1024 * 1024

/-- `tank_node` without its place in the table. `writeBuffer` is the part of the buffer that is in
use, and `outputFile` the path of the open file. -/
structure TankNode (μ : Type) where
  metadata : μ
  outputFormat : OutputFormat
  chunkIndex : Nat
  bytesWritten : Nat
  outputFile : Option Path
  filePath : Path
  baseFilePath : Path
  eventsWritten : Nat
  writeBuffer : Bytes
  eventsReceived : Nat
  bytesReceived : Nat

abbrev Files := Dict Path Bytes

/-- `fopen(path, "w")`. -/
def Files.fopen (files : Files) (path : Path) : Files := files.set path []

/-- `fwrite` to an open file. -/
def Files.fwrite (files : Files) (path : Path) (data : Bytes) : Files :=
  files.modify path (· ++ data)

/-- The column titles of a CSV file. -/
def csvColumns : Bytes :=
  asciiBytes ("Channel,Unix_time_16_bit,Coarse_time,TDC_time," ++
    "ToT_time,TDC_trigger_end,Energy\n").toList

section Header

-- `fileHeader` is the header that `write_header` makes of the metadata of an acquisition
variable {μ : Type} (fileHeader : μ → Bytes)

/-- What a file begins with. -/
def fileHead (format : OutputFormat) (metadata : μ) : Bytes :=
  fileHeader metadata ++
    match format with
    | .csv => csvColumns
    | .bin => []

/-- Opens a file and writes what it begins with. -/
def Files.create (files : Files) (path : Path) (format : OutputFormat) (metadata : μ) : Files :=
  (files.fopen path).fwrite path (fileHead fileHeader format metadata)

/-! ## Writing -/

/-- `rollover_file`. -/
def rolloverFile (n : TankNode μ) (files : Files) : TankNode μ × Files :=
  let chunkIndex := n.chunkIndex + 1
  let newPath := chunkPath n.baseFilePath chunkIndex
  ({ n with
      chunkIndex := chunkIndex, outputFile := some newPath, bytesWritten := 0
      filePath := newPath.take 255 },
    files.create fileHeader newPath n.outputFormat n.metadata)

/-- Writes the buffer to the file, and goes on to the next file when this one is full. -/
def flushBuffer (n : TankNode μ) (files : Files) : Option (TankNode μ × Files) :=
  match n.outputFile with
  | none => none
  | some path =>
    let files := files.fwrite path n.writeBuffer
    let n := { n with bytesWritten := n.bytesWritten + n.writeBuffer.length, writeBuffer := [] }
    if maxFileSizeBytes ≤ n.bytesWritten then some (rolloverFile fileHeader n files)
    else some (n, files)

/-- There is room for a record in the buffer: `snprintf` also writes a final NUL. -/
def TankNode.hasRoom (n : TankNode μ) (record : Bytes) : Bool :=
  match n.outputFormat with
  | .bin => n.writeBuffer.length + record.length ≤ writeBufferSize
  | .csv => n.writeBuffer.length + record.length < writeBufferSize

/-- The part of the loop that writes the record of an event. -/
def writeRecord (n : TankNode μ) (files : Files) (e : EventRecord) :
    Option (TankNode μ × Files) :=
  let record := e.encode n.outputFormat
  if !n.hasRoom record then none
  else
    let n := { n with
      writeBuffer := n.writeBuffer ++ record
      eventsWritten := (n.eventsWritten + 1) % 2 ^ 64 }
    if writeBufferSize - 256 < n.writeBuffer.length then flushBuffer fileHeader n files
    else if n.eventsWritten % numEventsWrite = 0 then flushBuffer fileHeader n files
    else some (n, files)

/-- The body of the loop over the events of a payload. -/
def processRawEvent (n : TankNode μ) (files : Files) (event : Bytes) :
    Option (TankNode μ × Files) :=
  let buffer := cutBuffer event
  if !checkCrc buffer then some (n, files)
  else
    let e := decodeEvent buffer
    if e.excluded then some (n, files)
    else writeRecord fileHeader n files e

/-- The loop over the events of a payload. -/
def processRawEvents (n : TankNode μ) (files : Files) : List Bytes → Option (TankNode μ × Files)
  | [] => some (n, files)
  | event :: events =>
    match processRawEvent fileHeader n files event with
    | none => none
    | some (n, files) => processRawEvents n files events

/-! ## Items -/

/-- `char path[256]` of an item. -/
abbrev ItemPath := { path : Path // path.length < 256 }

/-- The items of one source in the queue of its worker. `allocated` is whether there is memory for a
new node. -/
inductive QueueItem (μ : Type)
  | data (payload : Bytes)
  | opening (path : ItemPath) (metainfo : μ) (outputFormat : OutputFormat) (allocated : Bool)
  | closing

/-- A worker, as far as one source goes: its node in the table, if it has one, and the files. -/
structure Worker (μ : Type) where
  sourceId : Bytes
  node : Option (TankNode μ)
  files : Files

/-- `get_node`: an empty source id is never found. -/
def Worker.getNode (w : Worker μ) : Option (TankNode μ) :=
  if w.sourceId = [] then none else w.node

/-- The file of the source that is open. -/
def Worker.openFile (w : Worker μ) : Option Path := w.getNode.bind (·.outputFile)

/-- `add_node` for a source that has no open file: its node starts again, except for the counters,
or a new node is made. -/
def addNode (w : Worker μ) (path : ItemPath) (metainfo : μ) (outputFormat : OutputFormat)
    (allocated : Bool) : Option (TankNode μ) :=
  if w.sourceId = [] ∨ path.val = [] then w.node
  else
    match w.node with
    | some n => some { n with
        metadata := metainfo, outputFormat := outputFormat, chunkIndex := 0, bytesWritten := 0
        outputFile := some path.val, filePath := path.val.take 255
        baseFilePath := path.val.take 255, writeBuffer := [] }
    | none =>
      if !allocated then none
      else some {
        metadata := metainfo, outputFormat := outputFormat, chunkIndex := 0, bytesWritten := 0
        outputFile := some path.val, filePath := path.val.take 255
        baseFilePath := path.val.take 255
        eventsWritten := 0, writeBuffer := [], eventsReceived := 0, bytesReceived := 0 }

/-- `open_worker_file`. -/
def openWorkerFile (w : Worker μ) (path : ItemPath) (metainfo : μ)
    (outputFormat : OutputFormat) (allocated : Bool) : Bool × Worker μ :=
  if w.openFile.isSome then (false, w)
  else
    let w' : Worker μ := { w with
      node := addNode w path metainfo outputFormat allocated
      files := w.files.create fileHeader path.val outputFormat metainfo }
    (w'.openFile = some path.val, w')

/-- `close_worker_file`. -/
def closeWorkerFile (w : Worker μ) : Bool × Worker μ :=
  match w.getNode with
  | none => (false, w)
  | some n =>
    match n.outputFile with
    | none => (true, w)
    | some path =>
      (true, { w with
        node := some { n with
          bytesWritten := n.bytesWritten + n.writeBuffer.length, writeBuffer := []
          outputFile := none }
        files := w.files.fwrite path n.writeBuffer })

/-- The handling of a DATA item: without an open file its payload is discarded. -/
def processBatch (w : Worker μ) (payload : Bytes) : Option (Worker μ) :=
  match w.getNode with
  | none => some w
  | some n =>
    match n.outputFile with
    | none => some w
    | some _ =>
      let events := payloadEvents payload
      let n := { n with
        eventsReceived := n.eventsReceived + events.length
        bytesReceived := n.bytesReceived + payload.length }
      match processRawEvents fileHeader n w.files events with
      | none => none
      | some (n, files) => some { w with node := some n, files := files }

/-- One item of a batch of `process_data`. -/
def processItem (w : Worker μ) : QueueItem μ → Option (Worker μ)
  | .data payload => processBatch fileHeader w payload
  | .opening path metainfo outputFormat allocated =>
    some (openWorkerFile fileHeader w path metainfo outputFormat allocated).2
  | .closing => some (closeWorkerFile w).2

/-- The items that the worker takes from its queue, in order. -/
def processItems (w : Worker μ) : List (QueueItem μ) → Option (Worker μ)
  | [] => some w
  | item :: items =>
    match processItem fileHeader w item with
    | none => none
    | some w => processItems w items

/-- The end of `process_data`: the buffer of an open file is written out. -/
def shutdownWorker (w : Worker μ) : Worker μ :=
  match w.node with
  | none => w
  | some n =>
    match n.outputFile with
    | none => w
    | some path =>
      if n.writeBuffer = [] then w
      else { w with
        node := some { n with writeBuffer := [] }
        files := w.files.fwrite path n.writeBuffer }

end Header

end MultiDAQ.Receiver
