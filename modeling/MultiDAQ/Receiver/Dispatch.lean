import MultiDAQ.Lib.ChainedTable
import MultiDAQ.Receiver.Worker

/-!
# The tables of the workers

`server/acquisition/dispatch/worker_dispatcher.c` and the routing of `evreceiver.c`: the identity of
a client arrives as a frame of bytes, with a payload in `receive_data` and with a request in
`control_listener`, and names a worker and an entry of the table of this worker. The number of the
workers is a parameter.
-/

namespace MultiDAQ.Receiver

open MultiDAQ.Lib

/-- `NUM_BUCKETS_PER_WORKER`. -/
def numBucketsPerWorker : Nat := 64

/-- `key_index`. -/
def keyIndex (key : Bytes) (numBuckets : Nat) : Nat := (hashFnv1a key).toNat % numBuckets

/-- `tank_table`: the entries are keyed by `source_id`. -/
abbrev TankTable (μ : Type) := ChainedTable Bytes (TankNode μ)

namespace TankTable

variable {μ : Type}

/-- `create_table`, as a worker calls it. -/
def createTable : TankTable μ := ChainedTable.empty numBucketsPerWorker

/-- The worker of the table, as far as one source goes. -/
def worker (t : TankTable μ) (sourceId : Bytes) (files : Files) : Worker μ where
  sourceId := sourceId
  node := t.find? keyIndex sourceId
  files := files

/-- The node of the source is changed where it is, or is a new one of `add_node`. -/
def store (t : TankTable μ) (sourceId : Bytes) : Option (TankNode μ) → TankTable μ
  | some n => t.put keyIndex sourceId n
  | none => t

end TankTable

/-! ## Routing -/

/-- The worker that a key hashes to. -/
def workerAmong (numWorkers : Nat) (key : Bytes) : Nat := (hashFnv1a key).toNat % numWorkers

/-- `receive_data`: the worker that the identity of a payload chooses, and `source_id`. -/
def dataRoute (numWorkers : Nat) (identity : Bytes) : Nat × Bytes :=
  let identityBuf := identity.take (maxSourceIdLen - 1)
  (workerAmong numWorkers identityBuf, cString identityBuf)

/-- `control_listener`: the worker that the identity of a request chooses, and `id_str`. A request
with a frame that does not fit is refused. -/
def controlRoute (numWorkers : Nat) (identity : Bytes) : Option (Nat × Bytes) :=
  if maxSourceIdLen - 1 < identity.length then none
  else
    let idStr := cString identity
    some (workerAmong numWorkers idStr, idStr)

/-- The route of an item: its worker, and the source id it carries. -/
def route {μ : Type} (numWorkers : Nat) (identity : Bytes) : QueueItem μ → Option (Nat × Bytes)
  | .data _ => some (dataRoute numWorkers identity)
  | .opening .. | .closing => controlRoute numWorkers identity

/-! ## The workers -/

/-- The tables of the workers, and the files. -/
structure Workers (μ : Type) where
  tables : Nat → TankTable μ := fun _ => TankTable.createTable
  files : Files

namespace Workers

variable {μ : Type} (fileHeader : μ → Bytes) (numWorkers : Nat)

/-- A worker handles an item. -/
def handle (s : Workers μ) (worker : Nat) (sourceId : Bytes) (item : QueueItem μ) :
    Option (Workers μ) :=
  (processItem fileHeader ((s.tables worker).worker sourceId s.files) item).map fun w => {
    tables := Function.update s.tables worker ((s.tables worker).store sourceId w.node)
    files := w.files }

/-- An item arrives from the identity, and its worker handles it. -/
def arrive (s : Workers μ) (identity : Bytes) (item : QueueItem μ) : Option (Workers μ) :=
  match route numWorkers identity item with
  | none => some s
  | some (worker, sourceId) => s.handle fileHeader worker sourceId item

def arriveAll (s : Workers μ) : List (Bytes × QueueItem μ) → Option (Workers μ)
  | [] => some s
  | (identity, item) :: items =>
    match s.arrive fileHeader numWorkers identity item with
    | none => none
    | some s => s.arriveAll items

/-- The node that a payload of the identity is looked up to. -/
def dataNode (s : Workers μ) (identity : Bytes) : Option (TankNode μ) :=
  let (worker, sourceId) := dataRoute numWorkers identity
  ((s.tables worker).worker sourceId s.files).getNode

end Workers

end MultiDAQ.Receiver
