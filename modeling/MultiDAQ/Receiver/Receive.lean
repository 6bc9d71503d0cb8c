import MultiDAQ.Lib.Run

/-!
# `receive_data`

The loop of `server/acquisition/evreceiver.c` that reads the multipart messages of the clients: an
identity frame, then payload frames, of which the first that is well formed is copied and put in the
queue of the worker of that identity. One step reads one frame. The variables of the inner loop are
kept from frame to frame; a wake-up starts them again.
-/

namespace MultiDAQ.Receiver

open MultiDAQ.Lib

abbrev Bytes := List UInt8

/-- `EVENT_SIZE_BYTES`. -/
def eventSizeBytes : Nat := 16

/-- `MAX_SOURCE_ID_LEN`. -/
def maxSourceIdLen : Nat := 32

/-- `N_WORKERS`. -/
def nWorkers : Nat := 8

/-- `hash_fnv1a`. -/
def hashFnv1a (data : Bytes) : UInt64 :=
  data.foldl (fun hash b => (hash ^^^ b.toUInt64) * 0x100000001b3) 0xcbf29ce484222325

/-- The bytes of a C string: those before the first NUL. -/
def cString (b : Bytes) : Bytes := b.takeWhile (· != 0)

/-- `data_batch_t`. -/
structure DataBatch where
  sourceId : Bytes
  payload : Bytes
  deriving DecidableEq, Repr

/-- A frame as `zmq_msg_recv` hands it over, with what `ZMQ_RCVMORE` says after it and whether an
allocation of its size succeeds. -/
structure Frame where
  data : Bytes
  more : Bool
  mallocOk : Bool
  deriving DecidableEq, Repr

/-- One call of `zmq_msg_recv`. -/
inductive Recv
  | frame (f : Frame)
  | failed
  deriving DecidableEq, Repr

/-- What became of one call. -/
inductive Outcome
  | identity
  | enqueued (workerIdx : Nat) (batch : DataBatch)
  /-- A malformed payload, or no memory for it. -/
  | discarded
  /-- A frame after the payload of the message. -/
  | ignored
  | failed
  deriving DecidableEq, Repr

/-- The variables of the inner loop. -/
structure Reading where
  more : Bool
  frameIdx : Nat
  identityBuf : Bytes
  deriving DecidableEq, Repr

/-- The initial values of these variables at a wake-up. -/
def Reading.start : Reading where
  more := false
  frameIdx := 0
  identityBuf := []

/-- At the poll of the outer loop, or inside the inner loop. -/
inductive ReceiveState
  | polling
  | reading (r : Reading)
  deriving DecidableEq, Repr

/-- The worker an identity is routed to. -/
def workerOf (identity : Bytes) : Nat := (hashFnv1a identity).toNat % nWorkers

/-- `payload_size < EVENT_SIZE_BYTES || payload_size % EVENT_SIZE_BYTES != 0`. -/
def malformed (payload : Bytes) : Bool :=
  payload.length < eventSizeBytes || payload.length % eventSizeBytes != 0

/-- The body of the inner loop on one frame. A `continue` leaves `more` and `frame_idx` as they
are. -/
def readFrame (r : Reading) (f : Frame) : Reading × Outcome :=
  let next : Reading := { r with more := f.more, frameIdx := r.frameIdx + 1 }
  if r.frameIdx = 0 then
    ({ next with identityBuf := f.data.take (maxSourceIdLen - 1) }, .identity)
  else if r.frameIdx = 1 then
    if malformed f.data then (r, .discarded)
    else if !f.mallocOk then (r, .discarded)
    else
      (next, .enqueued (workerOf r.identityBuf)
        { sourceId := cString r.identityBuf, payload := f.data })
  else (next, .ignored)

/-- One call of `zmq_msg_recv`, and the test of the inner loop. A failed call breaks out of it. -/
def receive (s : ReceiveState) : Recv → ReceiveState × Outcome
  | .failed => (.polling, .failed)
  | .frame f =>
    let r :=
      match s with
      | .polling => Reading.start
      | .reading r => r
    let (r, outcome) := readFrame r f
    (if r.more then .reading r else .polling, outcome)

/-! ## Messages -/

/-- A frame of a message, with the result of an allocation for it. -/
structure Part where
  data : Bytes
  mallocOk : Bool
  deriving DecidableEq, Repr

/-- A multipart message: the identity frame and the payload frames. -/
structure Message where
  identity : Part
  payloads : List Part
  deriving DecidableEq, Repr

/-- The frames of the parts of a message: another one follows each but the last. -/
def partFrames : List Part → List Recv
  | [] => []
  | p :: ps =>
    .frame { data := p.data, more := !ps.isEmpty, mallocOk := p.mallocOk } :: partFrames ps

/-- What arrives at the socket: a whole message, or a failed call between two messages. -/
inductive Arrival
  | message (m : Message)
  | failed
  deriving DecidableEq, Repr

/-- The calls that read an arrival: the frames of a message come one after the other. -/
def Arrival.recvs : Arrival → List Recv
  | .message m => partFrames (m.identity :: m.payloads)
  | .failed => [.failed]

/-- The arrivals in order, each with what became of its frames. -/
def reception : ReceiveState → List Arrival → List (Arrival × List Outcome)
  | _, [] => []
  | s, a :: as =>
    (a, outputs receive s a.recvs) :: reception (finalState receive s a.recvs) as

end MultiDAQ.Receiver
