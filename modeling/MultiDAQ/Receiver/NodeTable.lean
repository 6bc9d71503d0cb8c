import Mathlib.Data.PNat.Notation
import MultiDAQ.Lib.LinkedChain
import MultiDAQ.Receiver.Dispatch

/-!
# `worker_dispatcher.c`

The table of a worker as it is in memory: the buckets point to nodes, and each node to the next one of
its chain. The nodes are the ones that `malloc` has handed out, and the address of a node is its place
among them; none is freed while the receiver runs. A text is the list of its bytes, and a `FILE *` a
number. A function is `none` where the C code would follow a pointer to no node, or go round a loop
without end. `strdup` does not fail.
-/

namespace MultiDAQ.Receiver

open MultiDAQ.Lib

/-- `tank_node`, without `source_id` and `next`. `writeBuffer` is the part of the buffer that is in
use. -/
structure NodeData (μ : Type) where
  metadata : μ
  outputFormat : OutputFormat
  chunkIndex : Nat
  bytesWritten : Nat
  outputFile : Option Nat
  filePath : Path
  baseFilePath : Path
  eventsWritten : Nat
  writeBuffer : Bytes
  eventsReceived : Nat
  bytesReceived : Nat
  lastMetricsPublishMonotonicNs : Nat
  deriving DecidableEq

structure ChainNode (μ : Type) extends NodeData μ where
  sourceId : Bytes
  next : Option Nat

/-- What the code does to the files. -/
inductive FileCall
  | fwrite (file : Nat) (data : Bytes)
  | fflush (file : Nat)
  | fclose (file : Nat)
  deriving DecidableEq

/-- A call of `add_node`; a pointer may be NULL. `allocated` is whether there is memory for a new
node. -/
structure AddNode (μ : Type) where
  sourceId : Option Bytes
  outputFile : Option Nat
  metadata : μ
  outputFormat : OutputFormat
  filePath : Option Path
  allocated : Bool

/-- `tank_table` and the nodes. -/
structure NodeTable (μ : Type) where
  numBuckets : ℕ+
  buckets : Nat → Option Nat
  nodes : List (ChainNode μ)

variable {μ : Type}

namespace NodeData

/-- `create_node`. -/
def createNode (outputFile : Nat) (metadata : μ) (outputFormat : OutputFormat) (filePath : Path) :
    NodeData μ where
  metadata
  outputFormat
  chunkIndex := 0
  bytesWritten := 0
  outputFile := some outputFile
  filePath := filePath.take 255
  baseFilePath := filePath.take 255
  eventsWritten := 0
  writeBuffer := []
  eventsReceived := 0
  bytesReceived := 0
  lastMetricsPublishMonotonicNs := 0

variable (n : NodeData μ)

/-- The node of an identity that is added again. -/
def reopen (outputFile : Nat) (metadata : μ) (outputFormat : OutputFormat) (filePath : Path) :
    NodeData μ :=
  { n with
    outputFile := some outputFile, filePath := filePath.take 255
    baseFilePath := filePath.take 255, writeBuffer := [], metadata, outputFormat
    chunkIndex := 0, bytesWritten := 0 }

/-- A file that is still open, and not the new one, is closed. -/
def release (outputFile : Nat) : List FileCall :=
  match n.outputFile with
  | none => []
  | some file =>
    if file = outputFile then []
    else (if n.writeBuffer = [] then [] else [.fwrite file n.writeBuffer, .fflush file]) ++
      [.fclose file]

end NodeData

namespace NodeTable

/-- `create_table`. -/
def createTable (numBuckets : ℕ+) : NodeTable μ where
  numBuckets
  buckets := fun _ => none
  nodes := []

variable (t : NodeTable μ)

/-- The loop over the chain of an identity. -/
def search (sourceId : Bytes) : Option (Option Nat) :=
  findFrom ChainNode.next (fun node => node.sourceId = sourceId) t.nodes t.nodes.length
    (t.buckets (keyIndex sourceId t.numBuckets))

/-- A new node, in front of its chain. -/
def prepend (sourceId : Bytes) (n : NodeData μ) : NodeTable μ :=
  let index := keyIndex sourceId t.numBuckets
  { t with
    nodes := t.nodes ++ [{ n with sourceId, next := t.buckets index }]
    buckets := Function.update t.buckets index (some t.nodes.length) }

/-- The fields of the node at an address are written. -/
def write (address : Nat) (f : NodeData μ → NodeData μ) : NodeTable μ :=
  { t with nodes := t.nodes.modify address fun node => { node with toNodeData := f node.toNodeData } }

def refused : Option (Bool × NodeTable μ × List FileCall) := some (false, t, [])

/-- `add_node`. -/
def addNode (call : AddNode μ) : Option (Bool × NodeTable μ × List FileCall) :=
  match call.sourceId, call.outputFile, call.filePath with
  | none, _, _ | some [], _, _ => t.refused
  | some _, none, _ => t.refused
  | some _, some _, none | some _, some _, some [] => t.refused
  | some sourceId, some outputFile, some filePath =>
    match t.search sourceId with
    | none => none
    | some (some address) =>
      match t.nodes[address]? with
      | none => none
      | some node =>
        some (true,
          t.write address fun n => n.reopen outputFile call.metadata call.outputFormat filePath,
          node.release outputFile)
    | some none =>
      if !call.allocated then t.refused
      else
        some (true, t.prepend sourceId
          (.createNode outputFile call.metadata call.outputFormat filePath), [])

/-- `get_node`. -/
def getNode (sourceId : Option Bytes) : Option (Option Nat) :=
  match sourceId with
  | none | some [] => some none
  | some sourceId => t.search sourceId

end NodeTable

/-! ## Sequences of calls -/

inductive TableCall (μ : Type)
  | add (call : AddNode μ)
  | get (sourceId : Option Bytes)
  /-- The node of an identity is looked up, and its fields are written. -/
  | write (sourceId : Bytes) (f : NodeData μ → NodeData μ)

/-- What a call answers: with a pointer, also what it points to. -/
inductive TableReply (μ : Type)
  | added (ok : Bool) (files : List FileCall)
  | found (node : Option (Nat × NodeData μ))

namespace NodeTable

variable (t : NodeTable μ)

/-- A pointer, with the fields of the node it points to. -/
def deref : Option Nat → Option (Option (Nat × NodeData μ))
  | none => some none
  | some address => t.nodes[address]?.map fun node => some (address, node.toNodeData)

def step : TableCall μ → Option (NodeTable μ × TableReply μ)
  | .add call => (t.addNode call).map fun (ok, t', files) => (t', .added ok files)
  | .get sourceId =>
    (t.getNode sourceId).bind fun pointer => (t.deref pointer).map fun node => (t, .found node)
  | .write sourceId f =>
    (t.getNode (some sourceId)).bind fun pointer =>
      (t.deref pointer).map fun node =>
        (match node with
          | none => t
          | some (address, _) => t.write address f, .found node)

/-- The answers to a sequence of calls. -/
def replies (t : NodeTable μ) : List (TableCall μ) → Option (List (TableReply μ))
  | [] => some []
  | call :: calls =>
    (t.step call).bind fun (t', reply) => (t'.replies calls).map (reply :: ·)

end NodeTable

/-! ## What the table is for -/

/-- A finite map from the identities to the nodes; `made` counts them. -/
structure NodeMap (μ : Type) where
  nodes : Dict Bytes (Nat × NodeData μ) := .empty
  made : Nat := 0

namespace NodeMap

variable (m : NodeMap μ)

/-- The identity and the file of a call are there: nothing else is added. -/
def accepted (call : AddNode μ) : Option (Bytes × Nat × Path) :=
  match call.sourceId, call.outputFile, call.filePath with
  | some sourceId, some outputFile, some filePath =>
    if sourceId = [] ∨ filePath = [] then none else some (sourceId, outputFile, filePath)
  | _, _, _ => none

/-- What becomes of the file of a node when it is added again with the file `outputFile`: another file
gets what is still in the buffer, and is closed. -/
def closes (n : NodeData μ) (outputFile : Nat) : List FileCall :=
  match n.outputFile with
  | none => []
  | some file =>
    if file = outputFile then []
    else if n.writeBuffer = [] then [.fclose file]
    else [.fwrite file n.writeBuffer, .fflush file, .fclose file]

/-- The node of an identity that is there is reused: its file is released and its file, path, format,
metadata, buffer, chunk and size start again, while its counters and the time of its last metrics go
on. Otherwise a new one is made, with everything at zero. -/
def add (call : AddNode μ) : NodeMap μ × TableReply μ :=
  match accepted call with
  | none => (m, .added false [])
  | some (sourceId, outputFile, filePath) =>
    let name := filePath.take 255
    match m.nodes.get? sourceId with
    | some (address, n) =>
      let n' : NodeData μ := {
        outputFile := some outputFile, filePath := name, baseFilePath := name
        metadata := call.metadata, outputFormat := call.outputFormat
        writeBuffer := [], chunkIndex := 0, bytesWritten := 0
        eventsWritten := n.eventsWritten, eventsReceived := n.eventsReceived
        bytesReceived := n.bytesReceived
        lastMetricsPublishMonotonicNs := n.lastMetricsPublishMonotonicNs }
      ({ m with nodes := m.nodes.set sourceId (address, n') }, .added true (closes n outputFile))
    | none =>
      if call.allocated then
        let n : NodeData μ := {
          outputFile := some outputFile, filePath := name, baseFilePath := name
          metadata := call.metadata, outputFormat := call.outputFormat
          writeBuffer := [], chunkIndex := 0, bytesWritten := 0
          eventsWritten := 0, eventsReceived := 0, bytesReceived := 0
          lastMetricsPublishMonotonicNs := 0 }
        ({ nodes := m.nodes.set sourceId (m.made, n), made := m.made + 1 }, .added true [])
      else (m, .added false [])

def find (sourceId : Option Bytes) : Option (Nat × NodeData μ) := sourceId.bind m.nodes.get?

def write (sourceId : Bytes) (f : NodeData μ → NodeData μ) : NodeMap μ :=
  { m with nodes := m.nodes.modify sourceId fun (address, n) => (address, f n) }

def step : TableCall μ → NodeMap μ × TableReply μ
  | .add call => m.add call
  | .get sourceId => (m, .found (m.find sourceId))
  | .write sourceId f => (m.write sourceId f, .found (m.find (some sourceId)))

end NodeMap

end MultiDAQ.Receiver
