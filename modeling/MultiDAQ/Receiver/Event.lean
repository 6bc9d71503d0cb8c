import Mathlib.Algebra.Ring.Nat
import MultiDAQ.Receiver.Receive

/-!
# Events

The 16-byte events of a payload as `process_data` reads them, and the records it writes for them.
The bytes in the middle of an event are six 16-bit words; the fields are bit strings of these words,
most significant bit first.
-/

namespace MultiDAQ.Receiver

/-- A 16-bit word of an event, in the byte order of the machine. -/
def wordAt (event : Bytes) (i : Nat) : UInt16 :=
  (event.getD i 0).toUInt16 ||| (event.getD (i + 1) 0).toUInt16 <<< 8

/-- `cut_buffer`. -/
def cutBuffer (event : Bytes) : List UInt16 :=
  (List.range 6).map fun j => wordAt event ((j + 1) * 2)

/-- `get_bits`. -/
def getBits (buffer : List UInt16) (bitOffset numBits : Nat) : Nat :=
  (List.range numBits).foldl (fun result i =>
    let currentBit := bitOffset + i
    let word16 := buffer.getD (currentBit / 16) 0
    let bitValue := (word16.toNat >>> (15 - currentBit % 16)) &&& 1
    (result <<< 1) ||| bitValue) 0

/-- `check_crc(buffer) == 0`. -/
def checkCrc (buffer : List UInt16) : Bool :=
  let crcFpga := getBits buffer 88 8
  let crcCalc := (List.range 11).foldl (fun crc byteIdx => crc ^^^ getBits buffer (byteIdx * 8) 8) 0
  crcFpga == crcCalc

structure EventRecord where
  canale : Nat
  tempo16Bit : Nat
  coarseTime : Nat
  tdcTime : Nat
  tot : Nat
  tdcTriggerEnd : Nat
  energia : Nat
  deriving DecidableEq, Repr

/-- The fields of an event. -/
def decodeEvent (buffer : List UInt16) : EventRecord where
  canale := getBits buffer 3 5
  tempo16Bit := getBits buffer 8 16
  coarseTime :=
    (getBits buffer 24 8 <<< 20) ||| (getBits buffer 33 7 <<< 13) ||| getBits buffer 40 13
  tdcTime := getBits buffer 69 5
  tot := getBits buffer 53 6
  tdcTriggerEnd := getBits buffer 59 5
  energia := getBits buffer 74 14

/-- The pattern that is skipped. -/
def EventRecord.excluded (e : EventRecord) : Bool :=
  e.coarseTime == 0 && e.tempo16Bit == 0 && e.energia == 0

/-- The events of a payload. -/
def payloadEvents (payload : Bytes) : List Bytes :=
  (List.range (payload.length / eventSizeBytes)).map fun e =>
    (payload.drop (e * eventSizeBytes)).take eventSizeBytes

/-- `output_format`. -/
inductive OutputFormat
  | csv
  | bin
  deriving DecidableEq, Repr

/-- The low `n` bytes of a value, the lowest first. -/
def littleEndian (n value : Nat) : Bytes :=
  (List.range n).map fun i => UInt8.ofNat (value >>> (8 * i))

/-- `%u`. -/
def decimal (n : Nat) : List Char := Nat.toDigits 10 n

/-- The bytes of a text of ASCII characters. -/
def asciiBytes (text : List Char) : Bytes := text.map fun c => c.toNat.toUInt8

/-- `event_record_t`. -/
def EventRecord.binary (e : EventRecord) : Bytes :=
  littleEndian 1 e.canale ++ littleEndian 2 e.tempo16Bit ++ littleEndian 4 e.coarseTime ++
    littleEndian 1 e.tdcTime ++ littleEndian 1 e.tot ++ littleEndian 1 e.tdcTriggerEnd ++
    littleEndian 2 e.energia

/-- `"%u,%u,%u,%u,%u,%u,%u\n"`. -/
def EventRecord.csvLine (e : EventRecord) : List Char :=
  decimal e.canale ++ ',' :: decimal e.tempo16Bit ++ ',' :: decimal e.coarseTime ++
    ',' :: decimal e.tdcTime ++ ',' :: decimal e.tot ++ ',' :: decimal e.tdcTriggerEnd ++
    ',' :: decimal e.energia ++ ['\n']

def EventRecord.encode (e : EventRecord) : OutputFormat → Bytes
  | .bin => e.binary
  | .csv => asciiBytes e.csvLine

end MultiDAQ.Receiver
