import MultiDAQ.Common.Message
import MultiDAQ.Lib.JsonDumps

/-!
# The message codec

`ProtocolMessage` and `MessageHandler` (`common/message_handler.py`): how a message becomes the
bytes that are sent, and what the receiver makes of bytes. The dataclass takes any value for a field,
and the two validators look at them; here a field is a value that JSON can say, of any type. What
`json.dumps` changes or refuses is left out: a dictionary with keys that are no texts, which it writes
as texts, and values such as bytes or sets. Where Python shows a value in the reason of a rejection,
the reason keeps the value.
-/

namespace MultiDAQ.Common.MessageHandler

open MultiDAQ.Lib

variable {F : Type}

/-! ## Values and dictionaries -/

/-- A value of Python that JSON can say. -/
abbrev Value (F : Type) : Type := { v : Json F // v.WellFormed }

/-- A dictionary whose keys are texts. -/
abbrev Data (F : Type) : Type := Dict PyStr (Value F)

namespace Value

def null : Value F := ⟨.null, .null⟩

def str (text : String) : Value F := ⟨.str (.ofString text), .str _⟩

def ofData (data : Data F) : Value F where
  val := .dict (data.entries.map fun e => (e.1, e.2.val))
  property := .dict (by simpa [List.map_map, Function.comp_def] using data.nodup)
    (List.forall_mem_map.2 fun e _ => e.2.property)

theorem wellFormed_dict {entries : List (PyStr × Json F)} (h : (Json.dict entries).WellFormed) :
    (entries.map Prod.fst).Nodup ∧ ∀ e ∈ entries, e.2.WellFormed := by
  cases h with
  | dict hkeys h => exact ⟨hkeys, h⟩

def toData? : Value F → Option (Data F)
  | ⟨.dict entries, h⟩ => some {
      entries := entries.pmap (fun e he => (e.1, ⟨e.2, he⟩)) (wellFormed_dict h).2
      nodup := by
        rw [List.map_pmap, List.pmap_eq_map]
        exact (wellFormed_dict h).1 }
  | _ => none

def isNull (v : Value F) : Bool :=
  match v.val with
  | .null => true
  | _ => false

def isStr (v : Value F) : Bool :=
  match v.val with
  | .str _ => true
  | _ => false

/-- `isinstance(value, int)`; a Boolean is one. -/
def isInt (v : Value F) : Bool :=
  match v.val with
  | .int _ | .bool _ => true
  | _ => false

/-- `isinstance(value, (int, float))`. -/
def isNumeric (v : Value F) : Bool :=
  match v.val with
  | .int _ | .bool _ | .float _ => true
  | _ => false

def isDict (v : Value F) : Bool :=
  match v.val with
  | .dict _ => true
  | _ => false

/-- `value == n`. -/
def equals (floats : Floats F) (v : Value F) (n : Int) : Bool :=
  match v.val with
  | .int k => k = n
  | .bool b => (if b then 1 else 0) = n
  | .float (.finite x) => floats.whole x = some n
  | _ => false

/-- `bool(value)`. -/
def truthy (floats : Floats F) (v : Value F) : Bool :=
  match v.val with
  | .null => false
  | .str text => text ≠ []
  | .list items => !items.isEmpty
  | .dict entries => !entries.isEmpty
  | _ => !v.equals floats 0

end Value

/-! ## Messages -/

inductive Channel
  | system
  | rc
  | hv
  | main
  | monitoring
  | acquisition
  deriving DecidableEq, Repr

inductive MessageStatus
  | ok
  | error
  | accepted
  | rejected
  | busy
  deriving DecidableEq, Repr

def messageTypes : List (MessageType × String) :=
  [(.handshake, "handshake"), (.command, "command"), (.reply, "reply"), (.event, "event"),
    (.sample, "sample"), (.error, "error")]

def channels : List (Channel × String) :=
  [(.system, "system"), (.rc, "rc"), (.hv, "hv"), (.main, "main"), (.monitoring, "monitoring"),
    (.acquisition, "acquisition")]

def messageStatuses : List (MessageStatus × String) :=
  [(.ok, "ok"), (.error, "error"), (.accepted, "accepted"), (.rejected, "rejected"),
    (.busy, "busy")]

/-- `E(value)` of an enumeration; it raises where no member has the value. -/
def memberOf {E : Type} (members : List (E × String)) (v : Value F) : Option E :=
  match v.val with
  | .str text => (members.find? fun e => PyStr.ofString e.2 = text).map Prod.fst
  | _ => none

/-- `member.value`. -/
def valueOf {E : Type} [DecidableEq E] (members : List (E × String)) (member : E) : Value F :=
  .str ((members.lookup member).getD "")

def protocolVersion : Int := 1

structure ProtocolMessage (F : Type) where
  protocolVersion : Value F
  msgType : MessageType
  requestId : Value F
  timestamp : Value F
  payload : Value F := .ofData .empty
  channel : Option Channel := none
  command : Value F := .null
  phase : Value F := .null
  inReplyTo : Value F := .null
  sender : Value F := .null
  status : Option MessageStatus := none
  priority : Value F := .null

/-- The interpreter: its floats, and how many levels deep it can copy, write and read a value. -/
structure Interpreter (F : Type) where
  floats : Floats F
  copyDepth : Nat
  dumpDepth : Nat
  loadDepth : Nat

/-- `data.get(key)`. -/
def get (data : Data F) (key : String) : Value F := (data.get? (.ofString key)).getD .null

namespace ProtocolMessage

/-- The fields in the order of the dataclass, with the values of the enumerations. -/
def fields (m : ProtocolMessage F) : List (String × Value F) :=
  [("protocol_version", m.protocolVersion), ("msg_type", valueOf messageTypes m.msgType),
    ("request_id", m.requestId), ("timestamp", m.timestamp), ("payload", m.payload),
    ("channel", m.channel.elim .null (valueOf channels)), ("command", m.command),
    ("phase", m.phase), ("in_reply_to", m.inReplyTo), ("sender", m.sender),
    ("status", m.status.elim .null (valueOf messageStatuses)), ("priority", m.priority)]

/-- The dictionary of the fields. -/
def data (m : ProtocolMessage F) : Data F :=
  lastValues (m.fields.map fun e => (PyStr.ofString e.1, e.2))

/-- `to_dict`; `asdict` copies every field, and raises where one is nested too deep for that. -/
def toDict (i : Interpreter F) (m : ProtocolMessage F) : Option (Data F) :=
  if ∀ e ∈ m.fields, e.2.val.Within i.copyDepth then some m.data else none

/-- `E(data[key]) if data.get(key) is not None else None`. -/
def optionalMember {E : Type} (members : List (E × String)) (v : Value F) : Option (Option E) :=
  if v.isNull then some none else (memberOf members v).map some

/-- `from_dict`; it raises where a required field is missing or a value is not of its
enumeration. -/
def fromDict (data : Data F) : Option (ProtocolMessage F) := do
  let protocolVersion ← data.get? (.ofString "protocol_version")
  let msgType ← (data.get? (.ofString "msg_type")).bind (memberOf messageTypes)
  let requestId ← data.get? (.ofString "request_id")
  let timestamp ← data.get? (.ofString "timestamp")
  let channel ← optionalMember channels (get data "channel")
  let status ← optionalMember messageStatuses (get data "status")
  some {
    protocolVersion, msgType, requestId, timestamp, channel, status
    payload := (data.get? (.ofString "payload")).getD (.ofData .empty)
    command := get data "command"
    phase := get data "phase"
    inReplyTo := get data "in_reply_to"
    sender := get data "sender"
    priority := get data "priority" }

end ProtocolMessage

/-! ## Validation -/

/-- Why a message is rejected: a text, a text with the value that it ends with, or the text of an
exception that was caught. `escaped` stands for an exception that is not caught. -/
inductive Reason (F : Type)
  | text (text : String)
  | shows (text : String) (value : Value F)
  | caught
  | escaped

/-- The required fields, sorted. -/
def requiredFields : List String :=
  ["msg_type", "payload", "protocol_version", "request_id", "timestamp"]

/-- A check that a validator goes on after. -/
def require (condition : Bool) (reason : Reason F) : Except (Reason F) Unit :=
  if condition then .ok () else .error reason

/-- A list of texts as an f-string shows it. -/
def showTexts (texts : List String) : String :=
  "[" ++ ", ".intercalate (texts.map fun t => "'" ++ t ++ "'") ++ "]"

/-- The field is left out, `None`, or as it should be. -/
def optionalField (data : Data F) (key : String) (check : Value F → Bool) : Bool :=
  (get data key).isNull || check (get data key)

def validateRawDict (i : Interpreter F) (data : Data F) : Except (Reason F) Unit := do
  let missing := requiredFields.filter fun key => !data.contains (.ofString key)
  require missing.isEmpty (.text ("Missing required fields: " ++ showTexts missing))
  require ((get data "protocol_version").equals i.floats protocolVersion)
    (.shows "Unsupported protocol version: " (get data "protocol_version"))
  require (get data "request_id").isStr (.text "request_id must be a string")
  require (get data "timestamp").isNumeric (.text "timestamp must be numeric")
  require (get data "payload").isDict (.text "payload must be a dictionary")
  require (memberOf messageTypes (get data "msg_type")).isSome
    (.shows "Invalid msg_type: " (get data "msg_type"))
  require (optionalField data "channel" fun v => (memberOf channels v).isSome)
    (.shows "Invalid channel: " (get data "channel"))
  require (optionalField data "status" fun v => (memberOf messageStatuses v).isSome)
    (.shows "Invalid status: " (get data "status"))
  require (optionalField data "command" Value.isStr) (.text "command must be a string")
  require (optionalField data "phase" Value.isStr) (.text "phase must be a string")
  require (optionalField data "in_reply_to" Value.isStr) (.text "in_reply_to must be a string")
  require (optionalField data "sender" Value.isStr) (.text "sender must be a string")
  require (optionalField data "priority" Value.isInt) (.text "priority must be an integer")

def validateSemantics (i : Interpreter F) (data : Data F) : Except (Reason F) Unit :=
  match data.get? (.ofString "msg_type") with
  | none => .error .escaped
  | some v =>
    match memberOf messageTypes v with
    | none => .error (.text "Invalid msg_type")
    | some .handshake =>
      require ((get data "phase").truthy i.floats) (.text "Handshake message requires 'phase'")
    | some .command => do
      require ((get data "command").truthy i.floats) (.text "Command message requires 'command'")
      require (!(get data "channel").isNull) (.text "Command message requires 'channel'")
    | some .reply =>
      require ((get data "in_reply_to").truthy i.floats)
        (.text "Reply message requires 'in_reply_to'")
    | some .error =>
      require ((get data "in_reply_to").truthy i.floats)
        (.text "Error message should reference 'in_reply_to'")
    | some .event => .ok ()
    | some .sample => .ok ()

/-! ## Encoding and decoding -/

/-- `encode` of a dictionary; any exception makes it return no bytes. -/
def encode (i : Interpreter F) (data : Data F) : List UInt8 :=
  ((dumps i.floats i.dumpDepth (Value.ofData data).val).bind PyStr.encode).getD []

theorem wellFormed_loads {i : Interpreter F} {s : List Char} {v : Json F}
    (h : loads i.floats i.loadDepth s = some v) : v.WellFormed := by
  obtain ⟨u, t, w, -, ht, -⟩ := loads_eq_some.1 h
  exact ht.wellFormed

/-- `json.loads(message_bytes.decode("utf-8"))`. -/
def loadBytes (i : Interpreter F) (bytes : List UInt8) : Option (Value F) :=
  (utf8Decode bytes).bind fun text =>
    match h : loads i.floats i.loadDepth text with
    | none => none
    | some v => some ⟨v, wellFormed_loads h⟩

/-- `decode`; any exception makes it return an empty dictionary, as does what is no dictionary. -/
def decode (i : Interpreter F) (bytes : List UInt8) : Data F :=
  ((loadBytes i bytes).bind Value.toData?).getD .empty

def deserialize (i : Interpreter F) (bytes : List UInt8) :
    Except (Reason F) (ProtocolMessage F) := do
  let raw := decode i bytes
  require (!raw.entries.isEmpty) (.text "Empty or invalid decoded message")
  validateRawDict i raw
  validateSemantics i raw
  match ProtocolMessage.fromDict raw with
  | some m => .ok m
  | none => .error .caught

def validateMessageObject (i : Interpreter F) (m : ProtocolMessage F) : Except (Reason F) Unit :=
  match m.toDict i with
  | none => .error .caught
  | some data => do
    validateRawDict i data
    validateSemantics i data

/-- `serialize`; an invalid message gives no bytes. -/
def serialize (i : Interpreter F) (m : ProtocolMessage F) : List UInt8 :=
  match validateMessageObject i m with
  | .error _ => []
  | .ok () => ((m.toDict i).map (encode i)).getD []

end MultiDAQ.Common.MessageHandler
