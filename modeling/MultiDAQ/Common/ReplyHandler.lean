import MultiDAQ.Common.Message
import MultiDAQ.Lib.Dict
import MultiDAQ.Lib.Run

/-!
# The replies that are waited for

`ReplyHandler` (`common/reply_handler.py`) and the threads that use it. A `PendingReply` is an object
that a thread goes on holding after it was removed from the dictionary, so the dictionary maps a
client and a request to the number of the object. A step of the system is what one thread does under
`_reply_waiter_lock`, or the end of the wait on an event. An action that is not enabled changes
nothing.
-/

namespace MultiDAQ.Common

open MultiDAQ.Lib

abbrev ReplyKey (Client : Type) := Client × String

structure PendingReply (Payload : Type) where
  event : Bool := false
  message : Option (ProtocolMessage Payload) := none
  error : Option String := none
  deriving DecidableEq, Repr

namespace PendingReply

variable {Payload : Type} (p : PendingReply Payload)

/-- What a wait returns whose event is set: `pending.message`, or `pending.error or "wait
cancelled"`. -/
def reply : Except String (ProtocolMessage Payload) :=
  match p.message with
  | some message => .ok message
  | none =>
    match p.error with
    | some error => .error (if error = "" then "wait cancelled" else error)
    | none => .error "wait cancelled"

def delivered (message : ProtocolMessage Payload) : PendingReply Payload :=
  { p with message := some message, event := true }

def cancelled (reason : String) : PendingReply Payload :=
  { p with error := some reason, event := true }

end PendingReply

/-- `registrations` holds every `PendingReply` that was made, with the key it was made for. -/
structure ReplyHandler (Client Payload : Type) where
  replyWaiters : Dict (ReplyKey Client) Nat := .empty
  registrations : List (ReplyKey Client × PendingReply Payload) := []

namespace ReplyHandler

variable {Client Payload : Type} [DecidableEq Client] (h : ReplyHandler Client Payload)

def registerPendingReply (clientId : Client) (requestId : String) :
    Bool × ReplyHandler Client Payload :=
  if h.replyWaiters.contains (clientId, requestId) then (false, h)
  else (true, {
    replyWaiters := h.replyWaiters.set (clientId, requestId) h.registrations.length
    registrations := h.registrations ++ [((clientId, requestId), {})] })

/-- The `n`-th `PendingReply` changes. -/
def update (n : Nat) (f : PendingReply Payload → PendingReply Payload) :
    ReplyHandler Client Payload :=
  { h with registrations := h.registrations.modify n fun r => (r.1, f r.2) }

/-- A message that answers no request has no waiter. -/
def waiterOf (clientId : Client) (message : ProtocolMessage Payload) : Option Nat :=
  message.inReplyTo.bind fun requestId => h.replyWaiters.get? (clientId, requestId)

def deliverPendingReply (clientId : Client) (message : ProtocolMessage Payload) :
    Bool × ReplyHandler Client Payload :=
  match h.waiterOf clientId message with
  | none => (false, h)
  | some n => (true, h.update n (·.delivered message))

/-- The pop at the end of `wait_pending_reply`. -/
def pop (key : ReplyKey Client) : ReplyHandler Client Payload :=
  { h with replyWaiters := h.replyWaiters.erase key }

/-- One round of the loop of `_cancel_locked`. -/
def cancelKey (key : ReplyKey Client) (reason : String) : ReplyHandler Client Payload :=
  match h.replyWaiters.get? key with
  | none => h
  | some n => (h.pop key).update n (·.cancelled reason)

/-- `_cancel_locked`. -/
def cancelLocked (keys : List (ReplyKey Client)) (reason : String) : ReplyHandler Client Payload :=
  keys.foldl (fun h key => h.cancelKey key reason) h

def cancelAll (reason : String) : ReplyHandler Client Payload :=
  h.cancelLocked h.replyWaiters.keys reason

def cancelClient (clientId : Client) (reason : String) : ReplyHandler Client Payload :=
  h.cancelLocked (h.replyWaiters.keys.filter fun key => key.1 = clientId) reason

end ReplyHandler

/-! ## The threads -/

/-- A call of `wait_pending_reply`. -/
structure Wait (Client Payload : Type) where
  clientId : Client
  requestId : String
  /-- The `PendingReply` that was found under the key. -/
  pending : Option Nat
  result : Option (Except String (ProtocolMessage Payload)) := none
  /-- The `finally` clause has run, or there was nothing to wait for. -/
  ended : Bool := false

namespace Wait

variable {Client Payload : Type}

def key (w : Wait Client Payload) : ReplyKey Client := (w.clientId, w.requestId)

/-- The begin of `wait_pending_reply`. -/
def start [DecidableEq Client] (h : ReplyHandler Client Payload) (clientId : Client)
    (requestId : String) : Wait Client Payload :=
  match h.replyWaiters.get? (clientId, requestId) with
  | some n => { clientId := clientId, requestId := requestId, pending := some n }
  | none => {
      clientId := clientId, requestId := requestId, pending := none
      result := some (.error "reply not found"), ended := true }

end Wait

/-- `arrived` holds the replies of the clients in the order in which they came in. -/
structure ReplySystem (Client Payload : Type) where
  handler : ReplyHandler Client Payload := {}
  waits : List (Wait Client Payload) := []
  arrived : List (Client × ProtocolMessage Payload) := []

inductive ReplyAction (Client Payload : Type)
  | register (clientId : Client) (requestId : String)
  | deliver (clientId : Client) (message : ProtocolMessage Payload)
  | cancelClient (clientId : Client) (reason : String)
  | cancelAll (reason : String)
  | beginWait (clientId : Client) (requestId : String)
  /-- `event.wait` of the wait with this number returns, because the event is set or because the
  time is over. -/
  | wake (i : Nat)
  | timeOut (i : Nat)
  | endWait (i : Nat)

namespace ReplySystem

variable {Client Payload : Type} [DecidableEq Client] (s : ReplySystem Client Payload)

/-- The `PendingReply` that a wait is on, if it has no result yet. -/
def waitingOn (w : Wait Client Payload) : Option (PendingReply Payload) :=
  if w.result.isSome then none
  else w.pending.bind fun n => (s.handler.registrations[n]?).map Prod.snd

/-- The wait with the number `i` gets its result, if the event is as `event` says. -/
def decide (i : Nat) (event : Bool)
    (result : PendingReply Payload → Except String (ProtocolMessage Payload)) :
    ReplySystem Client Payload :=
  match s.waits[i]? with
  | none => s
  | some w =>
    match s.waitingOn w with
    | none => s
    | some p =>
      if p.event = event then
        { s with waits := s.waits.set i { w with result := some (result p) } }
      else s

/-- The `finally` clause of the wait with the number `i`. -/
def endWait (i : Nat) : ReplySystem Client Payload :=
  match s.waits[i]? with
  | none => s
  | some w =>
    if w.result.isSome ∧ w.ended = false then
      { s with handler := s.handler.pop w.key, waits := s.waits.set i { w with ended := true } }
    else s

def step : ReplyAction Client Payload → ReplySystem Client Payload
  | .register clientId requestId =>
    { s with handler := (s.handler.registerPendingReply clientId requestId).2 }
  | .deliver clientId message =>
    { s with
      handler := (s.handler.deliverPendingReply clientId message).2
      arrived := s.arrived ++ [(clientId, message)] }
  | .cancelClient clientId reason => { s with handler := s.handler.cancelClient clientId reason }
  | .cancelAll reason => { s with handler := s.handler.cancelAll reason }
  | .beginWait clientId requestId =>
    { s with waits := s.waits ++ [.start s.handler clientId requestId] }
  | .wake i => s.decide i true (·.reply)
  | .timeOut i => s.decide i false fun _ => .error "timeout waiting for reply"
  | .endWait i => s.endWait i

end ReplySystem

end MultiDAQ.Common
