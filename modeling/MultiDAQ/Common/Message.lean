import Mathlib.Data.List.Basic

/-!
# Protocol messages

`ProtocolMessage` (`common/message_handler.py`), which server and clients exchange on every plane.
The payload is a parameter. The fields that no modelled function reads are left out.
-/

namespace MultiDAQ.Common

inductive MessageType
  | handshake
  | command
  | reply
  | event
  | sample
  | error
  deriving DecidableEq, Repr

structure ProtocolMessage (Payload : Type) where
  msgType : MessageType
  requestId : String
  payload : Payload
  phase : Option String := none
  inReplyTo : Option String := none
  deriving DecidableEq, Repr

end MultiDAQ.Common
