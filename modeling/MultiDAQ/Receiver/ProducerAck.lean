import MultiDAQ.Receiver.Event
import MultiDAQ.Receiver.Receive

/-!
# Commands for the producers

`publish_and_wait` (`server/acquisition/evreceiver.c`): a command is published for one producer, and
its acknowledgement is awaited. A message on the socket has at least one frame. Of a frame only the
C string is compared, up to its first NUL.
-/

namespace MultiDAQ.Receiver

/-- What one look at the socket finds. -/
inductive AckPoll
  | nothing
  | message (frames : List Bytes)
  /-- A frame of the message cannot be received. -/
  | recvFailed
  deriving DecidableEq, Repr

/-- One turn of the loop: whether the receiver is running when it begins, what the socket gives, and
the seconds of the clock when it ends. -/
structure AckTurn where
  keepRunning : Bool := true
  poll : AckPoll
  nowSec : Int
  deriving DecidableEq, Repr

inductive AckOutcome
  | success
  /-- The text that the caller answers with. -/
  | failure (error : Bytes)
  deriving DecidableEq, Repr

/-- The command that is published, and when; the texts are C strings. -/
structure ProducerCommand where
  source : Bytes
  requestId : Bytes
  command : Bytes
  startSec : Int
  source_noNul : 0 ∉ source
  requestId_noNul : 0 ∉ requestId
  command_noNul : 0 ∉ command
  deriving DecidableEq, Repr

def frameSize : Nat := 256

def ackOk : Bytes := asciiBytes ['O', 'K']

def errorText (text : String) : Bytes := asciiBytes text.toList

namespace ProducerCommand

variable (c : ProducerCommand)

/-- The message is read into the frames and compared; `none` for one that is skipped. -/
def readMessage : List Bytes → Option AckOutcome
  | [frame₀, frame₁, frame₂, frame₃, frame₄] =>
    if [frame₀, frame₁, frame₂, frame₃, frame₄].any (frameSize ≤ ·.length) ∨
        cString frame₀ ≠ c.source ∨ cString frame₁ ≠ c.requestId ∨ cString frame₂ ≠ c.command then
      none
    else if cString frame₃ = ackOk then some .success
    else some (.failure (errorText "ERROR: producer " ++ cString frame₄))
  | _ => none

/-- One turn of the loop; `none` if it goes on. -/
def turn (t : AckTurn) : Option AckOutcome :=
  if t.keepRunning then
    match t.poll with
    | .message frames => c.readMessage frames
    | .recvFailed => some (.failure (errorText "ERROR: could not read ACK"))
    | .nothing =>
      if 10 ≤ t.nowSec - c.startSec then
        some (.failure (errorText "ERROR: producer ACK timeout; result unknown"))
      else none
  else some (.failure (errorText "ERROR: receiver stopping"))

/-- `publish_and_wait`; `none` while it waits. -/
def publishAndWait (published : Bool) (turns : List AckTurn) : Option AckOutcome :=
  if published then turns.findSome? c.turn
  else some (.failure (errorText "ERROR: command publication failed"))

end ProducerCommand

end MultiDAQ.Receiver
