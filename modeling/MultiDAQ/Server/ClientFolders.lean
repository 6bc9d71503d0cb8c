import MultiDAQ.Lib.Utf8
import MultiDAQ.Server.State

/-!
# The folders of the clients

`_resolve_client_folder` (`server/services/monitor_persistence_service.py`): the samples of a client
are written into a folder that is named after its id. `isalnum` is `str.isalnum` of one character.
-/

namespace MultiDAQ.Server

open MultiDAQ.Lib

/-- A path by its components. -/
abbrev FolderPath := List (List Char)

/-- The components of a text. -/
def pathParts (text : List Char) : FolderPath :=
  (text.splitOn '/').filter fun part => part ≠ [] ∧ part ≠ ['.']

/-- `/` of a path and a text. -/
def joinPath (root : FolderPath) (text : List Char) : FolderPath :=
  if text.head? = some '/' then pathParts text else root ++ pathParts text

/-- `bytes.hex()`. -/
def bytesHex (bytes : ClientId) : List Char :=
  bytes.flatMap fun b => [Nat.digitChar (b.toNat / 16), Nat.digitChar (b.toNat % 16)]

/-- The id as a text, or its bytes in hexadecimal. -/
def clientText (clientId : ClientId) : List Char := (utf8Decode clientId).getD (bytesHex clientId)

section Sanitise

variable (isalnum : Char → Bool)

def isSafe (c : Char) : Bool := isalnum c || c = '-' || c = '_' || c = '.'

def safeIdentity (text : List Char) : List Char :=
  text.map fun c => if isSafe isalnum c then c else '_'

/-- `_resolve_client_folder`. `mkdir` says which folders can be made. -/
def resolveClientFolder (rootFolder : Option FolderPath) (mkdir : FolderPath → Bool)
    (clientId : ClientId) : Option FolderPath :=
  match rootFolder with
  | none => none
  | some rootFolder =>
    let name := safeIdentity isalnum (clientText clientId)
    if name = [] then none
    else
      let clientFolder := joinPath rootFolder name
      if mkdir clientFolder then some clientFolder else none

end Sanitise

end MultiDAQ.Server
