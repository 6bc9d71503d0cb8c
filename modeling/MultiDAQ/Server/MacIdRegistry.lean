import MultiDAQ.Lib.Dict
import MultiDAQ.Lib.Run

/-!
# The numeric ids of the detectors

`MacIdentityRegistry` (`server/core/mac_id_registry.py`), the files it keeps its table in, and the
starts of the server. A save may fail before the file is opened, which leaves the file as it was, or
while it is written, which leaves a file that cannot be read back. Files also change, vanish and
break from outside.
-/

namespace MultiDAQ.Server

open MultiDAQ.Lib

/-- What a file holds that `json.load` reads. Of an object, a value that is not an integer is `none`;
everything that is neither an object nor null is `other`. -/
inductive RegistryJson
  | object (entries : Dict String (Option Int))
  | other

/-- A file that is there is unreadable when it cannot be opened or parsed, or holds null. -/
inductive RegistryFile
  | missing
  | unreadable
  | json (content : RegistryJson)

/-- `CONFIG_FILES_POSSIBLE_PATHS`, in the order in which they are tried. -/
inductive RegistryPath
  | package
  | home
  | swgo
  deriving DecidableEq, Repr

abbrev RegistryFiles := RegistryPath → RegistryFile

def RegistryFile.isThere : RegistryFile → Bool
  | .missing => false
  | _ => true

def configFilesPossiblePaths : List RegistryPath := [.package, .home, .swgo]

structure MacIdentityRegistry where
  pathMacFile : Option RegistryPath := none
  presentClientMacId : Option RegistryJson := none
  macByNumericId : Dict Int String := .empty

/-- How the save of a new entry ends. -/
inductive SaveOutcome
  | saved
  | notOpened
  | notWritten
  deriving DecidableEq, Repr

/-- What a registration returns: an id, None, an exception, or a value that is not a number. -/
inductive Registration
  | id (numericId : Int)
  | failed
  | raised
  | notANumber
  deriving DecidableEq, Repr

namespace MacIdentityRegistry

/-- The comprehension of `_load_from_file`; it raises on a value that is not a number. -/
def numericIds (entries : Dict String (Option Int)) : Option (Dict Int String) :=
  entries.entries.foldlM (fun ids e =>
    if e.1 = "index" then some ids else e.2.map fun n => ids.set n e.1) .empty

/-- The first of the configured files that is there. -/
def firstThere (files : RegistryFiles) : Option RegistryPath :=
  configFilesPossiblePaths.find? fun path => (files path).isThere

/-- The file that `_load_from_file` opens. -/
def loadPath (r : MacIdentityRegistry) (files : RegistryFiles) : Option RegistryPath :=
  r.pathMacFile <|> firstThere files

/-- `_load_from_file`. The table is kept even if the comprehension raises. -/
def loadFromFile (r : MacIdentityRegistry) (files : RegistryFiles) : MacIdentityRegistry :=
  match r.loadPath files with
  | none => r
  | some path =>
    match files path with
    | .missing | .unreadable => r
    | .json .other => { r with presentClientMacId := some .other }
    | .json (.object entries) =>
      match numericIds entries with
      | none => { r with presentClientMacId := some (.object entries) }
      | some ids => {
          presentClientMacId := some (.object entries), macByNumericId := ids
          pathMacFile := some path }

/-- `if self.present_client_mac_id is None: self._load_from_file()`. -/
def loaded (r : MacIdentityRegistry) (files : RegistryFiles) : MacIdentityRegistry :=
  if r.presentClientMacId.isSome then r else r.loadFromFile files

/-- The file at `path` after a save of the table. -/
def save (files : RegistryFiles) (path : RegistryPath) (entries : Dict String (Option Int)) :
    SaveOutcome → RegistryFiles
  | .saved => Function.update files path (.json (.object entries))
  | .notOpened => files
  | .notWritten => Function.update files path .unreadable

/-- The part of `add_client_mac` for a MAC address that is not in the table: it goes into the table
and to the file. -/
def addNew (r : MacIdentityRegistry) (files : RegistryFiles) (entries : Dict String (Option Int))
    (clientMac : String) (newIdx : Int) (outcome : SaveOutcome) :
    Registration × MacIdentityRegistry × RegistryFiles :=
  let entries := (entries.set clientMac (some newIdx)).set "index" (some newIdx)
  let path := r.pathMacFile.getD .package
  let r := { r with
    presentClientMacId := some (.object entries)
    macByNumericId := r.macByNumericId.set newIdx clientMac }
  let files := save files path entries outcome
  match outcome with
  | .saved => (.id newIdx, { r with pathMacFile := some path }, files)
  | _ => (.failed, r, files)

/-- `add_client_mac`. -/
def addClientMac (r : MacIdentityRegistry) (files : RegistryFiles) (clientMac : String)
    (outcome : SaveOutcome) : Registration × MacIdentityRegistry × RegistryFiles :=
  let r := r.loaded files
  match r.presentClientMacId.getD (.object .empty) with
  | .other => (.raised, r, files)
  | .object entries =>
    let r := { r with presentClientMacId := some (.object entries) }
    match entries.get? clientMac with
    | some none => (.raised, r, files)
    | some (some numericId) =>
      (.id numericId, { r with macByNumericId := r.macByNumericId.set numericId clientMac }, files)
    | none =>
      match (entries.get? "index").getD (some (-1)) with
      | none => (.raised, r, files)
      | some actualIdx => r.addNew files entries clientMac (actualIdx + 1) outcome

/-- `get_id_from_mac`. -/
def getIdFromMac (r : MacIdentityRegistry) (files : RegistryFiles) (clientMac : String)
    (outcome : SaveOutcome) : Registration × MacIdentityRegistry × RegistryFiles :=
  let r := r.loaded files
  match r.presentClientMacId with
  | some (.object entries) =>
    match entries.get? clientMac with
    | some (some numericId) => (.id numericId, r, files)
    | some none => (.notANumber, r, files)
    | none => r.addClientMac files clientMac outcome
  | _ => r.addClientMac files clientMac outcome

/-- `get_mac_from_id`, for an id that is a number. -/
def getMacFromId (r : MacIdentityRegistry) (files : RegistryFiles) (clientNumericId : Int) :
    Option String × MacIdentityRegistry :=
  let r := r.loaded files
  (r.macByNumericId.get? clientNumericId, r)

end MacIdentityRegistry

/-! ## The registry over the starts of the server -/

/-- `given` holds the ids that were returned, with the MAC addresses they were returned for.
`unsaved` are the MAC addresses whose entry was made since the last save that succeeded, and
`halfWritten` says that a save broke off in the middle of the file and none has succeeded since. -/
structure RegistrySystem where
  registry : MacIdentityRegistry := {}
  files : RegistryFiles := fun _ => .missing
  given : List (String × Int) := []
  unsaved : List String := []
  halfWritten : Bool := false

inductive RegistryAction
  | addClientMac (clientMac : String) (outcome : SaveOutcome)
  | getIdFromMac (clientMac : String) (outcome : SaveOutcome)
  | getMacFromId (clientNumericId : Int)
  | restart
  /-- A file changes from outside. -/
  | fileChanged (path : RegistryPath) (content : RegistryFile)

namespace RegistrySystem

variable (s : RegistrySystem)

/-- What a registration returns and leaves; nothing for the other actions. -/
def registration : RegistryAction →
    Option (String × Registration × MacIdentityRegistry × RegistryFiles)
  | .addClientMac clientMac outcome =>
    some (clientMac, s.registry.addClientMac s.files clientMac outcome)
  | .getIdFromMac clientMac outcome =>
    some (clientMac, s.registry.getIdFromMac s.files clientMac outcome)
  | _ => none

/-- A registration makes a new entry, and so tries a save: the MAC address is not in the table. -/
def makesEntry (clientMac : String) : Bool :=
  match (s.registry.loaded s.files).presentClientMacId.getD (.object .empty) with
  | .other => false
  | .object entries =>
    (entries.get? clientMac).isNone && ((entries.get? "index").getD (some (-1))).isSome

/-- A registration has ended. -/
def registered (clientMac : String) (outcome : SaveOutcome)
    (result : Registration × MacIdentityRegistry × RegistryFiles) : RegistrySystem where
  registry := result.2.1
  files := result.2.2
  given := match result.1 with
    | .id numericId => s.given ++ [(clientMac, numericId)]
    | _ => s.given
  unsaved :=
    if s.makesEntry clientMac then
      if outcome = .saved then [] else s.unsaved ++ [clientMac]
    else s.unsaved
  halfWritten :=
    if s.makesEntry clientMac then
      match outcome with
      | .saved => false
      | .notOpened => s.halfWritten
      | .notWritten => true
    else s.halfWritten

def step : RegistryAction → RegistrySystem
  | .addClientMac clientMac outcome =>
    s.registered clientMac outcome (s.registry.addClientMac s.files clientMac outcome)
  | .getIdFromMac clientMac outcome =>
    s.registered clientMac outcome (s.registry.getIdFromMac s.files clientMac outcome)
  | .getMacFromId clientNumericId =>
    { s with registry := (s.registry.getMacFromId s.files clientNumericId).2 }
  | .restart => { s with registry := {}, unsaved := [], halfWritten := false }
  | .fileChanged path content => { s with files := Function.update s.files path content }

end RegistrySystem

end MultiDAQ.Server
