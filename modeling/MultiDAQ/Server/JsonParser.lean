import Mathlib.Data.Char
import Mathlib.Data.List.Lex
import Mathlib.Data.List.Sort

/-!
# The configuration files of the detectors

`server/utils/json_parser.py`: which file of the folder is the configuration of a detector. Of the
content of a file only the two entries of its detector matter here. `lower` is `str.lower`, and
nothing depends on what it does.
-/

namespace MultiDAQ.Server

/-! ## `fnmatch` -/

inductive GlobToken
  | star
  | any
  | lit (c : Char)
  | set (negated : Bool) (items : List Char)
  deriving DecidableEq, Repr

/-- The items of a set whose bracket was read, and the rest of the pattern; a bracket that comes
first is an item. -/
def closeSet : List Char → Option (Bool × List Char × List Char)
  | pattern =>
    let (negated, pattern) := match pattern with
      | '!' :: rest => (true, rest)
      | _ => (false, pattern)
    let (first, pattern) := match pattern with
      | ']' :: rest => ([']'], rest)
      | _ => ([], pattern)
    match pattern.dropWhile (· ≠ ']') with
    | [] => none
    | _ :: rest => some (negated, first ++ pattern.takeWhile (· ≠ ']'), rest)

/-- The tokens of a pattern of at most `fuel` characters. -/
def globTokens : Nat → List Char → List GlobToken
  | 0, _ => []
  | _, [] => []
  | fuel + 1, '*' :: pattern => .star :: globTokens fuel pattern
  | fuel + 1, '?' :: pattern => .any :: globTokens fuel pattern
  | fuel + 1, '[' :: pattern =>
    match closeSet pattern with
    | none => .lit '[' :: globTokens fuel pattern
    | some (negated, items, rest) => .set negated items :: globTokens fuel rest
  | fuel + 1, c :: pattern => .lit c :: globTokens fuel pattern

/-- A character or a range of characters. -/
def inSet (c : Char) : List Char → Bool
  | first :: '-' :: last :: items => (first ≤ c && c ≤ last) || inSet c items
  | item :: items => item = c || inSet c items
  | [] => false

def matchTokens : List GlobToken → List Char → Bool
  | [], name => name.isEmpty
  | .star :: tokens, name => name.tails.any (matchTokens tokens)
  | .any :: tokens, _ :: name => matchTokens tokens name
  | .lit c :: tokens, d :: name => c = d && matchTokens tokens name
  | .set negated items :: tokens, d :: name => (inSet d items != negated) && matchTokens tokens name
  | _ :: _, [] => false

def fnmatch (name pattern : List Char) : Bool :=
  matchTokens (globTokens pattern.length pattern) name

/-! ## Files -/

abbrev Text := List Char

/-- What `_load` gives: nothing, a value that is not a dictionary with a dictionary for its
detector, or the `str()` of the entries of the detector. -/
inductive ConfigContent
  | unreadable
  | malformed
  | detector (multipmtId batchId : Text)
  deriving DecidableEq, Repr

/-- A path below the folder, by its components. -/
structure ConfigFile where
  path : List Text
  content : ConfigContent
  deriving DecidableEq, Repr

/-- The order of the paths. -/
def ConfigFile.le (a b : ConfigFile) : Bool := decide (¬b.path < a.path)

/-- The components of a pattern; `rglob` raises for a component that contains `**`. -/
def globParts (pattern : List Char) : Option (List (List Char)) :=
  let parts := (pattern.splitOn '/').filter fun part => part ≠ [] ∧ part ≠ ['.']
  if parts.any fun part => part.tails.any (['*', '*'].isPrefixOf ·) then none else some parts

/-- The path ends with components that match those of the pattern. -/
def rglobMatches (parts : List (List Char)) (path : List (List Char)) : Bool :=
  parts.length ≤ path.length &&
    (List.zipWith fnmatch (path.drop (path.length - parts.length)) parts).all id

structure JsonParser where
  multipmtId : Text
  batchId : Text
  deriving DecidableEq, Repr

namespace JsonParser

variable (lower : Text → Text)

def normalizeBatchId (batchId : Text) : Text :=
  if "batch_".toList.isPrefixOf (lower batchId) then lower batchId
  else "batch_".toList ++ lower batchId

/-- `__init__`, for the `str()` of its arguments. -/
def init (multipmtId batchId : Text) : JsonParser where
  multipmtId := lower multipmtId
  batchId := normalizeBatchId lower batchId

def generic : Text := "generic".toList

def expectedFilename (p : JsonParser) : Text :=
  if p.multipmtId ≠ [] ∧ p.multipmtId ≠ generic then
    "*".toList ++ p.multipmtId ++ "*".toList ++ p.batchId ++ "*.json".toList
  else "*generic*calibration*".toList ++ p.batchId ++ "*.json".toList

/-- `_validate_detector_metadata`, for the entries of the detector. -/
def validateDetectorMetadata (p : JsonParser) (multipmtId batchId : Text) : Bool :=
  if normalizeBatchId lower batchId ≠ p.batchId then false
  else if p.multipmtId ≠ generic then
    let exactMatch := lower multipmtId = p.multipmtId
    let legacyMatch := p.multipmtId.isPrefixOf (lower multipmtId)
    exactMatch || legacyMatch
  else true

/-- The loop over the candidates. -/
def selectCandidate (p : JsonParser) : List ConfigFile → Except Unit (Option ConfigFile)
  | [] => .ok none
  | file :: files =>
    match file.content with
    | .unreadable => p.selectCandidate files
    | .malformed => .error ()
    | .detector multipmtId batchId =>
      if p.validateDetectorMetadata lower multipmtId batchId then .ok (some file)
      else p.selectCandidate files

/-- `_find_config_file_path`. -/
def findConfigFilePath (p : JsonParser) (folder : List ConfigFile) :
    Except Unit (Option ConfigFile) :=
  match globParts p.expectedFilename with
  | none => .error ()
  | some parts =>
    p.selectCandidate lower
      ((folder.filter fun file => rglobMatches parts file.path).insertionSort fun a b => a.le b)

end JsonParser

end MultiDAQ.Server
