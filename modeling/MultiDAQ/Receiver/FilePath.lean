import MultiDAQ.Receiver.Event

/-!
# Output paths

The path of the file an acquisition opens, as `_build_file_path` of `receiver_service.py` makes it,
and the paths of the chunks that `rollover_file` goes on to. A path is a list of characters.
-/

namespace MultiDAQ.Receiver

abbrev Path := List Char

/-- The offset of the last occurrence of a character, as `strrchr` finds it. -/
def strrchr (c : Char) : Path → Option Nat
  | [] => none
  | x :: xs =>
    match strrchr c xs with
    | some i => some (i + 1)
    | none => if x = c then some 0 else none

/-- `%03d`. -/
def decimal3 (n : Nat) : List Char :=
  List.replicate (3 - (decimal n).length) '0' ++ decimal n

def chunkTag : Path := "_chunk".toList

/-- The length of `"_chunk000"`. -/
def chunkSuffixLen : Nat := 9

/-- The path of a chunk: the tag of the base path is replaced, or a tag is put before the extension,
or at the end. -/
def chunkPath (baseFilePath : Path) (chunkIndex : Nat) : Path :=
  match strrchr '.' baseFilePath with
  | some stemLen =>
    let ext := baseFilePath.drop stemLen
    let baseLen :=
      if chunkSuffixLen ≤ stemLen ∧
          (baseFilePath.drop (stemLen - chunkSuffixLen)).take chunkTag.length = chunkTag then
        stemLen - chunkSuffixLen
      else stemLen
    baseFilePath.take baseLen ++ chunkTag ++ decimal3 chunkIndex ++ ext
  | none => baseFilePath ++ chunkTag ++ decimal3 chunkIndex

/-- The extension that the service gives a file of a format. -/
def OutputFormat.ext : OutputFormat → Path
  | .csv => "csv".toList
  | .bin => "bin".toList

/-- `_build_file_path`: the file name without its extension. A name that exists gets a number. -/
def fileStem (runFolder timestamp suffix : Path) (number : Option Nat) : Path :=
  runFolder ++ "/daq_".toList ++ timestamp ++ (if suffix = [] then [] else '_' :: suffix) ++
    "_chunk000".toList ++
    match number with
    | none => []
    | some i => '_' :: decimal i

/-- The paths of `_build_file_path`. -/
def IsBuiltFilePath (path : Path) : Prop :=
  ∃ runFolder timestamp suffix number, ∃ format : OutputFormat,
    path = fileStem runFolder timestamp suffix number ++ '.' :: format.ext

/-! ## The acquisitions of a folder -/

/-- The first number from `i` on whose path does not exist. Of `files.length + 1` different paths
one does not, so that the search ends. -/
def probe (files : List Path) (path : Nat → Path) : Nat → Nat → Nat
  | 0, i => i
  | fuel + 1, i => if path i ∈ files then probe files path fuel (i + 1) else i

/-- The name of an output file. A timestamp is `%Y_%m_%d_%H_%M`; a suffix that has slashes is the one
that is left when the path has been normalized. -/
structure FileName where
  timestamp : Path
  suffix : Path
  number : Option Nat
  format : OutputFormat
  length_timestamp : timestamp.length = 16
  deriving DecidableEq

def FileName.stem (runFolder : Path) (name : FileName) : Path :=
  fileStem runFolder name.timestamp name.suffix name.number

def FileName.path (runFolder : Path) (name : FileName) : Path :=
  name.stem runFolder ++ '.' :: name.format.ext

/-- A call of `_build_file_path`: what exists when it is made, its arguments and the time. -/
structure FileRequest where
  files : List Path
  timestamp : Path
  suffix : Path
  format : OutputFormat
  length_timestamp : timestamp.length = 16
  deriving DecidableEq

def FileRequest.numbered (request : FileRequest) (number : Option Nat) : FileName :=
  ⟨request.timestamp, request.suffix, number, request.format, request.length_timestamp⟩

/-- `_build_file_path`. -/
def FileRequest.buildFilePath (runFolder : Path) (request : FileRequest) : FileName :=
  let path (number : Option Nat) := (request.numbered number).path runFolder
  if path none ∈ request.files then
    request.numbered (some (probe request.files (fun i => path (some i)) request.files.length 1))
  else request.numbered none

/-- `sizeof(path)` of an OPEN, and of the base path of a node. -/
def basePathSize : Nat := 256

/-- `sizeof(new_path)`. -/
def newPathSize : Nat := 512

/-- The path that `rollover_file` opens. -/
def rolloverPath (baseFilePath : Path) (chunkIndex : Nat) : Path :=
  (chunkPath (baseFilePath.take (basePathSize - 1)) chunkIndex).take (newPathSize - 1)

/-- An OPEN, which is refused when its path is too long. -/
def openFile (runFolder : Path) (opened : List FileName) (request : FileRequest) : List FileName :=
  let name := request.buildFilePath runFolder
  if (name.path runFolder).length < basePathSize then opened ++ [name] else opened

/-- The files of the acquisitions of a folder, one after the other. -/
def openFiles (runFolder : Path) (requests : List FileRequest) : List FileName :=
  requests.foldl (openFile runFolder) []

end MultiDAQ.Receiver
