import MultiDAQ.Lib.Delimited
import MultiDAQ.Lib.Dict
import MultiDAQ.Lib.Utf8

/-!
# JSON as Python's `json` writes and reads it

A Python text is a list of code points, and a surrogate is one of them. `dumps` is `json.dumps` with
the separators `","` and `":"` and without `ensure_ascii`; `loads` is `json.loads`. What is in a list
or a dictionary is one level deeper, and the interpreter can go down so many levels only. The floats
are a parameter.
-/

namespace MultiDAQ.Lib

/-! ## Texts -/

/-- A character of a Python text. -/
inductive PyChar
  | scalar (c : Char)
  | surrogate (n : Fin 2048)
  deriving DecidableEq, Repr

abbrev PyStr : Type := List PyChar

namespace PyStr

def ofChars (text : List Char) : PyStr := text.map .scalar

def ofString (text : String) : PyStr := ofChars text.toList

/-- The characters of a text without surrogates. -/
def chars? (text : PyStr) : Option (List Char) :=
  text.mapM fun
    | .scalar c => some c
    | .surrogate _ => none

/-- `str.encode("utf-8")`, which refuses surrogates. -/
def encode (text : PyStr) : Option (List UInt8) := text.chars?.map utf8Encode

end PyStr

/-! ## Values -/

/-- A float: a finite one, or one of the three that are not. -/
inductive PyFloat (F : Type)
  | finite (x : F)
  | nan
  | infinity
  | negInfinity
  deriving DecidableEq, Repr

inductive Json (F : Type)
  | null
  | bool (value : Bool)
  | int (value : Int)
  | float (value : PyFloat F)
  | str (text : PyStr)
  | list (items : List (Json F))
  | dict (entries : List (PyStr × Json F))

/-- The dictionaries in a value have no key twice. -/
inductive Json.WellFormed {F : Type} : Json F → Prop
  | null : WellFormed .null
  | bool (value : Bool) : WellFormed (.bool value)
  | int (value : Int) : WellFormed (.int value)
  | float (value : PyFloat F) : WellFormed (.float value)
  | str (text : PyStr) : WellFormed (.str text)
  | list {items : List (Json F)} (h : ∀ v ∈ items, WellFormed v) : WellFormed (.list items)
  | dict {entries : List (PyStr × Json F)} (hkeys : (entries.map Prod.fst).Nodup)
      (h : ∀ e ∈ entries, WellFormed e.2) : WellFormed (.dict entries)

/-- A value lies within so many levels of lists and dictionaries. -/
def Json.Within {F : Type} : Nat → Json F → Prop
  | 0, .list _ => False
  | 0, .dict _ => False
  | n + 1, .list items => ∀ v ∈ items, v.Within n
  | n + 1, .dict entries => ∀ e ∈ entries, e.2.Within n
  | _, _ => True

instance Json.decidableWithin {F : Type} : (n : Nat) → (v : Json F) → Decidable (v.Within n)
  | 0, .list _ => .isFalse id
  | 0, .dict _ => .isFalse id
  | n + 1, .list items =>
    have : ∀ v : Json F, Decidable (v.Within n) := decidableWithin n
    inferInstanceAs (Decidable (∀ v ∈ items, v.Within n))
  | n + 1, .dict entries =>
    have : ∀ v : Json F, Decidable (v.Within n) := decidableWithin n
    inferInstanceAs (Decidable (∀ e ∈ entries, e.2.Within n))
  | 0, .null => .isTrue trivial
  | 0, .bool _ => .isTrue trivial
  | 0, .int _ => .isTrue trivial
  | 0, .float _ => .isTrue trivial
  | 0, .str _ => .isTrue trivial
  | _ + 1, .null => .isTrue trivial
  | _ + 1, .bool _ => .isTrue trivial
  | _ + 1, .int _ => .isTrue trivial
  | _ + 1, .float _ => .isTrue trivial
  | _ + 1, .str _ => .isTrue trivial

/-! ## Literals of numbers -/

def Digits (t : List Char) : Prop := t ≠ [] ∧ ∀ c ∈ t, c.isDigit = true

/-- The part of a literal before the point: no zero leads it. -/
def IntegerPart (t : List Char) : Prop :=
  ∃ sign digits, (sign = [] ∨ sign = ['-']) ∧ Digits digits ∧
    (digits = ['0'] ∨ digits.head? ≠ some '0') ∧ t = sign ++ digits

def FractionPart (t : List Char) : Prop := t = [] ∨ ∃ digits, Digits digits ∧ t = '.' :: digits

def ExponentPart (t : List Char) : Prop :=
  t = [] ∨ ∃ e sign digits, (e = 'e' ∨ e = 'E') ∧ (sign = [] ∨ sign = ['+'] ∨ sign = ['-']) ∧
    Digits digits ∧ t = e :: (sign ++ digits)

/-- A literal of a float has a fraction or an exponent. -/
def FloatLiteral (t : List Char) : Prop :=
  ∃ i f e, IntegerPart i ∧ FractionPart f ∧ ExponentPart e ∧ (f ≠ [] ∨ e ≠ []) ∧ t = i ++ (f ++ e)

/-- Floats and their literals: `repr` writes a literal, and `float` reads it back. `whole` is the
integer that a float is equal to. -/
structure Floats (F : Type) where
  repr : F → List Char
  ofLiteral : List Char → PyFloat F
  whole : F → Option Int
  repr_literal : ∀ x, FloatLiteral (repr x)
  ofLiteral_repr : ∀ x, ofLiteral (repr x) = .finite x

/-- Python converts no text of more digits to an integer, and no integer to one. -/
def intMaxStrDigits : Nat := 4300

/-- The names of what is no string, number, list or dictionary, and of the floats that are not
finite. -/
def jsonConstants (F : Type) : List (List Char × Json F) :=
  [("null".toList, .null), ("true".toList, .bool true), ("false".toList, .bool false),
    ("NaN".toList, .float .nan), ("Infinity".toList, .float .infinity),
    ("-Infinity".toList, .float .negInfinity)]

variable {F : Type}

/-! ## Writing -/

def escapeChar (c : Char) : List Char :=
  if c = '"' then ['\\', '"']
  else if c = '\\' then ['\\', '\\']
  else if c = '\n' then ['\\', 'n']
  else if c = '\r' then ['\\', 'r']
  else if c = '\t' then ['\\', 't']
  else if c = '\x0c' then ['\\', 'f']
  else if c = '\x08' then ['\\', 'b']
  else if c.toNat < 0x20 then
    ['\\', 'u', '0', '0', (c.toNat / 16).digitChar, (c.toNat % 16).digitChar]
  else [c]

def PyChar.escape : PyChar → PyStr
  | .scalar c => .ofChars (escapeChar c)
  | .surrogate n => [.surrogate n]

def PyStr.quote (text : PyStr) : PyStr :=
  .scalar '"' :: (text.flatMap PyChar.escape ++ [.scalar '"'])

/-- `int.__repr__`. -/
def intRepr (n : Int) : Option (List Char) :=
  let digits := Nat.toDigits 10 n.natAbs
  if digits.length ≤ intMaxStrDigits then some (if n < 0 then '-' :: digits else digits) else none

def PyFloat.text (floats : Floats F) : PyFloat F → List Char
  | .finite x => floats.repr x
  | .nan => "NaN".toList
  | .infinity => "Infinity".toList
  | .negInfinity => "-Infinity".toList

/-- The parts of a list or a dictionary, in brackets and between commas. -/
def bracketed (opening closing : Char) (parts : List PyStr) : PyStr :=
  .scalar opening :: ([.scalar ','].intercalate parts ++ [.scalar closing])

/-- A value, given how the lists and the dictionaries are written. -/
def dumpValue (floats : Floats F) (list : List (Json F) → Option PyStr)
    (dict : List (PyStr × Json F) → Option PyStr) : Json F → Option PyStr
  | .null => some (.ofString "null")
  | .bool b => some (.ofString (if b then "true" else "false"))
  | .int n => (intRepr n).map .ofChars
  | .float x => some (.ofChars (x.text floats))
  | .str text => some text.quote
  | .list items => list items
  | .dict entries => dict entries

def dumpEntry (value : Json F → Option PyStr) (entry : PyStr × Json F) : Option PyStr :=
  (value entry.2).map fun text => entry.1.quote ++ .scalar ':' :: text

/-- `json.dumps`; it raises where a value is nested deeper than the interpreter can go. -/
def dumps (floats : Floats F) : (depth : Nat) → Json F → Option PyStr
  | 0 => dumpValue floats (fun _ => none) fun _ => none
  | depth + 1 => dumpValue floats
      (fun items => (items.mapM (dumps floats depth)).map (bracketed '[' ']'))
      fun entries => (entries.mapM (dumpEntry (dumps floats depth))).map (bracketed '{' '}')

/-! ## Reading -/

def jsonBlank (c : Char) : Bool := c = ' ' || c = '\t' || c = '\n' || c = '\r'

def hexValue (c : Char) : Option Nat :=
  if c.isDigit then some (c.toNat - '0'.toNat)
  else if 'a' ≤ c ∧ c ≤ 'f' then some (c.toNat - 'a'.toNat + 10)
  else if 'A' ≤ c ∧ c ≤ 'F' then some (c.toNat - 'A'.toNat + 10)
  else none

/-- The code point of a 16-bit unit. -/
def PyChar.ofUnit (n : Nat) : PyChar :=
  if 0xd800 ≤ n ∧ n < 0xe000 then .surrogate (Fin.ofNat 2048 (n - 0xd800)) else .scalar (Char.ofNat n)

def readHex : Reader PyChar
  | a :: b :: c :: d :: rest => do
    let a ← hexValue a
    let b ← hexValue b
    let c ← hexValue c
    let d ← hexValue d
    some (.ofUnit (((a * 16 + b) * 16 + c) * 16 + d), rest)
  | _ => none

/-- The characters that an escape of two characters may stand for. -/
def shortEscapes : List (Char × Char) :=
  [('"', '"'), ('\\', '\\'), ('/', '/'), ('b', '\x08'), ('f', '\x0c'), ('n', '\n'), ('r', '\r'),
    ('t', '\t')]

/-- One character between the quotes. -/
def readChar : Reader PyChar
  | [] => none
  | '\\' :: [] => none
  | '\\' :: e :: rest =>
    if e = 'u' then readHex rest else (shortEscapes.lookup e).map fun c => (.scalar c, rest)
  | c :: rest => if c.toNat < 0x20 then none else some (.scalar c, rest)

/-- The characters up to the closing quote. -/
def readChars : Nat → Reader PyStr
  | 0, _ => none
  | n + 1, s =>
    if s.head? = some '"' then some ([], s.tail)
    else do
      let (c, rest) ← readChar s
      let (text, rest) ← readChars n rest
      some (c :: text, rest)

/-- Two surrogates in a row, a high one and a low one, are one character. -/
def joinSurrogates : PyStr → PyStr
  | .surrogate m :: .surrogate n :: rest =>
    if m.val < 1024 ∧ 1024 ≤ n.val then
      .scalar (Char.ofNat (0x10000 + m.val * 1024 + (n.val - 1024))) :: joinSurrogates rest
    else .surrogate m :: joinSurrogates (.surrogate n :: rest)
  | c :: rest => c :: joinSurrogates rest
  | [] => []

/-- A string behind its opening quote. Every character takes one of the text at least. -/
def readString : Reader PyStr := fun s =>
  (readChars (s.length + 1) s).map fun r => (joinSurrogates r.1, r.2)

def digitsOf (s : List Char) : List Char × List Char :=
  (s.takeWhile Char.isDigit, s.dropWhile Char.isDigit)

def readDigits : Reader (List Char) := fun s =>
  if (digitsOf s).1 = [] then none else some (digitsOf s)

/-- `0`, or digits of which the first is not. -/
def readNatural : Reader (List Char)
  | '0' :: rest => some (['0'], rest)
  | s => readDigits s

def readIntegerPart : Reader (List Char)
  | '-' :: rest => (readNatural rest).map fun r => ('-' :: r.1, r.2)
  | s => readNatural s

def readFractionPart : List Char → List Char × List Char
  | '.' :: rest =>
    match readDigits rest with
    | some (digits, rest) => ('.' :: digits, rest)
    | none => ([], '.' :: rest)
  | s => ([], s)

def readSign : List Char → List Char × List Char
  | '+' :: rest => (['+'], rest)
  | '-' :: rest => (['-'], rest)
  | s => ([], s)

def readExponentPart : List Char → List Char × List Char
  | [] => ([], [])
  | e :: rest =>
    if e = 'e' ∨ e = 'E' then
      match readDigits (readSign rest).2 with
      | some (digits, rest') => (e :: ((readSign rest).1 ++ digits), rest')
      | none => ([], e :: rest)
    else ([], e :: rest)

/-- `int` of a literal. -/
def intOfLiteral (t : List Char) : Option Int :=
  let digits := t.dropWhile (· = '-')
  if digits.length ≤ intMaxStrDigits then
    some (if t.head? = some '-' then -(Nat.ofDigitChars 10 digits 0 : Int)
      else Nat.ofDigitChars 10 digits 0)
  else none

def readNumber (floats : Floats F) : Reader (Json F) := fun s => do
  let (i, s₁) ← readIntegerPart s
  let (f, s₂) := readFractionPart s₁
  let (e, s₃) := readExponentPart s₂
  if f = [] ∧ e = [] then (intOfLiteral i).map fun n => (.int n, s₃)
  else some (.float (floats.ofLiteral (i ++ (f ++ e))), s₃)

def readConstant : Reader (Json F) := fun s =>
  (jsonConstants F).findSome? fun e => (e.1.isPrefixOf? s).map fun rest => (e.2, rest)

/-- A key that is there twice stays where it was first, with the value that it has last. -/
def lastValues {κ υ : Type} [DecidableEq κ] (entries : List (κ × υ)) : Dict κ υ :=
  entries.foldl (fun d e => d.set e.1 e.2) .empty

/-- A value, given how the rest of a list and of a dictionary is read. -/
def readValue (floats : Floats F) (list : Reader (List (Json F)))
    (dict : Reader (List (PyStr × Json F))) : Reader (Json F)
  | [] => none
  | c :: rest =>
    if c = '"' then (readString rest).map fun r => (.str r.1, r.2)
    else if c = '[' then (list rest).map fun r => (.list r.1, r.2)
    else if c = '{' then (dict rest).map fun r => (.dict (lastValues r.1).entries, r.2)
    else (readConstant (c :: rest)).or (readNumber floats (c :: rest))

def readEntry (value : Reader (Json F)) : Reader (PyStr × Json F)
  | '"' :: rest => do
    let (key, rest) ← readString rest
    match rest.dropWhile jsonBlank with
    | ':' :: rest => (value (rest.dropWhile jsonBlank)).map fun r => ((key, r.1), r.2)
    | _ => none
  | _ => none

def readAt (floats : Floats F) : (depth : Nat) → Reader (Json F)
  | 0 => readValue floats (fun _ => none) fun _ => none
  | depth + 1 => readValue floats (readList jsonBlank (readAt floats depth) ']')
      (readList jsonBlank (readEntry (readAt floats depth)) '}')

/-- `json.loads`; it raises where the text is no JSON, or nested deeper than the interpreter can
go. -/
def loads (floats : Floats F) (depth : Nat) (s : List Char) : Option (Json F) := do
  let (v, rest) ← readAt floats depth (s.dropWhile jsonBlank)
  if rest.all jsonBlank then some v else none

end MultiDAQ.Lib
