/-!
# Text as Python sees it
-/

namespace MultiDAQ.Lib

/-- `str.isspace` of one character. -/
def pySpace (c : Char) : Bool :=
  let n := c.toNat
  (9 ≤ n && n ≤ 13) || (0x1c ≤ n && n ≤ 0x20) || n == 0x85 || n == 0xa0 || n == 0x1680 ||
    (0x2000 ≤ n && n ≤ 0x200a) || n == 0x2028 || n == 0x2029 || n == 0x202f || n == 0x205f ||
    n == 0x3000

/-- `str.rstrip` of the characters in `p`. -/
def rstripChars (p : Char → Bool) (s : List Char) : List Char :=
  (s.reverse.dropWhile p).reverse

/-- `str.strip` of the characters in `p`. -/
def stripChars (p : Char → Bool) (s : List Char) : List Char :=
  rstripChars p (s.dropWhile p)

/-- `str.strip()`. -/
def strip (s : String) : String :=
  String.ofList (stripChars pySpace s.toList)

/-- A list of integers as an f-string shows it. -/
def pyList (xs : List Int) : String :=
  "[" ++ ", ".intercalate (xs.map toString) ++ "]"

end MultiDAQ.Lib
