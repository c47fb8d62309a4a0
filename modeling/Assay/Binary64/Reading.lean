import Assay.Binary64
import Assay.Text.Blank
import Assay.Text.Whole
import Assay.Text.Case

/-! # Reading doubles

The forms in which a double is read from text: an optional sign, then digits with an optional
point and exponent, or one of the words for infinity and not-a-number. Digits of any script are
accepted, single underscores may stand between digits, and blanks around the number are ignored.
-/

namespace Assay.Binary64

/-- Every character as the ASCII character it stands for in a number, where there is one. -/
def foldAscii (c : Char) : Char :=
  if c.toNat < 127 then c
  else if Text.isBlank c then ' '
  else match Text.decimalValue? c with
    | some d => Char.ofNat (48 + d)
    | none => '?'

def isAsciiBlank (c : Char) : Bool :=
  c == ' ' || (9 ≤ c.toNat && c.toNat ≤ 13)

/-- Remove underscores, each of which must stand between two digits. -/
def dropUnderscores (previous : Char) : List Char → Option (List Char)
  | [] => some []
  | '_' :: c :: cs =>
    if Text.isAsciiDigit previous && Text.isAsciiDigit c then
      (dropUnderscores c cs).map (c :: ·)
    else none
  | c :: cs => if c == '_' then none else (dropUnderscores c cs).map (c :: ·)

def splitSign : List Char → Bool × List Char
  | '-' :: cs => (true, cs)
  | '+' :: cs => (false, cs)
  | cs => (false, cs)

def asciiValue (cs : List Char) : Nat :=
  cs.foldl (fun n c => n * 10 + (c.toNat - 48)) 0

/-- The power of ten in an exponent part, which must be the whole rest. -/
def readExponent : List Char → Option Int
  | [] => some 0
  | c :: cs =>
    if c == 'e' || c == 'E' then
      let (s, ds) := splitSign cs
      if ds.isEmpty || !ds.all Text.isAsciiDigit then none
      else some (if s then -(asciiValue ds : Int) else asciiValue ds)
    else none

/-- Digits, an optional point with digits, an optional exponent. -/
def readDecimal (negative : Bool) (cs : List Char) : Option Binary64 :=
  let whole := cs.takeWhile Text.isAsciiDigit
  let afterWhole := cs.dropWhile Text.isAsciiDigit
  let (fraction, rest) := match afterWhole with
    | '.' :: r => (r.takeWhile Text.isAsciiDigit, r.dropWhile Text.isAsciiDigit)
    | r => ([], r)
  if whole.isEmpty && fraction.isEmpty then none
  else
    (readExponent rest).map fun x =>
      ofDecimal negative (asciiValue (whole ++ fraction)) (x - fraction.length)

def readPlain (cs : List Char) : Option Binary64 :=
  let (s, body) := splitSign cs
  let word := String.ofList (body.map Text.lowerChar)
  if word == "inf" || word == "infinity" then some (.infinite s)
  else if word == "nan" then some .nan
  else readDecimal s body

def readAscii (cs : List Char) : Option Binary64 :=
  let trimmed := ((cs.dropWhile isAsciiBlank).reverse.dropWhile isAsciiBlank).reverse
  (dropUnderscores ' ' trimmed).bind readPlain

def ofText? (s : String) : Option Binary64 :=
  let cs := s.toList
  readAscii (if cs.all (·.toNat < 128) then cs else cs.map foldAscii)

end Assay.Binary64
