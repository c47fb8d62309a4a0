import Assay.Text.Blank
import Assay.Text.Digit

/-! # Whole numbers in text

Decimal digits of any script read as a natural number. A number of more than `digitLimit` digits
is not read.
-/

namespace Assay.Text

def digitLimit : Nat := 4300

/-- The value of the digits `cs` after `acc` has been read. -/
def digitsValue (acc : Nat) : List Char → Option Nat
  | [] => some acc
  | c :: cs =>
    match decimalValue? c with
    | some d => digitsValue (acc * 10 + d) cs
    | none => none

def isAsciiDigit (c : Char) : Bool := '0' ≤ c && c ≤ '9'

def hexValue? (c : Char) : Option Nat :=
  if '0' ≤ c && c ≤ '9' then some (c.toNat - 48)
  else if 'a' ≤ c && c ≤ 'f' then some (c.toNat - 87)
  else if 'A' ≤ c && c ≤ 'F' then some (c.toNat - 55)
  else none

/-- The digits `cs` read in `base`, each by `digit?`. -/
def baseValue (digit? : Char → Option Nat) (base acc : Nat) : List Char → Option Nat
  | [] => some acc
  | c :: cs =>
    match digit? c with
    | some d => baseValue digit? base (acc * base + d) cs
    | none => none

/-- The digits of a number in which single underscores may stand between digits. -/
def groupedDigits? : List Char → Option (List Char)
  | [c] => if isDecimal c then some [c] else none
  | c :: '_' :: cs => if isDecimal c then (groupedDigits? cs).map (c :: ·) else none
  | c :: cs => if isDecimal c then (groupedDigits? cs).map (c :: ·) else none
  | [] => none

/-- The whole number that a text stands for, with blanks around it and a sign in front allowed. -/
def integer? (cs : List Char) : Option Int :=
  let body := trimBlank cs
  let (negative, digits) := match body with
    | '-' :: ds => (true, ds)
    | '+' :: ds => (false, ds)
    | ds => (false, ds)
  match groupedDigits? digits with
  | none => none
  | some ds =>
    if ds.length > digitLimit then none
    else (digitsValue 0 ds).map fun n => if negative then -(n : Int) else n

end Assay.Text
