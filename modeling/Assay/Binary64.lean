/-! # Double precision numbers

A double is kept exactly: not a number, an infinity, or a sign, a mantissa and a power of two.
Rounding takes a quotient of natural numbers to the nearest double, ties to the even mantissa.
Doubles and integers are compared by exact value.
-/

namespace Assay

def twoTo (n : Nat) : Nat := Nat.pow 2 n

def tenTo (n : Nat) : Nat := Nat.pow 10 n

inductive Binary64
  | nan
  | infinite (negative : Bool)
  /-- The number `± mantissa * 2 ^ exponent`. -/
  | finite (negative : Bool) (mantissa : Nat) (exponent : Int)
deriving DecidableEq

namespace Binary64

/-- The least exponent of a double. -/
def minExponent : Int := -1074

def maxExponent : Int := 971

def zero (negative : Bool) : Binary64 := .finite negative 0 minExponent

def isZero : Binary64 → Bool
  | .finite _ m _ => m == 0
  | _ => false

def isNaN : Binary64 → Bool
  | .nan => true
  | _ => false

/-- The quotient to the nearest natural number, a tie to the even one. -/
def roundQuotient (num den : Nat) : Nat :=
  let q := num / den
  let r := num % den
  if 2 * r > den || (2 * r == den && q % 2 == 1) then q + 1 else q

/-- `num / den * 2 ^ (-e)` as a quotient. -/
def scaled (num den : Nat) (e : Int) : Nat × Nat :=
  if e < 0 then (num * twoTo e.natAbs, den) else (num, den * twoTo e.toNat)

/-- The exponent with which the mantissa of `num / den` has 53 bits. -/
def fullExponent (num den : Nat) : Int :=
  let e : Int := (num.log2 : Int) - den.log2 - 52
  let (n, d) := scaled num den e
  if n < d * twoTo 52 then e - 1 else e

/-- The double nearest to `num / den`. -/
def ofQuotient (negative : Bool) (num den : Nat) : Binary64 :=
  if num == 0 then zero negative
  else
    let e := max minExponent (fullExponent num den)
    let (n, d) := scaled num den e
    let m := roundQuotient n d
    let (m, e) := if m == twoTo 53 then (twoTo 52, e + 1) else (m, e)
    if e > maxExponent then .infinite negative else .finite negative m e

/-- The double nearest to an integer; `none` when the integer lies beyond all doubles. -/
def ofInt? (n : Int) : Option Binary64 :=
  match ofQuotient (decide (n < 0)) n.natAbs 1 with
  | .infinite _ => none
  | x => some x

/-- The double nearest to `digits * 10 ^ power`, which may be an infinity. -/
def ofDecimal (negative : Bool) (digits : Nat) (power : Int) : Binary64 :=
  let size : Int := (Nat.toDigits 10 digits).length
  if digits == 0 then zero negative
  else if power + size > 400 then .infinite negative
  else if power + size < -400 then zero negative
  else if power < 0 then ofQuotient negative digits (tenTo power.natAbs)
  else ofQuotient negative (digits * tenTo power.toNat) 1

end Binary64

/-- A place on the extended number line: `mantissa * 2 ^ exponent`, an infinity, or no place. -/
inductive Extent
  | nowhere
  | infinite (negative : Bool)
  | at (mantissa exponent : Int)

namespace Extent

def ofInt (n : Int) : Extent := .at n 0

def ofBinary64 : Binary64 → Extent
  | .nan => .nowhere
  | .infinite s => .infinite s
  | .finite s m e => .at (if s then -(m : Int) else m) e

/-- Both mantissas brought to the smaller of the two exponents. -/
def aligned (m e m' e' : Int) : Int × Int :=
  let low := min e e'
  (m * twoTo (e - low).toNat, m' * twoTo (e' - low).toNat)

def lt : Extent → Extent → Bool
  | .nowhere, _ | _, .nowhere => false
  | .infinite s, .infinite s' => s && !s'
  | .infinite s, .at _ _ => s
  | .at _ _, .infinite s' => !s'
  | .at m e, .at m' e' => let (a, b) := aligned m e m' e'; decide (a < b)

def eq : Extent → Extent → Bool
  | .infinite s, .infinite s' => s == s'
  | .at m e, .at m' e' => let (a, b) := aligned m e m' e'; a == b
  | _, _ => false

def le (x y : Extent) : Bool := x.lt y || x.eq y

end Extent

namespace Binary64

def lt (x y : Binary64) : Bool := (Extent.ofBinary64 x).lt (.ofBinary64 y)

def le (x y : Binary64) : Bool := (Extent.ofBinary64 x).le (.ofBinary64 y)

end Binary64

end Assay
