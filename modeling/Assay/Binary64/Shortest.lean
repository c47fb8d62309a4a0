import Assay.Binary64

/-! # Shortest decimal text

A double is written with the fewest digits that read back as the same double; of several such
decimals the nearest is taken. The digits stand positionally while the point falls within sixteen
places to the right of the first digit or three zeros before it, and with an exponent otherwise.
-/

namespace Assay.Binary64

/-- The power of ten above a double: the `p` with `10 ^ (p - 1) ≤ m * 2 ^ e < 10 ^ p`. -/
def decimalPlace (m : Nat) (e : Int) : Int :=
  let below (p : Int) : Bool :=
    m * twoTo e.toNat * tenTo (-p).toNat < tenTo p.toNat * twoTo (-e).toNat
  let guess := ((m.log2 + e) * 30103) / 100000
  if below guess then guess else if below (guess + 1) then guess + 1 else guess + 2

/-- Whether `c * 10 ^ t` rounds to `m * 2 ^ e`. The ends of the interval belong to an even
mantissa, and the interval reaches half as far down from a power of two. -/
def readsBack (m : Nat) (e : Int) (c : Nat) (t : Int) : Bool :=
  let left := c * tenTo t.toNat * twoTo (2 - e).toNat
  let scale := twoTo (e - 2).toNat * tenTo (-t).toNat
  let low := (4 * m - (if m == twoTo 52 && e > minExponent then 1 else 2)) * scale
  let high := (4 * m + 2) * scale
  if m % 2 == 0 then low ≤ left && left ≤ high else low < left && left < high

/-- The better of the two neighbours of `m * 2 ^ e` on the grid `10 ^ t` that read back. -/
def onGrid? (m : Nat) (e t : Int) : Option Nat :=
  let num := m * twoTo e.toNat * tenTo (-t).toNat
  let den := twoTo (-e).toNat * tenTo t.toNat
  let below := num / den
  let nearer := roundQuotient num den
  let other := if nearer == below then below + 1 else below
  if readsBack m e nearer t then some nearer
  else if readsBack m e other t then some other
  else none

/-- The first grid with a hit, starting at `n` digits: the digits and their power of ten. -/
def shortestFrom (m : Nat) (e p : Int) : (tries n : Nat) → Nat × Int
  | 0, _ => (0, 0)
  | tries + 1, n =>
    match onGrid? m e (p - n) with
    | some c => (c, p - n)
    | none => shortestFrom m e p tries (n + 1)

/-- The digits of the shortest decimal, and the place of the point: `0.d₁d₂… * 10 ^ place`. -/
def shortestDigits (m : Nat) (e : Int) : List Char × Int :=
  let (c, t) := shortestFrom m e (decimalPlace m e) 17 1
  let ds := Nat.toDigits 10 c
  ((ds.reverse.dropWhile (· == '0')).reverse, t + ds.length)

def exponentText (x : Int) : List Char :=
  let ds := Nat.toDigits 10 x.natAbs
  'e' :: (if x < 0 then '-' else '+') :: (List.replicate (2 - ds.length) '0' ++ ds)

/-- Lay out digits whose point stands `place` digits after the first one begins. -/
def layOut (ds : List Char) (place : Int) : List Char :=
  if -4 < place && place ≤ 16 then
    if place ≤ 0 then ['0', '.'] ++ List.replicate place.natAbs '0' ++ ds
    else
      let n := place.toNat
      let whole := ds.take n ++ List.replicate (n - ds.length) '0'
      let rest := ds.drop n
      whole ++ '.' :: (if rest.isEmpty then ['0'] else rest)
  else
    let point := match ds with
      | [] => []
      | [d] => [d]
      | d :: rest => d :: '.' :: rest
    point ++ exponentText (place - 1)

def sign (negative : Bool) (cs : List Char) : String :=
  .ofList (if negative then '-' :: cs else cs)

def toText : Binary64 → String
  | .nan => "nan"
  | .infinite s => sign s "inf".toList
  | .finite s m e =>
    if m == 0 then sign s "0.0".toList
    else
      let (ds, place) := shortestDigits m e
      sign s (layOut ds place)

/-- The text of the number as a part of a complex one: a whole number drops its `.0`. -/
def partText (x : Binary64) : String :=
  let t := x.toText
  if t.endsWith ".0" then .ofList (t.toList.take (t.length - 2)) else t

end Assay.Binary64
