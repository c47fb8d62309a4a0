import Assay.Text.Case

/-! # Matching without regard to case

Two characters match without regard to case when their lower cases are equal, or lie in one of the
classes of lower-case letters that share an upper case.
-/

namespace Assay.Pattern

/-- Which letters stand for each other when they differ in case only. -/
inductive Fold
  | exact
  | ascii
  | unicode
deriving DecidableEq

/-- Lower-case letters with a common upper case. -/
def foldClasses : List (List Nat) :=
  [[0x69, 0x131], [0x73, 0x17f], [0xb5, 0x3bc], [0x345, 0x3b9, 0x1fbe], [0x390, 0x1fd3],
   [0x3b0, 0x1fe3], [0x3b2, 0x3d0], [0x3b5, 0x3f5], [0x3b8, 0x3d1], [0x3ba, 0x3f0],
   [0x3c0, 0x3d6], [0x3c1, 0x3f1], [0x3c2, 0x3c3], [0x3c6, 0x3d5], [0x432, 0x1c80],
   [0x434, 0x1c81], [0x43e, 0x1c82], [0x441, 0x1c83], [0x442, 0x1c84, 0x1c85], [0x44a, 0x1c86],
   [0x463, 0x1c87], [0x1c88, 0xa64b], [0x1e61, 0x1e9b], [0xfb05, 0xfb06]]

/-- The lower-case letters that stand for the same letter as the lower-case letter `n`. -/
def lowerVariants (n : Nat) : List Nat :=
  (foldClasses.find? (·.contains n)).getD [n]

def lowerSources (n : Nat) : List Nat :=
  let moved := Text.lowerRuns.filterMap fun r =>
    let source := ((n : Int) - r.distance).toNat
    if r.has source && (source : Int) + r.distance == n then some source else none
  let dotted := if n == 0x69 then [0x130] else []
  let still := if Text.lowerCode n == n then [n] else []
  still ++ moved ++ dotted

def lowerAscii (n : Nat) : Nat := if 0x41 ≤ n && n ≤ 0x5a then n + 32 else n

def isAsciiLetter (n : Nat) : Bool := 0x61 ≤ lowerAscii n && lowerAscii n ≤ 0x7a

namespace Fold

def ofFlags (ignoreCase ascii : Bool) : Fold :=
  if !ignoreCase then exact else if ascii then .ascii else unicode

def lower : Fold → Nat → Nat
  | exact, n => n
  | ascii, n => lowerAscii n
  | unicode, n => Text.lowerCode n

def hasCase : Fold → Nat → Bool
  | exact, _ => false
  | ascii, n => isAsciiLetter n
  | unicode, n => Text.lowerCode n != n || Text.upperCode n != n

def movesWithin (first last : Nat) (r : Text.CaseRun) : Bool :=
  let start := max first r.first
  let next := start + (r.stride - (start - r.first) % r.stride) % r.stride
  next ≤ min last r.last

def hasCaseWithin (f : Fold) (first last : Nat) : Bool :=
  match f with
  | exact => false
  | ascii => max first 0x41 ≤ min last 0x5a || max first 0x61 ≤ min last 0x7a
  | unicode =>
    Text.lowerRuns.any (movesWithin first last) || Text.upperRuns.any (movesWithin first last) ||
      Text.upperExpansions.any (fun e => first ≤ e.1 && e.1 ≤ last) ||
      (first ≤ 0x130 && 0x130 ≤ last)

def sources (f : Fold) (n : Nat) : List Nat :=
  match f with
  | exact => [n]
  | ascii => if 0x61 ≤ n && n ≤ 0x7a then [n, n - 32] else [n]
  | unicode => (lowerVariants n).flatMap lowerSources

end Fold

end Assay.Pattern
