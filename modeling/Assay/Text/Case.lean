import Assay.Text.Case.Table

/-! # Letter case

Lower and upper case of whole texts. Two characters need more than their own mapping: the dotted
capital I, which becomes two characters, and the capital sigma, whose lower case depends on its
neighbours.
-/

namespace Assay.Text

def moveCode (runs : List CaseRun) (n : Nat) : Nat :=
  match runs.find? (·.has n) with
  | some r => (n + r.distance).toNat
  | none => n

def lowerCode (n : Nat) : Nat := if n == 0x130 then 0x69 else moveCode lowerRuns n

def upperCode (n : Nat) : Nat :=
  match upperExpansions.lookup n with
  | some (m :: _) => m
  | _ => moveCode upperRuns n

def lowerChar (c : Char) : Char := Char.ofNat (lowerCode c.toNat)

/-- The next character that is not ignored has case. -/
def meetsCased (cs : List Char) : Bool :=
  match cs.dropWhile caseIgnorableRanges.has with
  | [] => false
  | c :: _ => casedRanges.has c

/-- A sigma is final after a letter with case and not before one. -/
def isFinalSigma (before after : List Char) : Bool :=
  meetsCased before && !meetsCased after

/-- Lower case of a character between others, of which those before it stand nearest first. -/
def lowerBetween (before : List Char) (c : Char) (after : List Char) : List Char :=
  if c.toNat == 0x130 then ['i', Char.ofNat 0x307]
  else if c.toNat == 0x3a3 then
    [Char.ofNat (if isFinalSigma before after then 0x3c2 else 0x3c3)]
  else [lowerChar c]

def lowerChars : (before cs : List Char) → List Char
  | _, [] => []
  | before, c :: cs => lowerBetween before c cs ++ lowerChars (c :: before) cs

def lower (s : String) : String :=
  .ofList (lowerChars [] s.toList)

def upperChars (cs : List Char) : List Char :=
  cs.flatMap fun c =>
    match upperExpansions.lookup c.toNat with
    | some ns => ns.map Char.ofNat
    | none => [Char.ofNat (moveCode upperRuns c.toNat)]

def upper (s : String) : String :=
  .ofList (upperChars s.toList)

/-- Change the code points that are characters, and leave the others as they are. -/
def onCharacter (change : Char → List Char) (n : Nat) : List Nat :=
  if n.isValidChar then (change (Char.ofNat n)).map Char.toNat else [n]

/-- Lower case by code points. What is no character has no case, like the character zero, which
stands for it among the neighbours. -/
def lowerCodes : (before : List Char) → List Nat → List Nat
  | _, [] => []
  | before, n :: ns =>
    onCharacter (fun c => lowerBetween before c (ns.map Char.ofNat)) n
      ++ lowerCodes (Char.ofNat n :: before) ns

def upperCodes (ns : List Nat) : List Nat := ns.flatMap (onCharacter fun c => upperChars [c])

end Assay.Text
