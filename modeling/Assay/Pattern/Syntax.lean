import Assay.Text.Blank
import Assay.Text.Digit
import Assay.Text.Word

/-! # Patterns

Regular expressions over text. The flags that are in force where a part of a pattern stands are
resolved into the part itself.
-/

namespace Assay.Pattern

structure Flags where
  template : Bool := false
  ignoreCase : Bool := false
  multiLine : Bool := false
  dotAll : Bool := false
  verbose : Bool := false
  ascii : Bool := false
deriving DecidableEq

/-- What the editions of the notation differ in. -/
class Edition where
  /-- Where a possessive repetition fails to match once more, it goes on from where that attempt
  began, and otherwise from where the attempt had come to. -/
  undoesAttempts : Bool
  /-- Widths are counted up to 2 ^ 64, and otherwise up to the bound of repetitions. -/
  countsFar : Bool

/-- The edition in force unless another one is named. -/
instance Edition.early : Edition := ⟨false, false⟩

inductive Category
  | digit
  | blank
  | word
deriving DecidableEq

def Category.has (ascii : Bool) (k : Category) (c : Char) : Bool :=
  (!ascii || c.toNat < 128) &&
    match k with
    | digit => Text.isDecimal c
    | blank => if ascii then c == ' ' || (9 ≤ c.toNat && c.toNat ≤ 13) else Text.isBlank c
    | word => Text.isWord c

inductive ClassItem
  | single (code : Nat)
  | range (first last : Nat)
  | category (kind : Category) (negated : Bool)
deriving DecidableEq

structure CharClass where
  items : List ClassItem
  negated : Bool := false
  ignoreCase : Bool := false
  ascii : Bool := false
deriving DecidableEq

inductive Anchor
  | textStart
  | lineStart
  | textEnd
  /-- At the end, or before a line feed that ends the text. -/
  | lastLineEnd
  | lineEnd
  | boundary (ascii : Bool)
  | inside (ascii : Bool)
deriving DecidableEq

inductive Greed
  | greedy
  | lazy
  | possessive
deriving DecidableEq

/-- A part of a pattern. The parts of a pattern, of a branch or of a group form a list. -/
inductive Node
  | char (kind : CharClass)
  /-- Any character, or any one but a line feed. -/
  | any (dotAll : Bool)
  | anchor (kind : Anchor)
  | reference (number : Nat) (ignoreCase ascii : Bool)
  | choice (branches : List (List Node))
  /-- `most` is absent when there is no bound. -/
  | repetition (greed : Greed) (least : Nat) (most : Option Nat) (body : List Node)
  | capture (number : Nat) (body : List Node)
  /-- A group that captures nothing. It is `plain` when it sets no flags. -/
  | group (plain : Bool) (body : List Node)
  | look (behind negated : Bool) (body : List Node)
  | atomic (body : List Node)
  | conditional (number : Nat) (yes no : List Node)

namespace Node

def isAnchor : Node → Bool
  | anchor _ => true
  | _ => false

def isRepetition : Node → Bool
  | repetition _ _ _ _ => true
  | _ => false

/-- The same part, for parts that hold no others. -/
def same : Node → Node → Bool
  | char k, char l => k == l
  | any d, any e => d == e
  | anchor a, anchor b => a == b
  | reference i _ _, reference j _ _ => i == j
  | _, _ => false

def repetitionLimit : Nat := 0xffffffff

def widthLimit : Nat := 0x10000000000000000

variable [Edition]

/-- The least and the greatest width from which on widths are not told apart. -/
def widest : Nat × Nat :=
  if Edition.countsFar then (widthLimit, widthLimit) else (repetitionLimit - 1, repetitionLimit)

def capped (w : Nat × Nat) : Nat × Nat := (min w.1 widest.1, min w.2 widest.2)

mutual

/-- The least and the greatest number of characters that a match takes; `groups` holds those of
the captures. -/
def width (groups : List (Nat × Nat)) (n : Node) : Nat × Nat :=
  match n with
  | char _ | any _ => (1, 1)
  | anchor _ | look _ _ _ => (0, 0)
  | reference i _ _ => groups.getD i (0, 0)
  | choice bs => widthChoice groups bs
  | repetition _ least most body =>
    let (lo, hi) := capped (widthAll groups body)
    (lo * least, hi * most.getD widest.2)
  | capture _ body | group _ body | atomic body => capped (widthAll groups body)
  | conditional _ yes no =>
    let (lo, hi) := capped (widthAll groups yes)
    let (lo', hi') := capped (widthAll groups no)
    (min lo lo', max hi hi')
termination_by structural n

def widthAll (groups : List (Nat × Nat)) (ns : List Node) : Nat × Nat :=
  match ns with
  | [] => (0, 0)
  | n :: rest =>
    let (lo, hi) := n.width groups
    let (lo', hi') := widthAll groups rest
    (lo + lo', hi + hi')
termination_by structural ns

def widthChoice (groups : List (Nat × Nat)) (bs : List (List Node)) : Nat × Nat :=
  match bs with
  | [] => (widest.1, 0)
  | b :: rest =>
    let (lo, hi) := capped (widthAll groups b)
    let (lo', hi') := widthChoice groups rest
    (min lo lo', max hi hi')
termination_by structural bs

end

end Node

end Assay.Pattern
