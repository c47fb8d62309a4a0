import Assay.Pattern.Fold
import Assay.Pattern.Reading

/-! # Pattern programs

The form of a pattern that a search works on. The parts of a pattern become steps: tests on single
characters, marks where captures begin and end, and repetitions, which are kept apart by whether
they repeat a test or a row of steps. A pattern that cannot be brought into this form is refused.
-/

namespace Assay.Pattern

/-- The characters of a class, by how they are compared with a character in its lower case. -/
structure CharSet where
  /-- Characters that are compared as they stand. -/
  plain : List (Nat × Nat)
  /-- Characters that stand for all that differ from them in case. -/
  folded : List (Nat × Nat)
  /-- Characters that may also be reached by the upper case. -/
  raised : List (Nat × Nat)
  categories : List (Category × Bool)
  negated : Bool
  ascii : Bool

/-- A test on one character. -/
inductive Test
  | code (fold : Fold) (value : Nat) (negated : Bool)
  | any (dotAll : Bool)
  | set (fold : Fold) (members : CharSet)

inductive Step
  | take (test : Test)
  | anchor (kind : Anchor)
  /-- Where a capture begins or ends. -/
  | mark (slot : Nat)
  | choice (branches : List (List Step))
  /-- Repeat a test. If what follows begins with a certain character, `next` tells it. -/
  | run (greed : Greed) (least : Nat) (most : Option Nat) (test : Test) (next : Option Nat)
  | loop (greed : Greed) (least : Nat) (most : Option Nat) (body : List Step)
  | reference (number : Nat) (fold : Fold)
  | conditional (number : Nat) (yes no : List Step)
  /-- Match from `back` characters before this place on, and stay here. -/
  | look (negated : Bool) (back : Nat) (body : List Step)
  | atomic (body : List Step)

structure Program where
  steps : List Step
  captures : Nat
  /-- No match is shorter. -/
  least : Nat

/-- Whether the code point is in one of the ranges. -/
def inRanges (rs : List (Nat × Nat)) (n : Nat) : Bool := rs.any fun r => r.1 ≤ n && n ≤ r.2

namespace CharSet

def has (s : CharSet) (f : Fold) (n : Nat) : Bool :=
  let low := f.lower n
  let found := inRanges s.plain low || inRanges s.raised low
    || inRanges s.raised (Text.upperCode low)
    || s.categories.any (fun k => k.1.has s.ascii (Char.ofNat low) != k.2)
    || (!s.folded.isEmpty && (f.sources low).any (inRanges s.folded))
  found != s.negated

end CharSet

namespace Test

def has : Test → Nat → Bool
  | code f v negated, n => (f.lower n == v) != negated
  | any dotAll, n => dotAll || n != 10
  | set f s, n => s.has f n

end Test

/-- The first code point that classes do not fold the case of. -/
def unfoldedFrom : Nat := 0x10000

namespace CharClass

def fold (k : CharClass) : Fold := Fold.ofFlags k.ignoreCase k.ascii

/-- Whether characters have to be brought to lower case before they are looked for. -/
def needsFold (k : CharClass) : Bool :=
  k.ignoreCase && k.items.any fun
    | .single n => n ≥ unfoldedFrom || k.fold.hasCase n
    | .range a b => b ≥ unfoldedFrom || k.fold.hasCaseWithin a b
    | .category _ _ => false

def ranges (k : CharClass) : List (Nat × Nat) :=
  k.items.filterMap fun
    | .single n => some (n, n)
    | .range a b => some (a, b)
    | .category _ _ => none

def foldedPart (r : Nat × Nat) : Option (Nat × Nat) :=
  if r.1 < unfoldedFrom then some (r.1, min r.2 (unfoldedFrom - 1)) else none

def set (k : CharClass) : CharSet :=
  let categories := k.items.filterMap fun
    | .category c negated => some (c, negated)
    | _ => none
  if k.needsFold then
    let plain := k.items.filterMap fun
      | .single n => if n ≥ unfoldedFrom then some (n, n) else none
      | _ => none
    let raised := k.items.filterMap fun
      | .range a b => if b ≥ unfoldedFrom then some (a, b) else none
      | _ => none
    ⟨plain, k.ranges.filterMap foldedPart, raised, categories, k.negated, k.ascii⟩
  else ⟨k.ranges, [], [], categories, k.negated, k.ascii⟩

/-- The class of a single letter and the letters that stand for it. -/
def letterSet (n : Nat) (negated ascii : Bool) : CharSet :=
  ⟨(lowerVariants n).map fun m => (m, m), [], [], [], negated, ascii⟩

def singleTest (k : CharClass) (n : Nat) : Test :=
  if !k.fold.hasCase n then .code .exact n k.negated
  else
    let low := k.fold.lower n
    if k.fold == .unicode && foldClasses.any (·.contains low) then
      .set .unicode (letterSet low k.negated k.ascii)
    else .code k.fold low k.negated

def test (k : CharClass) : Test :=
  match k.items with
  | [.single n] => k.singleTest n
  | _ => .set (if k.needsFold then k.fold else .exact) k.set

end CharClass

namespace Node

variable [Edition]

def lookLimit : Nat := if Edition.countsFar then 0x100000000 else 0x80000000

/-- A look behind has a width of its own. -/
def checkBehind (w : Nat × Nat) : Except Problem Unit := do
  if Edition.countsFar && w.1 ≥ lookLimit then throw (.malformed "looks too much behind")
  if w.1 != w.2 then throw (.malformed "look-behind requires fixed-width pattern")

mutual

/-- Refuse repetitions where they are switched off and looks behind of varying width. -/
def check (template : Bool) (widths : List (Nat × Nat)) (n : Node) : Except Problem Unit :=
  match n with
  | choice bs => checkBranches template widths bs
  | repetition g _ _ body => do
    if template then
      let name := match g with
        | .greedy => "MAX_REPEAT"
        | .lazy => "MIN_REPEAT"
        | .possessive => "POSSESSIVE_REPEAT"
      throw (.malformed s!"internal: unsupported template operator {name}")
    checkAll template widths body
  | look behind _ body => do
    if behind then checkBehind (capped (widthAll widths body))
    checkAll template widths body
  | capture _ body | group _ body | atomic body => checkAll template widths body
  | conditional _ yes no => do
    checkAll template widths yes
    checkAll template widths no
  | _ => pure ()
termination_by structural n

def checkAll (template : Bool) (widths : List (Nat × Nat)) (ns : List Node) :
    Except Problem Unit :=
  match ns with
  | [] => pure ()
  | n :: rest => do
    n.check template widths
    checkAll template widths rest
termination_by structural ns

def checkBranches (template : Bool) (widths : List (Nat × Nat)) (bs : List (List Node)) :
    Except Problem Unit :=
  match bs with
  | [] => pure ()
  | b :: rest => do
    checkAll template widths b
    checkBranches template widths rest
termination_by structural bs

end

mutual

def deepest (widths : List (Nat × Nat)) (n : Node) : Nat :=
  match n with
  | choice bs => deepestBranch widths bs
  | look behind _ body =>
    let own := if behind then (capped (widthAll widths body)).1 else 0
    max own (deepestOf widths body)
  | repetition _ _ _ body | capture _ body | group _ body | atomic body => deepestOf widths body
  | conditional _ yes no => max (deepestOf widths yes) (deepestOf widths no)
  | _ => 0
termination_by structural n

def deepestOf (widths : List (Nat × Nat)) (ns : List Node) : Nat :=
  match ns with
  | [] => 0
  | n :: rest => max (n.deepest widths) (deepestOf widths rest)
termination_by structural ns

def deepestBranch (widths : List (Nat × Nat)) (bs : List (List Node)) : Nat :=
  match bs with
  | [] => 0
  | b :: rest => max (deepestOf widths b) (deepestBranch widths rest)
termination_by structural bs

end

mutual

/-- The test that the part makes if it always takes one character. -/
def test? (n : Node) : Option Test :=
  match n with
  | char k => some k.test
  | any dotAll => some (.any dotAll)
  | group _ body => testOf? body
  | _ => none
termination_by structural n

def testOf? (ns : List Node) : Option Test :=
  match ns with
  | [n] => n.test?
  | _ => none
termination_by structural ns

end

end Node

/-- The character that steps begin with, where `next` tells it for what follows them. -/
def opening (next : Option Nat) : List Step → Option Nat
  | [] => next
  | .take (.code .exact v false) :: _ => some v
  | _ => none

namespace Node

mutual

/-- The steps of a part; `next` tells the character that what follows it begins with. -/
def steps (widths : List (Nat × Nat)) (next : Option Nat) (n : Node) : List Step :=
  match n with
  | char k => [.take k.test]
  | any dotAll => [.take (.any dotAll)]
  | anchor a => [.anchor a]
  | reference i ignoreCase ascii => [.reference i (.ofFlags ignoreCase ascii)]
  | choice bs => [.choice (stepsOfBranches widths bs)]
  | repetition g least most body =>
    match testOf? body with
    | some t => [.run g least most t next]
    | none => [.loop g least most (stepsOf widths none body)]
  | capture i body => .mark (2 * i - 2) :: stepsOf widths none body ++ [.mark (2 * i - 1)]
  | group _ body => stepsOf widths next body
  | look behind negated body =>
    let back := if behind then (capped (widthAll widths body)).1 else 0
    [.look negated back (stepsOf widths none body)]
  | atomic body => [.atomic (stepsOf widths none body)]
  | conditional i yes no =>
    let afterYes := if no.isEmpty then next else none
    [.conditional i (stepsOf widths afterYes yes) (stepsOf widths next no)]
termination_by structural n

def stepsOf (widths : List (Nat × Nat)) (next : Option Nat) (ns : List Node) : List Step :=
  match ns with
  | [] => []
  | n :: rest =>
    let behind := stepsOf widths next rest
    n.steps widths (opening next behind) ++ behind
termination_by structural ns

def stepsOfBranches (widths : List (Nat × Nat)) (bs : List (List Node)) : List (List Step) :=
  match bs with
  | [] => []
  | b :: rest => stepsOf widths none b :: stepsOfBranches widths rest
termination_by structural bs

end

end Node

namespace Outline

def program [Edition] (o : Outline) : Except Problem Program := do
  Node.checkAll o.flags.template o.widths o.nodes
  if Node.deepestOf o.widths o.nodes ≥ Node.lookLimit then throw .tooWide
  let least := (Node.capped (Node.widthAll o.widths o.nodes)).1
  pure ⟨Node.stepsOf o.widths none o.nodes, o.widths.length - 1, min least 0xffffffff⟩

end Outline

end Assay.Pattern
