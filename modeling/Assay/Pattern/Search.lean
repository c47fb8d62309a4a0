import Assay.Pattern.Program

/-! # Matching patterns

Backtracking search for a match that begins at the start of a text. The steps of a program are
matched with what is to follow them, so that choices are tried in order until the rest matches too.

What a failed attempt has marked is taken back only where a step says so: in a loop the marks are
restored as they were, elsewhere no more than how many of them count. A conditional or a reference
can see the difference.
-/

namespace Assay.Pattern

/-- What the attempts made so far have left behind. -/
structure Memory where
  /-- The place of the last attempt. -/
  position : Nat
  /-- Where captures begin and end, for the slots up to the greatest one in use. -/
  marks : Array (Option Nat)

/-- What has to match behind a step, from a place on. -/
abbrev Rest := Nat → Memory → Bool × Memory

namespace Memory

def moveTo (m : Memory) (i : Nat) : Memory := { m with position := i }

def mark (m : Memory) (slot i : Nat) : Memory :=
  let marks := m.marks ++ Array.replicate (slot + 1 - m.marks.size) none
  { m with marks := marks.setIfInBounds slot (some i) }

/-- Go back to the marks of `old`. Outside of a loop only their number is restored. -/
def restore (old : Memory) (inLoop : Bool) (m : Memory) : Memory :=
  if inLoop then { m with marks := old.marks }
  else { m with marks := m.marks.extract 0 old.marks.size }

def span? (m : Memory) (number : Nat) : Option (Nat × Nat) :=
  match m.marks[2 * number - 2]?, m.marks[2 * number - 1]? with
  | some (some a), some (some b) => if b < a then none else some (a, b)
  | _, _ => none

/-- A capture that ends before it begins. -/
def isCrossed (m : Memory) (number : Nat) : Bool :=
  match m.marks[2 * number - 2]?, m.marks[2 * number - 1]? with
  | some (some a), some (some b) => b < a
  | _, _ => false

end Memory

def done : Rest := fun i m => (true, m.moveTo i)

def isWordAt (text : Array Nat) (ascii : Bool) (i : Nat) : Bool :=
  match text[i]? with
  | some n => Category.word.has ascii (Char.ofNat n)
  | none => false

namespace Anchor

def isBoundary (text : Array Nat) (ascii : Bool) (i : Nat) : Bool :=
  (i != 0 && isWordAt text ascii (i - 1)) != isWordAt text ascii i

def holds (text : Array Nat) (i : Nat) : Anchor → Bool
  | textStart => i == 0
  | lineStart => i == 0 || text[i - 1]? == some 10
  | textEnd => i == text.size
  | lastLineEnd => i == text.size || (i + 1 == text.size && text[i]? == some 10)
  | lineEnd => i == text.size || text[i]? == some 10
  | boundary ascii => text.size != 0 && isBoundary text ascii i
  | inside ascii => text.size != 0 && !isBoundary text ascii i

end Anchor

namespace Test

def holdsAt (text : Array Nat) (t : Test) (i : Nat) : Bool := text[i]?.any t.has

def countFrom (text : Array Nat) (t : Test) (i : Nat) : (bound count : Nat) → Nat
  | 0, count => count
  | bound + 1, count =>
    if t.holdsAt text (i + count) then countFrom text t i bound (count + 1) else count

/-- Sets that fold case are tried character by character, which moves the place of the last
attempt. -/
def movesOn : Test → Bool
  | set .exact _ => false
  | set _ _ => true
  | _ => false

def count (text : Array Nat) (t : Test) (bound i : Nat) (m : Memory) : Nat × Memory :=
  let n := t.countFrom text i (min bound (text.size - i)) 0
  (n, m.moveTo (if t.movesOn then i + n else i))

end Test

/-- A branch that begins with a test for a character or a set is passed over where the test
fails. -/
def mayBegin (text : Array Nat) (i : Nat) : List Step → Bool
  | .take (.code .exact v false) :: _ => text[i]? == some v
  | .take (.set .exact s) :: _ => text[i]?.any (s.has .exact)
  | _ => true

/-- Try the rest behind `n` characters, then fewer, down to `least`. Where it begins with a certain
character, only places before that character are tried. -/
def shrink (text : Array Nat) (inLoop : Bool) (next : Option Nat) (k : Rest) (i least : Nat)
    (start : Memory) : (n : Nat) → Memory → Bool × Memory
  | n, m =>
    if n < least then (false, m)
    else
      let (matched, tried) :=
        if next.all fun v => text[i + n]? == some v then
          let (matched, after) := k (i + n) (m.moveTo (i + n))
          (matched, if matched then after else start.restore inLoop after)
        else (false, m)
      match matched, n with
      | true, _ => (true, tried)
      | false, 0 => (false, tried)
      | false, n + 1 => shrink text inLoop next k i least start n tried

/-- Try the rest behind `n` characters, then more, `room` more at most. -/
def stretch (text : Array Nat) (inLoop : Bool) (t : Test) (k : Rest) (i : Nat) (start : Memory)
    (n : Nat) : (room : Nat) → Memory → Bool × Memory
  | room, m =>
    let (matched, after) := k (i + n) (m.moveTo (i + n))
    if matched then (true, after)
    else
      let back := (start.restore inLoop after).moveTo (i + n)
      let (count, tried) := t.count text 1 (i + n) back
      match count, room with
      | 0, _ | _, 0 => (false, tried)
      | _, room + 1 => stretch text inLoop t k i start (n + 1) room tried

def runOf (text : Array Nat) (inLoop : Bool) (greed : Greed) (least : Nat) (most : Option Nat)
    (t : Test) (next : Option Nat) (k : Rest) : Rest :=
  fun i m =>
    let room := text.size - i
    if room < least then (false, m)
    else
      match greed with
      | .lazy =>
        let (n, m) := if least == 0 then (0, m.moveTo i) else t.count text least i m
        if n < least then (false, m)
        else stretch text inLoop t k i m n (min (most.getD room) room - n) m
      | greed =>
        let (n, m) := t.count text (most.getD room) i m
        if n < least then (false, m)
        else if greed == .possessive then k (i + n) m
        else shrink text inLoop next k i least m n m

/-- One more repetition after `count` others, as many as possible. After the least number of them,
a further one must not start where the last one started. -/
def loopMost (body : Rest → Rest) (least : Nat) (most : Option Nat) (k : Rest) :
    (fuel count : Nat) → (last : Option Nat) → Rest
  | 0, _, _, i, m => (false, m.moveTo i)
  | fuel + 1, count, last, i, m =>
    let start := m.moveTo i
    if count < least then
      let (matched, after) := body (loopMost body least most k fuel (count + 1) last) i start
      (matched, if matched then after else after.moveTo i)
    else
      let (matched, after) :=
        if most.all (count < ·) && last != some i then
          let (matched, after) :=
            body (loopMost body least most k fuel (count + 1) (some i)) i start
          (matched, if matched then after else (start.restore true after).moveTo i)
        else (false, start)
      if matched then (true, after)
      else
        let (matched, after) := k i after
        (matched, if matched then after else after.moveTo i)

/-- One more repetition after `count` others, as few as possible. -/
def loopLeast (inLoop : Bool) (body : Rest → Rest) (least : Nat) (most : Option Nat) (k : Rest) :
    (fuel count : Nat) → (last : Option Nat) → Rest
  | 0, _, _, i, m => (false, m.moveTo i)
  | fuel + 1, count, last, i, m =>
    let start := m.moveTo i
    if count < least then
      let (matched, after) :=
        body (loopLeast inLoop body least most k fuel (count + 1) last) i start
      (matched, if matched then after else after.moveTo i)
    else
      let (matched, after) := k i start
      if matched then (true, after)
      else
        let back := (start.restore inLoop after).moveTo i
        if most.all (count < ·) && last != some i then
          let (matched, after) :=
            body (loopLeast inLoop body least most k fuel (count + 1) (some i)) i back
          (matched, if matched then after else after.moveTo i)
        else (false, back)

def repeatLeast (body : Rest) : (times : Nat) → Memory → Bool × Memory
  | 0, m => (true, m)
  | times + 1, m =>
    let (matched, after) := body m.position m
    if matched then repeatLeast body times after else (false, after)

/-- Repeat a body, each time by itself, as often as it matches. -/
def repeatMost [Edition] (body : Rest) (most : Option Nat) :
    (fuel count : Nat) → (last : Option Nat) → Memory → Memory
  | 0, _, _, m => m
  | fuel + 1, count, last, m =>
    if most.all (count < ·) && last != some m.position then
      let (matched, after) := body m.position m
      if matched then repeatMost body most fuel (count + 1) (some m.position) after
      else
        let back := m.restore true after
        if Edition.undoesAttempts then back.moveTo m.position else back
    else m

/-- A repetition that keeps what it has matched. -/
def loopKept [Edition] (body : Rest) (least : Nat) (most : Option Nat) (fuel : Nat) (k : Rest) :
    Rest :=
  fun i m =>
    let (matched, after) := repeatLeast body least (m.moveTo i)
    if matched then
      let m := repeatMost body most fuel least none after
      k m.position m
    else (false, after.moveTo i)

/-- Take once more what was captured between two places. -/
def again (text : Array Nat) (f : Fold) (first last : Nat) (k : Rest) : Rest :=
  fun i m =>
    let n := last - first
    let same := (List.range n).all fun j =>
      match text[first + j]?, text[i + j]? with
      | some c, some d => f.lower c == f.lower d
      | _, _ => false
    if same then k (i + n) m else (false, m)

/-- The marks that a failed look has to restore, and whether it was one that must not match. -/
def lookResult (inLoop negated : Bool) (start : Memory) (matched : Bool) (after : Memory) :
    Bool × Memory :=
  if negated then
    if matched then (false, after) else (true, start.restore inLoop after)
  else (matched, after)

namespace Step

variable [Edition]

mutual

/-- Match one step and then the rest. `inLoop` tells whether the step stands in the body of a
repetition that gives matches back. -/
def match? (text : Array Nat) (inLoop : Bool) (s : Step) (k : Rest) (i : Nat) (m : Memory) :
    Bool × Memory :=
  match s with
  | take t => if t.holdsAt text i then k (i + 1) m else (false, m)
  | anchor a => if a.holds text i then k i m else (false, m)
  | mark slot => k i (m.mark slot i)
  | choice bs => matchAny text inLoop bs k i m m
  | run greed least most t next => runOf text inLoop greed least most t next k i m
  | loop greed least most body =>
    let fuel := 4 * (text.size + 1) + least
    match greed with
    | .possessive => loopKept (matchAll text inLoop body done) least most fuel k i m
    | .greedy => loopMost (matchAll text true body) least most k fuel 0 none i m
    | .lazy => loopLeast inLoop (matchAll text true body) least most k fuel 0 none i m
  | reference number f =>
    match m.span? number with
    | some (first, last) => again text f first last k i m
    | none => (false, m)
  | conditional number yes no =>
    if (m.span? number).isSome then matchAll text inLoop yes k i m
    else matchAll text inLoop no k i m
  | look negated back body =>
    if i < back then if negated then k i m else (false, m)
    else
      let (matched, after) := matchAll text inLoop body done (i - back) (m.moveTo (i - back))
      let (passed, after) := lookResult inLoop negated m matched after
      if passed then k i after else (false, after)
  | atomic body =>
    let (matched, after) := matchAll text inLoop body done i (m.moveTo i)
    if matched then k after.position after else (false, after.moveTo i)
termination_by structural s

def matchAll (text : Array Nat) (inLoop : Bool) (ss : List Step) (k : Rest) (i : Nat)
    (m : Memory) : Bool × Memory :=
  match ss with
  | [] => k i m
  | s :: rest => s.match? text inLoop (matchAll text inLoop rest k) i m
termination_by structural ss

/-- Try the branches in order, each from the marks of `start`. -/
def matchAny (text : Array Nat) (inLoop : Bool) (bs : List (List Step)) (k : Rest) (i : Nat)
    (start m : Memory) : Bool × Memory :=
  match bs with
  | [] => (false, m)
  | b :: rest =>
    if mayBegin text i b then
      let (matched, after) := matchAll text inLoop b k i (m.moveTo i)
      if matched then (true, after)
      else matchAny text inLoop rest k i start (start.restore inLoop after)
    else matchAny text inLoop rest k i start m
termination_by structural bs

end

end Step

namespace Program

inductive Outcome
  | matched
  | unmatched
  /-- A capture has been left with its end before its beginning. -/
  | crossed
deriving DecidableEq

/-- Look for a match at the start of the text of the given code points. -/
def search [Edition] (p : Program) (codes : List Nat) : Outcome :=
  let text := codes.toArray
  if text.size < p.least then .unmatched
  else
    let (matched, m) := Step.matchAll text false p.steps done 0 ⟨0, #[]⟩
    if !matched then .unmatched
    else if (List.range p.captures).any fun i => m.isCrossed (i + 1) then .crossed
    else .matched

end Program

end Assay.Pattern
