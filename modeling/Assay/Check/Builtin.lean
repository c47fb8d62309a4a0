import Assay.Check
import Assay.Pattern.Compiled

/-! # Ready-made checks

The checks that every configuration can use. Each passes on null, except the one that requires a
value, and is given a message that describes its bounds unless the arguments give one.
-/

namespace Assay.Check

/-- A test on values other than null. -/
def unlessNull (test : Data → Except Fault Bool) : Predicate := fun v =>
  if v.isNull then pure true else (test v : Run Bool)

/-- A check that takes a message and a code only. -/
def plain (function message code : String) (p : Predicate) : Check := fun as => do
  as.expect function ["message", "code"]
  Rule.make (as.getD "message" (.text message)) p (as.getD "code" (.text code)) .null

def required : Check :=
  plain "required" "is required" "required" fun v => pure !v.isNull

def isVisible : Data → Bool
  | .text s => !s.toList.all Text.isBlank
  | .codes _ => true
  | _ => false

def notBlank : Check :=
  plain "not_blank" "must not be blank" "not_blank" (unlessNull fun v => .ok (isVisible v))

/-- The number of elements of a value, if it offers one. Offering it without having one is a
fault. -/
def lengthOf? (v : Data) : Except Fault (Option Nat) :=
  match v.length? with
  | some n => .ok (some n)
  | none => if (v.attribute? "__len__").isSome then .error (.noLength v.kind) else .ok none

def notEmpty : Check :=
  plain "not_empty" "must not be empty" "not_empty"
    (unlessNull fun v => do pure ((← lengthOf? v).any (0 < ·)))

def isNumerals : Data → Bool
  | .text s => !s.isEmpty && s.toList.all Text.isDigit
  | _ => false

def numeric : Check :=
  plain "is_numeric" "must be numeric" "numeric" (unlessNull fun v => .ok (isNumerals v))

def bound? (v : Data) : Option Data := if v.isNull then none else some v

def boundsMessage (subject without : String) (min max : Option Data) : Except Fault Data := do
  match min, max with
  | some a, some b =>
    let low ← a.spell
    pure (.text s!"{subject} between {low} and {← b.spell}")
  | some a, none => pure (.text s!"{subject} at least {← a.spell}")
  | none, some b => pure (.text s!"{subject} at most {← b.spell}")
  | none, none => pure (.text without)

def messageOr (as : Arguments) (default : Except Fault Data) : Except Fault Data :=
  let m := as.getD "message" .null
  if m.isNull then default else .ok m

def checkLengthBound (name : String) (v : Data) : Except Fault Unit := do
  if ← v.compare .less (.int 0) then throw (.negativeLength name (← v.spell))

def checkLengthBounds (min max : Option Data) : Except Fault Unit := do
  min.forM (checkLengthBound "min")
  max.forM (checkLengthBound "max")
  match min, max with
  | some a, some b =>
    if ← a.compare .greater b then
      let low ← a.spell
      throw (.emptyLengths low (← b.spell))
  | _, _ => pure ()

def atMost (n : Extent) (bound : Data) : Except Fault Bool :=
  match bound.real? with
  | some x => .ok (n.le x)
  | none => .error (.unordered "<=" "int" bound.kind)

def hasLengthWithin (min max : Option Data) (v : Data) : Except Fault Bool := do
  match ← lengthOf? v with
  | none => pure false
  | some n =>
    let short ← match min with
      | some a => (Data.int n).compare .less a
      | none => pure false
    if short then pure false
    else
      match max with
      | some b => atMost (.ofInt n) b
      | none => pure true

def length : Check := fun as => do
  as.expect "length" ["min", "max", "message", "code"]
  let min := bound? (as.getD "min" .null)
  let max := bound? (as.getD "max" .null)
  checkLengthBounds min max
  let message ← messageOr as (boundsMessage "length must be" "must have a length" min max)
  Rule.make message (unlessNull (hasLengthWithin min max)) (as.getD "code" (.text "length")) .null

/-- The bounds are numbers, of which the first is not the greater one. -/
def checkRangeBounds (min max : Option Data) : Except Fault Unit := do
  match min, max with
  | some a, some b =>
    let x ← a.toBinary64
    let y ← b.toBinary64
    if y.lt x then
      let low ← a.spell
      throw (.emptyRange low (← b.spell))
  | _, _ => pure ()

def isWithin (min max : Option Data) (v : Data) : Except Fault Bool := do
  let low ← match min with
    | some a => do
      let x ← v.toBinary64
      pure (x.lt (← a.toBinary64))
    | none => pure false
  if low then pure false
  else
    match max with
    | some b => do
      let x ← v.toBinary64
      pure (x.le (← b.toBinary64))
    | none => pure true

/-- Numbers other than booleans and not-a-number. -/
def isNumberWithin (min max : Option Data) (v : Data) : Except Fault Bool :=
  match v with
  | .float x => if x.isNaN then .ok false else isWithin min max v
  | .int _ | .complex _ _ => isWithin min max v
  | _ => .ok false

def range : Check := fun as => do
  as.expect "value_range" ["min", "max", "message", "code"]
  let min := bound? (as.getD "min" .null)
  let max := bound? (as.getD "max" .null)
  checkRangeBounds min max
  let message ← messageOr as (boundsMessage "must be" "must be a number" min max)
  Rule.make message (unlessNull (isNumberWithin min max)) (as.getD "code" (.text "range")) .null

/-- What an argument that should be a pattern matches with. -/
inductive Matcher
  | program (p : Pattern.Program)
  /-- Not a pattern; it is asked for a way to match when a text comes. -/
  | other (v : Data)

namespace Matcher

variable [Pattern.Edition]

def ofData (v : Data) : Except Fault Matcher :=
  match v with
  | .pattern s f _ => do pure (program (← Pattern.compile (s.toList.map Char.toNat) f).2)
  | v =>
    match v.codes? with
    | some source => do pure (program (← Pattern.compile source {}).2)
    | none => .ok (other v)

/-- The program matches at the start of the text. -/
def matchesStart (p : Pattern.Program) (text : List Nat) : Except Fault Bool :=
  match p.search text with
  | .matched => .ok true
  | .unmatched => .ok false
  | .crossed => .error .captureCrossed

def accepts (m : Matcher) : Predicate := fun v =>
  if v.isNull then pure true
  else
    match v.codes?, m with
    | some text, program p => (matchesStart p text : Run Bool)
    | some _, other w => do
      let f ← w.readAttribute "match"
      let answer ← f.call v
      pure !answer.isNull
    | none, _ => pure false

end Matcher

def patternMessage (pattern : Data) : Except Fault Data :=
  match pattern with
  | .text s => .ok (.text s!"must match pattern '{s}'")
  | .codes ns =>
    let around := ("must match pattern '".toList.map Char.toNat, "'".toList.map Char.toNat)
    .ok (.codes (around.1 ++ ns ++ around.2))
  | v => do
    let source ← (← v.readAttribute "pattern").spell
    pure (.text s!"must match pattern '{source}'")

def pattern [Pattern.Edition] : Check := fun as => do
  as.expect "matches" ["pattern", "message", "code"]
  match as.get? "pattern" with
  | none => throw (.missingArgument "matches" "pattern")
  | some p =>
    let m ← Matcher.ofData p
    let message ← messageOr as (patternMessage p)
    Rule.make message m.accepts (as.getD "code" (.text "pattern")) .null

/-- Text without regard to case; other values as they are. -/
def foldText : Data → Data
  | .text s => .text (Text.lower s)
  | .codes ns => .codes (Text.lowerCodes [] ns)
  | v => v

def isChoice (sensitive : Bool) (choices : List Data) (v : Data) : Bool :=
  if sensitive then v.isAmong choices else (foldText v).isAmong (choices.map foldText)

def oneOf : Check := fun as => do
  as.expect "one_of" ["values", "message", "code", "case_sensitive"]
  match as.get? "values" with
  | none => throw (.missingArgument "one_of" "values")
  | some values =>
    let choices ← values.items
    if choices.isEmpty then throw .noChoices
    let message ← messageOr as do
      let listed ← choices.mapM Data.write
      pure (.text s!"must be one of: {Data.commaSeparated listed}")
    let sensitive := (as.getD "case_sensitive" (.bool true)).isTrue
    Rule.make message (unlessNull fun v => .ok (isChoice sensitive choices v))
      (as.getD "code" (.text "one_of")) .null

/-- The ready-made checks by the names that their complaints give them. -/
def functions [Pattern.Edition] : List (String × Check) :=
  [("required", required), ("not_blank", notBlank), ("not_empty", notEmpty), ("length", length),
   ("value_range", range), ("matches", pattern), ("one_of", oneOf), ("is_numeric", numeric)]

end Assay.Check
