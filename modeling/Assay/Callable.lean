import Assay.Traced
import Assay.Data.Access
import Assay.Data.Number
import Assay.Data.Order

/-! # Functions handed in

Checks are made from functions on values: predicates, which accept or refuse a value, and getters,
which read a part of it. Both may raise a fault, and may leave a mark in the trace each time they
are called, before they do anything else. A value may itself be a function.
-/

namespace Assay

abbrev Predicate := Data → Run Bool

abbrev Getter := Data → Run Data

def marked {α : Type} (mark : Option String) (f : Data → Except Fault α) : Data → Run α :=
  fun v => do
    Traced.mark mark
    f v

namespace Predicate

def unfit {α : Type} (name problem : String) : Except Fault α :=
  .error (.raised .type s!"{name}: {problem}")

def codesOf (name : String) (v : Data) : Except Fault (List Nat) :=
  match v.codes? with
  | some ns => .ok ns
  | none => unfit name "not a string"

def constant (answer : Data) (_ : Data) : Except Fault Bool := .ok answer.isTrue

def isTrue (v : Data) : Except Fault Bool := .ok v.isTrue

def equals (w v : Data) : Except Fault Bool := .ok (v.eq w)

def differs (w v : Data) : Except Fault Bool := .ok !(v.eq w)

def isDigits (v : Data) : Except Fault Bool := do
  let ns ← codesOf "is_digit" v
  pure (!ns.isEmpty && ns.all fun n => Text.isDigit (Char.ofNat n))

def notBlank (v : Data) : Except Fault Bool := do
  let ns ← codesOf "not_blank" v
  pure !(ns.all fun n => Text.isBlank (Char.ofNat n))

def startsWith (start : String) (v : Data) : Except Fault Bool := do
  let ns ← codesOf "starts_with" v
  pure ((start.toList.map Char.toNat).isPrefixOf ns)

/-- The length of the kinds of value that are counted here. -/
def countOf (name : String) (v : Data) : Except Fault Nat :=
  match v with
  | .text s => .ok s.length
  | .codes ns => .ok ns.length
  | .list vs => .ok vs.length
  | .mapping es => .ok es.length
  | _ => unfit name "no length"

def lengthAtLeast (n : Int) (v : Data) : Except Fault Bool := do
  pure (decide (n ≤ (← countOf "len_ge" v)))

def numberAtLeast (bound v : Data) : Except Fault Bool :=
  match v with
  | .int _ | .float _ =>
    match bound.real?, v.real? with
    | some x, some y => .ok (x.le y)
    | _, _ => .error (.unordered ">=" v.kind bound.kind)
  | _ => unfit "num_ge" "not a number"

def splitMinus : List Char → Bool × List Char
  | '-' :: cs => (true, cs)
  | cs => (false, cs)

def integerAtLeast (n : Int) (v : Data) : Except Fault Bool := do
  let (negative, ds) := splitMinus ((v.text?.getD "").toList)
  if ds.isEmpty || !ds.all Text.isAsciiDigit then
    throw (.raised .value "int_ge: not an integer")
  if ds.length > Text.digitLimit then throw (.tooManyDigits ds.length)
  let m : Int := (Text.digitsValue 0 ds).getD 0
  pure (decide (n ≤ if negative then -m else m))

/-- Values that differ from themselves. -/
def isUnlikeItself : Data → Bool
  | .float x => x.isNaN
  | .complex re im => re.isNaN || im.isNaN
  | _ => false

/-- Two fields of the value differ. The same field read twice differs only when it is
not-a-number. -/
def fieldsDiffer (a b v : Data) : Except Fault Bool := do
  let x ← Data.namedField a v
  let y ← Data.namedField b v
  pure (if a.eq b then isUnlikeItself x else !(x.eq y))

def raises {α : Type} (kind : Refusal) (message : Data) (_ : Data) : Except Fault α :=
  .error (.raised kind message.shown)

def negated (p : Predicate) : Predicate := fun v => do pure !(← p v)

end Predicate

namespace Getter

def key (k v : Data) : Except Fault Data := v.subscript k

def field (name owner : Data) : Except Fault Data := Data.namedField name owner

def itself (v : Data) : Except Fault Data := .ok v

def constant (answer : Data) (_ : Data) : Except Fault Data := .ok answer

end Getter

namespace Operation

def increment? (v : Data) : Except Fault Data :=
  match v.whole? with
  | some n => .ok (.int (n + 1))
  | none => Predicate.unfit "inc" "not an integer"

def uppercase? (v : Data) : Except Fault Data :=
  match v with
  | .text s => .ok (.text (Text.upper s))
  | .codes ns => .ok (.codes (Text.upperCodes ns))
  | _ => Predicate.unfit "upper" "not a string"

def apply (captured : List Data) (v : Data) : Operation → Except Fault Data
  | identity => .ok v
  | increment => increment? v
  | uppercase => uppercase? v
  | measure => do pure (.int (← Predicate.countOf "len" v))
  | wrap => .ok (.list [v])
  | constant => .ok (captured.headD .null)
  | refuse k => Predicate.raises k (captured.headD .null) v

end Operation

namespace Data

def call (f : Data) : Getter :=
  match f with
  | function o mark captured => marked mark fun v => o.apply captured v
  | f => fun _ => throw (.notCallable f.kind)

end Data

end Assay
