import Assay.Data.Member
import Assay.Data.Spelling

/-! # Reading inside values

The items of a value, the value under a key or position, and the value of a named field. A field
of a mapping that is absent reads as null; a missing attribute is a fault.
-/

namespace Assay.Data

/-- The items that a value is walked through by; those of a mapping are its keys. -/
def items (v : Data) : Except Fault (List Data) :=
  match v with
  | list vs => .ok vs
  | tuple vs => .ok vs
  | mapping es | view es => .ok (es.map Prod.fst)
  | bytes bs => .ok (bs.map fun b => int b.toNat)
  | v =>
    match v.codes? with
    | some ns => .ok (ns.map fun n => ofCodes [n])
    | none => .error (.notIterable v.kind)

def hashable (v : Data) : Except Fault Unit :=
  match v.unhashable? with
  | some k => .error (.unhashable k)
  | none => .ok ()

def flagNumber (f : Pattern.Flags) : Nat :=
  let bit (b : Bool) (n : Nat) : Nat := if b then n else 0
  bit f.template 1 + bit f.ignoreCase 2 + bit f.multiLine 8 + bit f.dotAll 16 + bit (!f.ascii) 32
    + bit f.verbose 64 + bit f.ascii 256

def namedCaptures (number : Nat) : List (Option String) → List (Data × Data)
  | [] => []
  | none :: rest => namedCaptures (number + 1) rest
  | some name :: rest => (text name, int number) :: namedCaptures (number + 1) rest

def patternAttribute? (source : String) (f : Pattern.Flags) (captures : List (Option String))
    (name : String) : Option Data :=
  match name with
  | "pattern" => some (text source)
  | "flags" => some (int (flagNumber f))
  | "groups" => some (int captures.length)
  | "groupindex" =>
    match namedCaptures 1 captures with
    | [] => some (mapping [])
    | es => some (view es)
  | _ => none

def numberAttribute? (v : Data) (name : String) : Option Data :=
  match v, name with
  | float x, "real" => some (float x)
  | float _, "imag" => some (float (.zero false))
  | complex re _, "real" => some (float re)
  | complex _ im, "imag" => some (float im)
  | v, "real" | v, "numerator" => v.whole?.map int
  | v, "imag" => v.whole?.map fun _ => int 0
  | v, "denominator" => v.whole?.map fun _ => int 1
  | _, _ => none

def ownAttribute? (v : Data) (name : String) : Option Data :=
  match v with
  | object as => (as.find? fun a => a.1 == name).map Prod.snd
  | pattern p f cs => patternAttribute? p f cs name
  | v => v.numberAttribute? name

/-- What a value offers under a name: an attribute of its own, or what belongs to its kind. -/
def attribute? (v : Data) (name : String) : Option Data :=
  (v.ownAttribute? name).or (v.member? name)

def lacking (v : Data) (name : String) : Fault :=
  match v with
  | member o _ .type => .kindWithout o.kind name
  | v => .noAttribute v.kind name

def readAttribute (v : Data) (name : String) : Except Fault Data :=
  match v.attribute? name with
  | some w => .ok w
  | none => .error (v.lacking name)

/-- The value of the field `name` of `owner`. Attributes have names of characters only. -/
def field (name owner : Data) : Except Fault Data :=
  match owner with
  | mapping es | view es => do
    name.hashable
    pure ((lookup? name es).getD null)
  | owner =>
    match name with
    | text s => owner.readAttribute s
    | codes ns => .error (owner.lacking (Text.ofCodes ns))
    | name => .error (.attributeNotNamed name.kind)

/-- The value of a field by its name, which must be one that can be written. -/
def namedField (name owner : Data) : Except Fault Data := do
  let _ ← name.spell
  field name owner

/-- The item at a position, which counts from the end when it is negative. -/
def atPosition (container : String) (vs : List Data) (position : Int) : Except Fault Data :=
  if position < -0x8000000000000000 || position ≥ 0x8000000000000000 then .error .positionTooLarge
  else
    let i := if position < 0 then position + vs.length else position
    match (if i < 0 then none else vs[i.toNat]?) with
    | some v => .ok v
    | none => .error (.outOfRange container)

def atKey (entries : List (Data × Data)) (key : Data) : Except Fault Data := do
  key.hashable
  match lookup? key entries with
  | some v => pure v
  | none => throw (.missingKey (← key.write))

def subscript (v key : Data) : Except Fault Data :=
  match v with
  | mapping es | view es => atKey es key
  | list _ | tuple _ | text _ | codes _ | bytes _ => do
    match key.whole? with
    | some i => atPosition v.kind (← v.items) i
    | none => throw (.badPosition v.kind key.kind)
  | v => .error (.notSubscriptable v.kind)

end Assay.Data
