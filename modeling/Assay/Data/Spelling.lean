import Assay.Fault
import Assay.Text.Whole

/-! # Spelling values

The texts of values for messages and records. A value that holds an integer of more than
`Text.digitLimit` digits has no text, and asking for it is a fault.
-/

namespace Assay

namespace Data

/-- The least whole number that is too long to be written. -/
def firstTooLong : Nat := tenTo Text.digitLimit

mutual

/-- Every whole number in the value is short enough to be written. -/
def isSpellable (v : Data) : Bool :=
  match v with
  | int n => n.natAbs < firstTooLong
  | list vs | tuple vs => areSpellable vs
  | mapping es | view es => areSpellableEntries es
  | object as => areSpellableAttributes as
  | _ => true
termination_by structural v

def areSpellable (vs : List Data) : Bool :=
  match vs with
  | [] => true
  | v :: rest => v.isSpellable && areSpellable rest
termination_by structural vs

def areSpellableEntries (es : List (Data × Data)) : Bool :=
  match es with
  | [] => true
  | (k, v) :: rest => k.isSpellable && v.isSpellable && areSpellableEntries rest
termination_by structural es

def areSpellableAttributes (as : List (String × Data)) : Bool :=
  match as with
  | [] => true
  | (_, v) :: rest => v.isSpellable && areSpellableAttributes rest
termination_by structural as

end

/-- The unambiguous text of a value. -/
def write (v : Data) : Except Fault String :=
  if v.isSpellable then .ok v.written else .error .numberTooLong

/-- The text of a value inside a sentence. -/
def spell (v : Data) : Except Fault String :=
  if v.isSpellable then .ok v.shown else .error .numberTooLong

end Data

/-- End with a fault, or with another one if the message of the first has no text. -/
def Fault.raise {α : Type} (f : Fault) : Except Fault α :=
  if f.named.all Data.isSpellable then .error f else .error .numberTooLong

end Assay
