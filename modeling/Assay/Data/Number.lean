import Assay.Data
import Assay.Fault
import Assay.Binary64.Reading

/-! # Values as doubles -/

namespace Assay.Data

/-- The number that a value stands for, rounded to a double. Text and bytes are read. -/
def toBinary64 : Data → Except Fault Binary64
  | float x => .ok x
  | bool b => .ok ((Binary64.ofInt? (if b then 1 else 0)).getD .nan)
  | int n =>
    match Binary64.ofInt? n with
    | some x => .ok x
    | none => .error .numberTooLarge
  | text s =>
    match Binary64.ofText? s with
    | some x => .ok x
    | none => .error (.unreadableNumber (Text.quoted s))
  | codes ns => .error (.unreadableNumber (Text.quotedCodes ns))
  | bytes bs =>
    match Binary64.readAscii (bs.map fun b => Char.ofNat b.toNat) with
    | some x => .ok x
    | none => .error (.unreadableNumber (Text.quotedBytes bs))
  | v => .error (.notReal v.kind)

end Assay.Data
