import Assay.Binary64
import Assay.Calendar
import Assay.Pattern.Syntax
import Assay.Text.Quoted

/-! # Dynamic values

The values that are checked, and that configurations are made of. Mappings keep the order in which
their keys came and hold no key twice; objects are named attributes without any order, written here
in ascending order of name. What belongs to a value by its kind, such as a function bound to it, is
a value too.
-/

namespace Assay

/-- The kinds of fault that a function handed in can raise by itself. -/
inductive Refusal
  | value
  | type
  | runtime
deriving DecidableEq

/-- What a function value does when it is called. -/
inductive Operation
  | identity
  | increment
  | uppercase
  | measure
  | wrap
  | constant
  | refuse (kind : Refusal)
deriving DecidableEq

/-- What belongs to values by their kind. -/
inductive MemberKind
  /-- A function. -/
  | function
  /-- The function behind an operator or another special notation. -/
  | operator
  /-- A function that works on the data of a pattern. -/
  | method
  /-- The kind itself. -/
  | type
deriving DecidableEq

inductive Data
  | null
  | bool (value : Bool)
  | int (value : Int)
  | float (value : Binary64)
  | complex (re im : Binary64)
  | text (value : String)
  /-- Text by its code points, of which one at least is half of a pair and no character. -/
  | codes (values : List Nat)
  | bytes (value : List UInt8)
  | list (items : List Data)
  | tuple (items : List Data)
  | mapping (entries : List (Data × Data))
  /-- A mapping that can only be read. -/
  | view (entries : List (Data × Data))
  | object (attributes : List (String × Data))
  /-- A regular expression, with the flags in force and the names of its captures in order. -/
  | pattern (source : String) (flags : Pattern.Flags) (captures : List (Option String))
  | date (value : Date)
  | moment (value : Moment)
  /-- What belongs to `owner` under a name. -/
  | member (owner : Data) (name : String) (kind : MemberKind)
  /-- A function, the mark its calls leave, and the values it was made from. -/
  | function (operation : Operation) (mark : Option String) (captured : List Data)

namespace Data

instance : Inhabited Data := ⟨null⟩

/-- The name of the kind of a value, as messages give it. -/
def kind : Data → String
  | null => "NoneType"
  | bool _ => "bool"
  | int _ => "int"
  | float _ => "float"
  | complex _ _ => "complex"
  | text _ | codes _ => "str"
  | bytes _ => "bytes"
  | list _ => "list"
  | tuple _ => "tuple"
  | mapping _ => "dict"
  | view _ => "mappingproxy"
  | object _ => "Obj"
  | pattern _ _ _ => "re.Pattern"
  | date _ => "datetime.date"
  | moment _ => "datetime.datetime"
  | member _ _ .function => "builtin_function_or_method"
  | member _ _ .operator => "method-wrapper"
  | member _ _ .method => "builtin_method"
  | member _ _ .type => "type"
  | function _ _ _ => "Fn"

def shortKind : Data → String
  | pattern _ _ _ => "Pattern"
  | date _ => "date"
  | moment _ => "datetime"
  | v => v.kind

def ofCodes (ns : List Nat) : Data :=
  if ns.all Nat.isValidChar then text (.ofList (ns.map Char.ofNat)) else codes ns

theorem ofCodes_toNat (s : String) : ofCodes (s.toList.map Char.toNat) = text s := by
  have hvalid : (s.toList.map Char.toNat).all Nat.isValidChar := by
    simp only [List.all_map, List.all_eq_true]
    exact fun c _ => decide_eq_true c.valid
  rw [ofCodes, if_pos hvalid, Text.map_ofNat_toNat, String.ofList_toList]

def codes? : Data → Option (List Nat)
  | text s => some (s.toList.map Char.toNat)
  | codes ns => some ns
  | _ => none

/-- Zeros and empty values count as false, everything else as true. -/
def isTrue : Data → Bool
  | null => false
  | bool b => b
  | int n => n != 0
  | float x => !x.isZero
  | complex re im => !(re.isZero && im.isZero)
  | text s => !s.isEmpty
  | codes ns => !ns.isEmpty
  | bytes bs => !bs.isEmpty
  | list vs => !vs.isEmpty
  | tuple vs => !vs.isEmpty
  | mapping es | view es => !es.isEmpty
  | _ => true

def isNull : Data → Bool
  | null => true
  | _ => false

def isText : Data → Bool
  | text _ | codes _ => true
  | _ => false

def text? : Data → Option String
  | text s => some s
  | _ => none

def length? : Data → Option Nat
  | text s => some s.length
  | codes ns => some ns.length
  | bytes bs => some bs.length
  | list vs => some vs.length
  | tuple vs => some vs.length
  | mapping es | view es => some es.length
  | _ => none

/-- A boolean or whole number as an integer. -/
def whole? : Data → Option Int
  | bool b => some (if b then 1 else 0)
  | int n => some n
  | _ => none

end Data

end Assay
