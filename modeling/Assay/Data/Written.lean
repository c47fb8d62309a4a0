import Assay.Data
import Assay.Binary64.Shortest
import Assay.Text.Quoted

/-! # The written form of values

`Data.written` shows a value unambiguously, with quotes around text; `Data.shown` is the same but
for text itself, which it leaves bare.
-/

namespace Assay

def Operation.name : Operation → String
  | identity => "identity"
  | increment => "inc"
  | uppercase => "upper"
  | measure => "len"
  | wrap => "wrap"
  | constant => "const"
  | refuse _ => "raise"

namespace Data

def commaSeparated (parts : List String) : String := ", ".intercalate parts

/-- A complex number: the imaginary part alone when the real part is a positive zero. -/
def writtenComplex (re im : Binary64) : String :=
  let i := im.partText
  if re == .zero false then i ++ "j"
  else
    let signed := if i.startsWith "-" then i else "+" ++ i
    "(" ++ re.partText ++ signed ++ "j)"

/-- The names of the flags that are in force, apart from the one for Unicode, which is implied. -/
def flagNames (f : Pattern.Flags) : List String :=
  let shown (b : Bool) (name : String) : List String := if b then ["re." ++ name] else []
  shown f.template "TEMPLATE" ++ shown f.ignoreCase "IGNORECASE" ++ shown f.multiLine "MULTILINE"
    ++ shown f.dotAll "DOTALL" ++ shown f.verbose "VERBOSE" ++ shown f.ascii "ASCII"

/-- A pattern in its written form, whose source is cut after 200 characters. -/
def writtenPattern (source : String) (f : Pattern.Flags) : String :=
  let q := String.ofList ((Text.quoted source).toList.take 200)
  let names := flagNames f
  "re.compile(" ++ q ++ (if names.isEmpty then "" else ", " ++ "|".intercalate names) ++ ")"

mutual

def written (v : Data) : String :=
  match v with
  | null => "None"
  | bool b => if b then "True" else "False"
  | int n => toString n
  | float x => x.toText
  | complex re im => writtenComplex re im
  | text s => Text.quoted s
  | codes ns => Text.quotedCodes ns
  | bytes bs => Text.quotedBytes bs
  | list vs => "[" ++ commaSeparated (writtenItems vs) ++ "]"
  | tuple vs =>
    match writtenItems vs with
    | [one] => "(" ++ one ++ ",)"
    | parts => "(" ++ commaSeparated parts ++ ")"
  | mapping es => "\x7b" ++ commaSeparated (writtenEntries es) ++ "\x7d"
  | view es => "mappingproxy(\x7b" ++ commaSeparated (writtenEntries es) ++ "\x7d)"
  | object as => "Obj(" ++ commaSeparated (writtenAttributes as) ++ ")"
  | pattern p f _ => writtenPattern p f
  | date d => d.written
  | moment t => t.written
  | member _ name _ => "<" ++ name ++ ">"
  | function f _ _ => "<fn " ++ f.name ++ ">"
termination_by structural v

def writtenItems (vs : List Data) : List String :=
  match vs with
  | [] => []
  | v :: rest => v.written :: writtenItems rest
termination_by structural vs

def writtenEntries (es : List (Data × Data)) : List String :=
  match es with
  | [] => []
  | (k, v) :: rest => (k.written ++ ": " ++ v.written) :: writtenEntries rest
termination_by structural es

def writtenAttributes (as : List (String × Data)) : List String :=
  match as with
  | [] => []
  | (k, v) :: rest => (k ++ "=" ++ v.written) :: writtenAttributes rest
termination_by structural as

end

def shown : Data → String
  | text s => s
  | codes ns => Text.ofCodes ns
  | date d => d.toText
  | moment t => t.toText
  | v => v.written

end Data

end Assay
