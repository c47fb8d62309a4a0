import Assay.Rule

/-! # Check constructors

A check constructor makes a rule from named arguments. It takes only the arguments it knows, and a
rule is refused when one of them has no meaning.
-/

namespace Assay

/-- Named arguments, in the order in which they are given. -/
abbrev Arguments := List (String × Data)

abbrev Check := Arguments → Except Fault Rule

namespace Arguments

def get? (as : Arguments) (name : String) : Option Data := as.lookup name

def getD (as : Arguments) (name : String) (default : Data) : Data := (as.get? name).getD default

/-- All arguments are among those that the function takes. -/
def expect (as : Arguments) (function : String) (known : List String) : Except Fault Unit :=
  match as.find? fun a => !known.contains a.1 with
  | some a => .error (.unexpectedArgument function a.1)
  | none => .ok ()

/-- The arguments that the entries of a mapping give; each must have a name. -/
def ofEntries (entries : List (Data × Data)) : Except Fault Arguments :=
  entries.mapM fun e => if e.1.isText then .ok (e.1.shown, e.2) else .error .argumentNotNamed

end Arguments

namespace Check

def custom (message code : Data) (p : Predicate) : Check := fun as => do
  as.expect "custom_check" ["message", "code"]
  Rule.make (as.getD "message" message) p (as.getD "code" code) .null

end Check

end Assay
