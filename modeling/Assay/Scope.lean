import Assay.Rule.Chain
import Assay.Registry
import Assay.Verdict

/-! # Scopes

A scope checks one value that stands at one path. It holds rules for the value itself and nested
checks of what belongs to it. Evaluating a scope runs all of them and keeps every issue, those of
the rules first.
-/

namespace Assay

structure Scope where
  path : Path
  /-- The label put on the issues of the scope's own rules; null is no label. -/
  label : Data
  rules : List Rule
  nested : List Rule

namespace Scope

def start (path : Path) (label : Data) : Scope := ⟨path, label, [], []⟩

/-- Add a rule, under the scope's label. -/
def attach (s : Scope) (r : Rule) : Scope :=
  { s with rules := s.rules ++ [if s.label.isNull then r else r.labelled s.label] }

def attachBare (s : Scope) (r : Rule) : Scope := { s with rules := s.rules ++ [r] }

def nest (s : Scope) (r : Rule) : Scope := { s with nested := s.nested ++ [r] }

def attachLocated (s : Scope) (r : Rule) (hasPredicate : Bool) : Except Fault Scope :=
  if hasPredicate then .error .predicateUnexpected else .ok (s.attach (r.located s.path))

/-- Add a rule with a message. A message that is no text would have to be a rule. -/
def attachInline (s : Scope) (message : Data) (p : Option Predicate) (code group : Data) :
    Except Fault Scope :=
  if message.isText then
    match p with
    | none => .error .predicateMissing
    | some p => do pure (s.attach (← Rule.ofPredicate s.path message p code group))
  else s.attachLocated (.uncallable message.kind) p.isSome

def outcomes (rules : List Rule) (v : Data) : Run (List (Validated Data)) :=
  rules.mapM fun r => r.run v

def summary (xs : List (Validated Data)) : Validated Data :=
  (Validated.combine xs).as .null

def evaluate (s : Scope) (v : Data) : Run (Validated Data) := do
  let own ← outcomes s.rules v
  let inner ← outcomes s.nested v
  pure (summary (own ++ inner))

/-- Read the value, once and first, and evaluate the scope on it. -/
def evaluateRead (s : Scope) (read : Run Data) : Run (Validated Data) := do
  s.evaluate (← read)

abbrev Configure := Scope → Run Scope

/-- Evaluate a scope that is filled for the occasion. -/
def check (configure : Configure) (path : Path) (label v : Data) : Run (Validated Data) := do
  (← configure (start path label)).evaluate v

/-- The outcomes of the items of a list from a position on. -/
def checkFrom (configure : Configure) (path : Path) (position : Nat) :
    List Data → Run (List (Validated Data))
  | [] => pure []
  | v :: rest => do
    let x ← check configure (path.index position) .null v
    pure (x :: (← checkFrom configure path (position + 1) rest))

def checkEach (configure : Configure) (path : Path) (v : Data) : Run (Validated Data) := do
  let items ← (v.items : Run (List Data))
  pure (summary (← checkFrom configure path 0 items))

end Scope

/-- Checks of a whole value, in the order in which they were declared, with their labels. -/
structure Validator where
  name : Data
  labels : List Data
  checks : List Rule

namespace Validator

def empty (name : Data) : Validator := ⟨name, [], []⟩

/-- The name of a validator that is declared by a function: its own, or else the function's. -/
def nameOr (name : Data) (function : String) : Data := if name.isTrue then name else .text function

def written (v : Validator) : Except Fault String := do
  pure s!"Validator(name={← v.name.write}, fields={v.labels.length})"

def register (v : Validator) (label : Data) (check : Rule) : Build Validator := do
  let shown ← ((if label.isTrue then label.spell else pure "<root>") : Build String)
  let owner ← (v.written : Build String)
  Build.report .debug s!"Registering validation for '{shown}' on {owner}"
  pure { v with labels := v.labels ++ [label], checks := v.checks ++ [check] }

def issues (checks : List Rule) (v : Data) : Run (List Issue) := do
  pure ((← Scope.outcomes checks v).flatMap Validated.issues)

def validate (w : Validator) (v : Data) : Run (Verdict Data) := do
  pure (.of v (← issues w.checks v))

end Validator

end Assay
