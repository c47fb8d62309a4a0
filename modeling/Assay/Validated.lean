import Assay.Issue.Record
import Assay.Traced

/-! # Outcomes

The outcome of a check: a value, or the issues that were found, of which there is at least one.
Outcomes are chained, so that a later check runs only on a valid outcome, or combined, so that the
issues of all of them are kept in order.
-/

namespace Assay

inductive Validated (α : Type)
  | valid (value : α)
  | invalid (issues : List Issue) (nonempty : issues ≠ [])

namespace Validated

variable {α β γ : Type} {m : Type → Type} [Monad m]

def isValid : Validated α → Bool
  | valid _ => true
  | invalid _ _ => false

def issues : Validated α → List Issue
  | valid _ => []
  | invalid is _ => is

/-- The invalid outcome with the given issues; having none is a fault. -/
def ofIssues (is : List Issue) : Except Fault (Validated α) :=
  if h : is = [] then .error (.noErrors "Invalid") else .ok (invalid is h)

/-- Invalid with the issues, if there are any, and valid otherwise. -/
def check (value : α) (is : List Issue) : Validated α :=
  if h : is = [] then valid value else invalid is h

def map (f : α → m β) : Validated α → m (Validated β)
  | valid a => do pure (valid (← f a))
  | invalid is h => pure (invalid is h)

/-- Continue a valid outcome; an invalid one stays as it is. -/
def andThen (x : Validated α) (f : α → m (Validated β)) : m (Validated β) :=
  match x with
  | valid a => f a
  | invalid is h => pure (invalid is h)

/-- Apply the function of one outcome to the value of another, keeping the issues of both. -/
def ap (f : Validated (α → m β)) (x : Validated α) : m (Validated β) :=
  match f, x with
  | valid f, valid a => do pure (valid (← f a))
  | valid _, invalid is h => pure (invalid is h)
  | invalid is h, valid _ => pure (invalid is h)
  | invalid is h, invalid js _ => pure (invalid (is ++ js) (by simp [h]))

def mapIssues (f : Issue → Issue) : Validated α → Validated α
  | valid a => valid a
  | invalid is h => invalid (is.map f) (by simp [h])

def as (value : β) : Validated α → Validated β
  | valid _ => valid value
  | invalid is h => invalid is h

def combine (xs : List (Validated α)) : Validated (List α) :=
  check (xs.filterMap fun
    | valid a => some a
    | invalid _ _ => none) (xs.flatMap issues)

end Validated

namespace Validated

def passed : Validated Data := valid .null

def eq : Validated Data → Validated Data → Bool
  | valid v, valid w => v.eq w
  | invalid is _, invalid js _ => Issue.eqList is js
  | _, _ => false

def unhashable? : Validated Data → Option String
  | valid v => v.unhashable?
  | invalid is _ => is.findSome? Issue.unhashable?

def written : Validated Data → Except Fault String
  | valid v => do pure s!"Valid({← v.write})"
  | invalid is _ => do
    let listed ← Issue.writtenList is
    pure s!"Invalid({listed})"

end Validated

end Assay
