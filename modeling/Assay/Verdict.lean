import Assay.Validated

/-! # Verdicts

What validating a whole value ends with: the value itself when it is accepted, or the issues that
were found. Steps that follow run on one of the two sides only.
-/

namespace Assay

inductive Verdict (α : Type)
  | accepted (value : α)
  | rejected (issues : List Issue) (nonempty : issues ≠ [])

namespace Verdict

variable {α β : Type} {m : Type → Type} [Monad m]

def isAccepted : Verdict α → Bool
  | accepted _ => true
  | rejected _ _ => false

def issues : Verdict α → List Issue
  | accepted _ => []
  | rejected is _ => is

/-- The verdict on a value in which the given issues were found. -/
def of (value : α) (is : List Issue) : Verdict α :=
  if h : is = [] then accepted value else rejected is h

def ofIssues (is : List Issue) : Except Fault (Verdict α) :=
  if h : is = [] then .error (.noErrors "InvalidResult") else .ok (rejected is h)

def ofValidated (value : α) (x : Validated β) : Verdict α := of value x.issues

def toValidated : Verdict α → Validated Data
  | accepted _ => .passed
  | rejected is h => .invalid is h

def map (f : α → m β) : Verdict α → m (Verdict β)
  | accepted a => do pure (accepted (← f a))
  | rejected is h => pure (rejected is h)

def andThen (x : Verdict α) (f : α → m (Verdict β)) : m (Verdict β) :=
  match x with
  | accepted a => f a
  | rejected is h => pure (rejected is h)

/-- Run an action on the value of an accepted verdict, which stays as it is. -/
def onAccepted (action : α → m Unit) : Verdict α → m (Verdict α)
  | accepted a => do action a; pure (accepted a)
  | rejected is h => pure (rejected is h)

def onRejected (action : List Issue → m Unit) : Verdict α → m (Verdict α)
  | accepted a => pure (accepted a)
  | rejected is h => do action is; pure (rejected is h)

def value? : Verdict α → Option α
  | accepted a => some a
  | rejected _ _ => none

def valueOr (default : Unit → m α) : Verdict α → m α
  | accepted a => pure a
  | rejected _ _ => default ()

/-- The value, or the fault of a rejection. -/
def value : Verdict α → Except Fault α
  | accepted a => .ok a
  | rejected is _ => do throw (← Issue.rejection is)

def ensureAccepted (x : Verdict α) : Except Fault Unit := do
  let _ ← x.value

def toData (x : Verdict α) : Except Fault Data := do
  pure (.mapping [(.text "valid", .bool x.isAccepted),
    (.text "errors", .list (← x.issues.mapM Issue.toData))])

end Verdict

namespace Verdict

def eq : Verdict Data → Verdict Data → Bool
  | accepted v, accepted w => v.eq w
  | rejected is _, rejected js _ => Issue.eqList is js
  | _, _ => false

def unhashable? : Verdict Data → Option String
  | accepted v => v.unhashable?
  | rejected is _ => is.findSome? Issue.unhashable?

def written : Verdict Data → Except Fault String
  | accepted v => do pure s!"ValidResult({← v.write})"
  | rejected is _ => do
    let listed ← Issue.writtenList is
    pure s!"InvalidResult({listed})"

end Verdict

end Assay
