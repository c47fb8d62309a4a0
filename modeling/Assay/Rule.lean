import Assay.Callable
import Assay.Validated

/-! # Rules

A rule checks a value and reports what is wrong with it. Rules are made from predicates and put
together: one after the other, side by side, or turned into their opposite.
-/

namespace Assay

structure Rule where
  run : Data → Run (Validated Data)

namespace Rule

def accepting : Rule := ⟨fun _ => pure .passed⟩

def single (i : Issue) : Validated Data := .invalid [i] (by simp)

/-- Reports the issue on the values that the predicate refuses. -/
def ofIssue (i : Issue) (p : Predicate) : Rule :=
  ⟨fun v => do if ← p v then pure .passed else pure (single i)⟩

def ofPredicate (path : Path) (message : Data) (p : Predicate) (code group : Data) :
    Except Fault Rule := do
  pure (ofIssue (← Issue.make path message code group) p)

/-- A rule for any place, which reports at the empty path. -/
def make (message : Data) (p : Predicate) (code group : Data) : Except Fault Rule :=
  ofPredicate ∅ message p code group

/-- What is used as a rule but is none fails when it is run. -/
def uncallable (kind : String) : Rule := ⟨fun _ => throw (.notCallable kind)⟩

def ofOption (r : Option Rule) : Rule := r.getD (uncallable Data.null.kind)

/-- Run the second rule only on what the first one accepts. -/
def andThen (r s : Rule) : Rule :=
  ⟨fun v => do (← r.run v).andThen fun _ => s.run v⟩

/-- Run both rules and keep the issues of both. -/
def combine (r s : Rule) : Rule :=
  ⟨fun v => do
    let x ← r.run v
    let y ← s.run v
    pure (.check .null (x.issues ++ y.issues))⟩

/-- Refuse what the rule accepts, with the given issue, and accept what it refuses. -/
def forbidding (r : Rule) (i : Issue) : Rule :=
  ⟨fun v => do if (← r.run v).isValid then pure (single i) else pure .passed⟩

def forbid (r : Rule) (message code group : Data) : Except Fault Rule := do
  pure (r.forbidding (← Issue.make ∅ message code group))

/-- Move an issue to a path if it has none. -/
def settle (path : Path) (i : Issue) : Issue := if i.path.isEmpty then i.withPath path else i

/-- Report at a path what the rule reports at the empty one. -/
def located (r : Rule) (path : Path) : Rule :=
  ⟨fun v => do pure ((← r.run v).mapIssues (settle path))⟩

def labelled (r : Rule) (label : Data) : Rule :=
  ⟨fun v => do pure ((← r.run v).mapIssues (·.withGroup label))⟩

def allOf (rs : List Rule) : Rule := rs.foldl combine accepting

end Rule

end Assay
