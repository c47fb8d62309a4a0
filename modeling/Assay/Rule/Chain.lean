import Assay.Rule

/-! # Chains

Rules that depend on each other: each runs only when all before it have accepted the value.
-/

namespace Assay

structure Link where
  message : Data
  predicate : Predicate
  code : Data

namespace Link

def rule (l : Link) (path : Path) : Except Fault Rule :=
  Rule.ofPredicate path l.message l.predicate l.code .null

end Link

namespace Rule

def append (chain : Option Rule) (r : Rule) : Option Rule :=
  match chain with
  | none => some r
  | some c => some (c.andThen r)

/-- The chain of the links at a path; there is none without links. -/
def chain (path : Path) (links : List Link) : Except Fault (Option Rule) :=
  links.foldlM (fun c l => do pure (append c (← l.rule path))) none

def extend (seed : Rule) (links : List Link) : Except Fault Rule :=
  links.foldlM (fun r l => do pure (r.andThen (← l.rule ∅))) seed

end Rule

end Assay
