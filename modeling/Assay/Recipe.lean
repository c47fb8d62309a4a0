import Assay.Registry
import Assay.Rule.Chain

/-! # Recipes of rules

How a rule is put together, as a tree. Building follows the tree from left to right, the parts
before the whole. A chain without links is no rule, which shows when it is used as one: a method is
looked for before its arguments are built, an operator after.
-/

namespace Assay

inductive Recipe
  /-- Reports at a path of its own. -/
  | predicate (path : Except Fault Path) (message : Data) (p : Predicate) (code group : Data)
  | rule (message : Data) (p : Predicate) (code group : Data)
  /-- A ready-made check with its arguments. -/
  | check (kind : Data) (arguments : Except Fault Arguments)
  /-- A function with one outcome, which is found when the rule is built. -/
  | function (mark : Option String) (outcome : Run (Validated Data))
  /-- A rule used as a function. -/
  | wrapped (inner : Recipe)
  | andThen (first second : Recipe)
  | combine (left right : Recipe)
  /-- The same as `combine`, written as an operator. -/
  | both (left right : Recipe)
  | forbid (inner : Recipe) (message code group : Data)
  | located (inner : Recipe) (path : Except Fault Path)
  | allOf (parts : List Recipe)
  | chain (path : Except Fault Path) (links : List Link)
  | extended (seed : Recipe) (links : List Link)

namespace Recipe

/-- The kind that messages give to rules. -/
def kindOf : Option Rule → String
  | some _ => "Rule"
  | none => Data.null.kind

def receiver (r : Option Rule) (method : String) : Except Fault Rule :=
  match r with
  | some r => .ok r
  | none => .error (.noAttribute Data.null.kind method)

def constant (mark : Option String) (x : Validated Data) : Rule :=
  ⟨fun _ => do
    Traced.mark mark
    pure x⟩

section

variable [Pattern.Edition]

mutual

def build (r : Recipe) : Run (Option Rule) :=
  match r with
  | predicate path message p code group => do
    let path ← (path : Run Path)
    let r ← (Rule.ofPredicate path message p code group : Run Rule)
    pure (some r)
  | rule message p code group => do
    let r ← (Rule.make message p code group : Run Rule)
    pure (some r)
  | check kind arguments => do
    let as ← (arguments : Run Arguments)
    let r ← (Registry.builtin.create kind as : Run Rule)
    pure (some r)
  | function mark outcome => do pure (some (constant mark (← outcome)))
  | wrapped inner => do pure (some (.ofOption (← inner.build)))
  | andThen first second => do
    let a ← (receiver (← first.build) "and_then" : Run Rule)
    let b ← second.build
    pure (some (a.andThen (.ofOption b)))
  | combine left right => do
    let a ← (receiver (← left.build) "combine" : Run Rule)
    let b ← right.build
    pure (some (a.combine (.ofOption b)))
  | both left right => do
    let a ← left.build
    let b ← right.build
    match a with
    | some a => pure (some (a.combine (.ofOption b)))
    | none => throw (.noOperation "&" (kindOf a) (kindOf b))
  | forbid inner message code group => do
    let a ← (receiver (← inner.build) "is_forbidden" : Run Rule)
    let r ← (a.forbid message code group : Run Rule)
    pure (some r)
  | located inner path => do
    let a ← (receiver (← inner.build) "at" : Run Rule)
    let path ← (path : Run Path)
    pure (some (a.located path))
  | allOf parts => do
    let rs ← buildAll parts
    pure (some (.allOf (rs.map Rule.ofOption)))
  | chain path links => do
    let path ← (path : Run Path)
    (Rule.chain path links : Run (Option Rule))
  | extended seed links => do
    let a ← seed.build
    if links.isEmpty then pure a
    else
      let a ← (receiver a "and_then" : Run Rule)
      let r ← (a.extend links : Run Rule)
      pure (some r)
termination_by structural r

def buildAll (rs : List Recipe) : Run (List (Option Rule)) :=
  match rs with
  | [] => pure []
  | r :: rest => do
    let a ← r.build
    pure (a :: (← buildAll rest))
termination_by structural rs

end

end

end Recipe

end Assay
