import Assay.Scope

/-! # Programs of scopes and validators

What a scope is to check is declared by steps, and what a validator is to check by declarations.
Both nest: a step may hold the steps of an inner scope, or the declarations of a validator. The
steps of an inner scope are carried out each time that a value is checked.
-/

namespace Assay

mutual

inductive Step
  /-- A rule with a message of its own. -/
  | rule (message : Data) (predicate : Option Predicate) (code group : Data)
  /-- A rule made elsewhere; the making is repeated whenever the step is carried out. -/
  | attach (source : Run (Option Rule)) (predicate : Option Predicate)
  /-- Check a field of the value. -/
  | field (name : Data) (getter : Option Getter) (block : List Step)
  /-- Check every item of a field of the value. -/
  | fieldItems (name : Data) (getter : Option Getter) (block : List Step)
  /-- Check every item of the value itself. -/
  | items (block : List Step)
  /-- Check the value unless it is null. -/
  | unlessNull (block : List Step)
  /-- A rule that is skipped on null. -/
  | ruleIfPresent (message : Data) (predicate : Option Predicate) (code group : Data)
  /-- Rules each of which runs only when those before it have passed. -/
  | dependent (links : List Link)
  /-- Check the value with a label on the issues of the block's own rules. -/
  | group (label : Data) (block : List Step)
  /-- Leave the value to a validator. -/
  | use (name : Data) (declarations : List Declaration)

/-- A declaration of a validator. -/
inductive Declaration
  | root (block : List Step)
  | field (name : Data) (getter : Option Getter) (block : List Step)
  | fieldItems (name : Data) (getter : Option Getter) (block : List Step)

end

namespace Step

/-- How a field is read: by the getter given, or else by its name, which must be one that can be
written. -/
def reader (name : Data) (getter : Option Getter) : Except Fault Getter :=
  match getter with
  | some g => .ok g
  | none => do
    let _ ← name.spell
    pure fun owner => Data.field name owner

end Step

namespace Scope

def nestField (s : Scope) (name : Data) (getter : Option Getter) (c : Configure) :
    Except Fault Scope := do
  let read ← Step.reader name getter
  pure (s.nest ⟨fun v => do check c (s.path.child name) .null (← read v)⟩)

def nestFieldItems (s : Scope) (name : Data) (getter : Option Getter) (c : Configure) :
    Except Fault Scope := do
  let read ← Step.reader name getter
  pure (s.nest ⟨fun v => do checkEach c (s.path.child name) (← read v)⟩)

def nestItems (s : Scope) (c : Configure) : Scope :=
  s.nest ⟨fun v => checkEach c s.path v⟩

def nestUnlessNull (s : Scope) (c : Configure) : Scope :=
  s.nest ⟨fun v => if v.isNull then pure .passed else check c s.path s.label v⟩

def nestGroup (s : Scope) (label : Data) (c : Configure) : Scope :=
  s.nest ⟨fun v => check c s.path label v⟩

def attachChain (s : Scope) (links : List Link) : Except Fault Scope := do
  match ← Rule.chain s.path links with
  | some r => pure (s.attachBare r)
  | none => pure s

/-- Put an issue found by a validator under the path where the validator is used. -/
def reparent (path : Path) (i : Issue) : Issue := i.withPath (path.join i.path)

def nestValidator (s : Scope) (w : Validator) : Scope :=
  s.nest ⟨fun v => do pure ((← w.validate v).toValidated.mapIssues (reparent s.path))⟩

end Scope

namespace Validator

/-- The path of a field, whose name may also be a position. -/
def fieldPath (name : Data) : Except Fault Path := Path.ofItems [name]

def declareRoot (w : Validator) (c : Scope.Configure) : Build Validator :=
  w.register (.text "") ⟨fun v => Scope.check c ∅ .null v⟩

def declareField (w : Validator) (name : Data) (getter : Option Getter) (c : Scope.Configure) :
    Build Validator := do
  let read ← (Step.reader name getter : Build Getter)
  let path ← (fieldPath name : Build Path)
  w.register name ⟨fun v => do Scope.check c path .null (← read v)⟩

def declareItems (w : Validator) (name : Data) (getter : Option Getter) (c : Scope.Configure) :
    Build Validator := do
  let read ← (Step.reader name getter : Build Getter)
  let path ← (fieldPath name : Build Path)
  let shown ← (name.spell : Build String)
  w.register (.text (shown ++ "[]")) ⟨fun v => do Scope.checkEach c path (← read v)⟩

end Validator

mutual

def Step.apply (t : Step) (s : Scope) : Run Scope :=
  match t with
  | .rule message p code group => (s.attachInline message p code group : Run Scope)
  | .attach source p => do
    let r ← source
    s.attachLocated (.ofOption r) p.isSome
  | .field name getter block =>
    (s.nestField name getter (fun s => Step.applyAll block s) : Run Scope)
  | .fieldItems name getter block =>
    (s.nestFieldItems name getter (fun s => Step.applyAll block s) : Run Scope)
  | .items block => pure (s.nestItems (fun s => Step.applyAll block s))
  | .unlessNull block => pure (s.nestUnlessNull (fun s => Step.applyAll block s))
  | .ruleIfPresent message p code group =>
    pure (s.nestUnlessNull fun s => (s.attachInline message p code group : Run Scope))
  | .dependent links => (s.attachChain links : Run Scope)
  | .group label block => pure (s.nestGroup label (fun s => Step.applyAll block s))
  | .use name declarations => do
    let w ← (Declaration.applyAll declarations (Validator.empty name)).result
    pure (s.nestValidator w)
termination_by structural t

def Step.applyAll (ts : List Step) (s : Scope) : Run Scope :=
  match ts with
  | [] => pure s
  | t :: rest => do Step.applyAll rest (← t.apply s)
termination_by structural ts

def Declaration.apply (d : Declaration) (w : Validator) : Build Validator :=
  match d with
  | .root block => w.declareRoot (fun s => Step.applyAll block s)
  | .field name getter block => w.declareField name getter (fun s => Step.applyAll block s)
  | .fieldItems name getter block => w.declareItems name getter (fun s => Step.applyAll block s)
termination_by structural d

def Declaration.applyAll (ds : List Declaration) (w : Validator) : Build Validator :=
  match ds with
  | [] => pure w
  | d :: rest => do Declaration.applyAll rest (← d.apply w)
termination_by structural ds

end

namespace Validator

def ofDeclarations (name : Data) (ds : List Declaration) : Build Validator :=
  Declaration.applyAll ds (empty name)

end Validator

end Assay
