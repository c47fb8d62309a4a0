import Assay.Proofs.Run
import Assay.Scope.Step

/-! # Traversals

A program of a scope as the flat list of what happens when it is run on a
value: steps that are carried out, values that are read, and sites where
something is checked. The list is read off the program and the value alone,
and running it from the left ends at the first fault.
-/

namespace Assay

/-- A value that is checked, the path at which it is reported, and what the check finds. -/
structure Site where
  path : Path
  value : Data
  findings : Run (List Issue)

namespace Site

/-- How an issue of an attached rule is reported. -/
def stamp (path : Path) (label : Data) (i : Issue) : Issue where
  path := if i.path.isEmpty then path else i.path
  message := i.message
  code := i.code
  group := if label.isNull then i.group else label

def ofPredicate (path : Path) (label v message code group : Data) (p : Predicate) : Site :=
  ⟨path, v, do
    if ← p v then pure []
    else pure [⟨path, message, code, if label.isNull then group else label⟩]⟩

def ofRule (path : Path) (label v : Data) (r : Rule) : Site :=
  ⟨path, v, do pure ((← r.run v).issues.map (stamp path label))⟩

/-- The issue of the first link that refuses the value; the links behind it are not asked. -/
def firstRefusal (path : Path) (v : Data) : List Link → Run (List Issue)
  | [] => pure []
  | l :: rest => do
    if ← l.predicate v then firstRefusal path v rest
    else pure [⟨path, l.message, l.code, .null⟩]

def ofLinks (path : Path) (v : Data) (links : List Link) : Site :=
  ⟨path, v, firstRefusal path v links⟩

def under (path : Path) (s : Site) : Site :=
  ⟨path.join s.path, s.value, do pure ((← s.findings).map (Scope.reparent path))⟩

end Site

/-- What happens at one moment of a traversal. -/
inductive Visit
  /-- A step of a block is carried out. -/
  | declare (made : Run Unit)
  /-- The value of a scope, or a field of its owner, is read. -/
  | read (owner : Option Data) (found : Run Data)
  /-- The items of a value are listed. -/
  | list (owner : Data)
  | check (site : Site)

namespace Visit

def run : Visit → Run (List Issue)
  | declare made => do
    made
    pure []
  | read _ found => do
    let _ ← found
    pure []
  | list owner => do
    let _ ← Traced.ofExcept owner.items
    pure []
  | check s => s.findings

/-- Make the visits in order and keep what they find. -/
def runAll : List Visit → Run (List Issue)
  | [] => pure []
  | x :: rest => do
    let is ← x.run
    let js ← runAll rest
    pure (is ++ js)

def under (path : Path) : Visit → Visit
  | check s => check (s.under path)
  | x => x

def ofRead (owner : Option Data) (found : Run Data) (visits : Data → List Visit) : List Visit :=
  .read owner found ::
    match found.result with
    | .ok v => visits v
    | .error _ => []

def ofItems (owner : Data) (visits : Nat → Data → List Visit) : List Visit :=
  .list owner ::
    match owner.items with
    | .ok vs => vs.zipIdx.flatMap fun e => visits e.2 e.1
    | .error _ => []

end Visit

namespace Step

def ensureWorded (message : Data) : Except Fault Unit :=
  if message.isTrue then .ok () else .error .emptyMessage

def ensureReadable (name : Data) (getter : Option Getter) : Except Fault Unit := do
  if getter.isNone then
    let _ ← name.spell

def refusePredicate (p : Option Predicate) : Except Fault Unit :=
  if p.isSome then .error .predicateUnexpected else .ok ()

end Step

namespace Declaration

def ensureShown (owner label : Data) : Except Fault Unit := do
  if label.isTrue then
    let _ ← label.spell
  let _ ← owner.write

/-- What carrying out a declaration of a validator does; `owner` names the validator. -/
def made (owner : Data) : Declaration → Except Fault Unit
  | .root _ => ensureShown owner (.text "")
  | .field name getter _ => do
    Step.ensureReadable name getter
    let _ ← Validator.fieldPath name
    ensureShown owner name
  | .fieldItems name getter _ => do
    Step.ensureReadable name getter
    let _ ← Validator.fieldPath name
    let shown ← name.spell
    ensureShown owner (.text (shown ++ "[]"))

end Declaration

namespace Step

/-- What carrying out a step does before anything is checked. -/
def made : Step → Run Unit
  | .rule message p _ _ =>
    if message.isText then
      match p with
      | some _ => .ofExcept (ensureWorded message)
      | none => .fail .predicateMissing
    else .ofExcept (refusePredicate p)
  | .attach source p => do
    let _ ← source
    .ofExcept (refusePredicate p)
  | .field name getter _ | .fieldItems name getter _ => .ofExcept (ensureReadable name getter)
  | .dependent links => .ofExcept (forM links fun l => ensureWorded l.message)
  | .use name declarations => .ofExcept (forM declarations (Declaration.made name))
  | .items _ | .unlessNull _ | .ruleIfPresent _ _ _ _ | .group _ _ => pure ()

/-- The sites of a step on the value of its own scope. -/
def sites (t : Step) (path : Path) (label v : Data) : List Site :=
  match t with
  | .rule message p code tag =>
    if message.isText then (p.map (.ofPredicate path label v message code tag)).toList
    else [.ofRule path label v (.uncallable message.kind)]
  | .attach source _ =>
    match source.result with
    | .ok r => [.ofRule path label v (.ofOption r)]
    | .error _ => []
  | .dependent links => if links.isEmpty then [] else [.ofLinks path v links]
  | _ => []

/-- What the sites of a step check on the value. -/
inductive Sited (path : Path) (label v : Data) : Step → Site → Prop
  | rule {message : Data} (p : Predicate) (code tag : Data) : message.isText →
    Sited path label v (.rule message (some p) code tag)
      (.ofPredicate path label v message code tag p)
  | uncallable {message : Data} (p : Option Predicate) (code tag : Data) : ¬ message.isText →
    Sited path label v (.rule message p code tag) (.ofRule path label v (.uncallable message.kind))
  | attached {source : Run (Option Rule)} {r : Option Rule} (p : Option Predicate) :
    source.result = .ok r →
    Sited path label v (.attach source p) (.ofRule path label v (.ofOption r))
  | links (links : List Link) : Sited path label v (.dependent links) (.ofLinks path v links)

theorem sited_of_mem {t : Step} {path : Path} {label v : Data} {s : Site}
    (h : s ∈ t.sites path label v) : Sited path label v t s := by
  cases t with
  | rule message p code tag =>
    simp only [sites] at h
    split at h
    · next htext =>
      cases p with
      | none => cases h
      | some p =>
        obtain rfl := List.mem_singleton.mp h
        exact .rule p code tag htext
    · next htext =>
      obtain rfl := List.mem_singleton.mp h
      exact .uncallable p code tag htext
  | attach source p =>
    simp only [sites] at h
    split at h
    · next r hr =>
      obtain rfl := List.mem_singleton.mp h
      exact .attached p hr
    · cases h
  | dependent links =>
    simp only [sites] at h
    split at h
    · cases h
    · obtain rfl := List.mem_singleton.mp h
      exact .links links
  | _ => cases h

def readField (name : Data) (getter : Option Getter) (owner : Data) : Run Data :=
  match getter with
  | some g => g owner
  | none => .ofExcept (Data.field name owner)

/-- The visits of a block on a value: its steps are carried out, then what they check on the value
itself, then `inner`. -/
def around (block : List Step) (path : Path) (label v : Data) (inner : List Visit) : List Visit :=
  block.map (fun t => .declare t.made) ++
    ((block.flatMap fun t => t.sites path label v).map .check ++ inner)

end Step

mutual

/-- The visits of a step below its own scope, in the place of the step. -/
def Step.inner (t : Step) (path : Path) (label v : Data) : List Visit :=
  match t with
  | .field name getter block =>
    Visit.ofRead (some v) (Step.readField name getter v) fun w =>
      Step.around block (path.child name) .null w (Step.innerAll block (path.child name) .null w)
  | .fieldItems name getter block =>
    Visit.ofRead (some v) (Step.readField name getter v) fun w =>
      Visit.ofItems w fun i u =>
        Step.around block ((path.child name).index i) .null u
          (Step.innerAll block ((path.child name).index i) .null u)
  | .items block =>
    Visit.ofItems v fun i u =>
      Step.around block (path.index i) .null u (Step.innerAll block (path.index i) .null u)
  | .unlessNull block =>
    if v.isNull then [] else Step.around block path label v (Step.innerAll block path label v)
  | .ruleIfPresent message p code group =>
    if v.isNull then [] else Step.around [.rule message p code group] path label v []
  | .group label block => Step.around block path label v (Step.innerAll block path label v)
  | .use _ declarations => (Declaration.visitsAll declarations v).map (Visit.under path)
  | .rule _ _ _ _ | .attach _ _ | .dependent _ => []
termination_by structural t

def Step.innerAll (block : List Step) (path : Path) (label v : Data) : List Visit :=
  match block with
  | [] => []
  | t :: rest => t.inner path label v ++ Step.innerAll rest path label v
termination_by structural block

/-- The visits of a declaration, at paths that begin with the validated value. -/
def Declaration.visits (d : Declaration) (v : Data) : List Visit :=
  match d with
  | .root block => Step.around block ∅ .null v (Step.innerAll block ∅ .null v)
  | .field name getter block =>
    match Validator.fieldPath name with
    | .ok path =>
      Visit.ofRead (some v) (Step.readField name getter v) fun w =>
        Step.around block path .null w (Step.innerAll block path .null w)
    | .error _ => []
  | .fieldItems name getter block =>
    match Validator.fieldPath name with
    | .ok path =>
      Visit.ofRead (some v) (Step.readField name getter v) fun w =>
        Visit.ofItems w fun i u =>
          Step.around block (path.index i) .null u (Step.innerAll block (path.index i) .null u)
    | .error _ => []
termination_by structural d

def Declaration.visitsAll (ds : List Declaration) (v : Data) : List Visit :=
  match ds with
  | [] => []
  | d :: rest => d.visits v ++ Declaration.visitsAll rest v
termination_by structural ds

end

namespace Step

def visits (block : List Step) (path : Path) (label v : Data) : List Visit :=
  around block path label v (innerAll block path label v)

/-- The visits of a scope whose value is yet to be read: the block is carried out on the scope, and
the value is read once before anything is checked. -/
def visitsRead (block : List Step) (path : Path) (label : Data) (read : Run Data) : List Visit :=
  block.map (fun t => .declare t.made) ++
    Visit.ofRead none read fun v =>
      (block.flatMap fun t => t.sites path label v).map .check ++ innerAll block path label v

theorem reader_eq (name : Data) (getter : Option Getter) :
    reader name getter = (do
      ensureReadable name getter
      pure (readField name getter)) := by
  cases getter with
  | some g => rfl
  | none =>
    unfold reader ensureReadable
    cases name.spell <;> rfl

theorem apply_field (name : Data) (getter : Option Getter) (block : List Step) (s : Scope) :
    (Step.field name getter block).apply s = (do
      made (.field name getter block)
      pure (s.nest ⟨fun v => do
        Scope.check (applyAll block) (s.path.child name) .null (← readField name getter v)⟩)) := by
  simp only [apply, made, Scope.nestField, reader_eq, Traced.liftM_eq_ofExcept,
    Traced.ofExcept_bind, bind_assoc]
  rfl

theorem apply_fieldItems (name : Data) (getter : Option Getter) (block : List Step) (s : Scope) :
    (Step.fieldItems name getter block).apply s = (do
      made (.fieldItems name getter block)
      pure (s.nest ⟨fun v => do
        Scope.checkEach (applyAll block) (s.path.child name) (← readField name getter v)⟩)) := by
  simp only [apply, made, Scope.nestFieldItems, reader_eq, Traced.liftM_eq_ofExcept,
    Traced.ofExcept_bind, bind_assoc]
  rfl

end Step

end Assay
