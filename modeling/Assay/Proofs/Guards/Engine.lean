import Assay.Proofs.Assembly

/-! # Evaluation with guards

Issues, outcomes, verdicts and paths have constructors that refuse an issue
without a message, an outcome or a verdict without issues, and a position below
zero. The evaluation as it is given here makes everything by them, each time
that issues are moved, labelled or gathered.
-/

namespace Assay

def Issue.remake (i : Issue) : Except Fault Issue := make i.path i.message i.code i.group

def Validated.remake {α : Type} : Validated α → Except Fault (Validated α)
  | valid a => .ok (valid a)
  | invalid is _ => do ofIssues (← is.mapM Issue.remake)

def Verdict.remake {α : Type} : Verdict α → Except Fault (Verdict α)
  | accepted a => .ok (accepted a)
  | rejected is _ => do ofIssues (← is.mapM Issue.remake)

/-- The path of the item at a position, which must not be negative. -/
def Path.item (p : Path) (position : Int) : Except Fault Path := do
  pure (p.join (← ofItems [.int position]))

/-- The rule all outcomes of which are made by their constructors. -/
def Rule.remade (r : Rule) : Rule :=
  ⟨fun v => do
    let x ← r.run v
    (x.remake : Run (Validated Data))⟩

/-- The second rule is put together as the first one is, from the same functions, and all outcomes
of it and of its parts are made by their constructors. -/
inductive Rule.Rebuilt (R : Fault → Prop) : Rule → Rule → Prop
  | function {r : Rule} : r.Ends Issue.IsWorded R → Rebuilt R r r.remade
  | predicate {path : Path} {message code group : Data} {p : Predicate} {r : Rule} :
    (∀ v, FailsOnly (p v).result R) → ofPredicate path message p code group = .ok r →
    Rebuilt R r r.remade
  | andThen {r r' s s' : Rule} : Rebuilt R r r' → Rebuilt R s s' →
    Rebuilt R (r.andThen s) (r'.andThen s').remade
  | combine {r r' s s' : Rule} : Rebuilt R r r' → Rebuilt R s s' →
    Rebuilt R (r.combine s) (r'.combine s').remade
  | forbid {r r' s s' : Rule} {message code group : Data} : Rebuilt R r r' →
    r.forbid message code group = .ok s → r'.forbid message code group = .ok s' →
    Rebuilt R s s'.remade
  | located {r r' : Rule} {path : Path} : Rebuilt R r r' →
    Rebuilt R (r.located path) (r'.located path).remade

namespace Guarded

def attach (s : Scope) (r : Rule) : Scope :=
  { s with rules := s.rules ++ [if s.label.isNull then r else (r.labelled s.label).remade] }

def attachLocated (s : Scope) (r : Rule) (hasPredicate : Bool) : Except Fault Scope :=
  if hasPredicate then .error .predicateUnexpected else .ok (attach s (r.located s.path).remade)

def attachInline (s : Scope) (message : Data) (p : Option Predicate) (code group : Data) :
    Except Fault Scope :=
  if message.isText then
    match p with
    | none => .error .predicateMissing
    | some p => do
      let r ← Rule.ofPredicate s.path message p code group
      pure (attach s r.remade)
  else attachLocated s (.uncallable message.kind) p.isSome

def attachChain (s : Scope) (links : List Link) : Except Fault Scope := do
  match ← links.foldlM (fun c l => do pure (Rule.append c (← l.rule s.path).remade)) none with
  | some r => pure (s.attachBare r)
  | none => pure s

/-- Gather what the rules of a scope find in one outcome, made by its constructor. -/
def evaluate (s : Scope) (v : Data) : Run (Validated Data) := do
  let x ← s.evaluate v
  x.remake

def check (configure : Scope.Configure) (path : Path) (label v : Data) :
    Run (Validated Data) := do
  evaluate (← configure (.start path label)) v

def checkFrom (configure : Scope.Configure) (path : Path) (position : Nat) :
    List Data → Run (List (Validated Data))
  | [] => pure []
  | v :: rest => do
    let place ← (path.item position : Run Path)
    let x ← check configure place .null v
    pure (x :: (← checkFrom configure path (position + 1) rest))

def checkEach (configure : Scope.Configure) (path : Path) (v : Data) : Run (Validated Data) := do
  let items ← (v.items : Run (List Data))
  let xs ← checkFrom configure path 0 items
  (Scope.summary xs).remake

def validate (w : Validator) (v : Data) : Run (Verdict Data) := do
  let x ← w.validate v
  x.remake

/-- What a scope finds by a validator, put under the path of the scope. -/
def reparented (s : Scope) (w : Validator) (v : Data) : Run (Validated Data) := do
  let x ← validate w v
  (x.toValidated.mapIssues (Scope.reparent s.path)).remake

mutual

def applyStep (t : Step) (s : Scope) : Run Scope :=
  match t with
  | .rule message p code group => (attachInline s message p code group : Run Scope)
  | .attach source p => do
    let r ← source
    attachLocated s (.ofOption r) p.isSome
  | .field name getter block => do
    let read ← (Step.reader name getter : Run Getter)
    pure (s.nest ⟨fun v => do
      check (fun s => applySteps block s) (s.path.child name) .null (← read v)⟩)
  | .fieldItems name getter block => do
    let read ← (Step.reader name getter : Run Getter)
    pure (s.nest ⟨fun v => do
      checkEach (fun s => applySteps block s) (s.path.child name) (← read v)⟩)
  | .items block => pure (s.nest ⟨fun v => checkEach (fun s => applySteps block s) s.path v⟩)
  | .unlessNull block =>
    pure (s.nest ⟨fun v =>
      if v.isNull then pure .passed else check (fun s => applySteps block s) s.path s.label v⟩)
  | .ruleIfPresent message p code group =>
    pure (s.nest ⟨fun v =>
      if v.isNull then pure .passed
      else check (fun s => (attachInline s message p code group : Run Scope)) s.path s.label v⟩)
  | .dependent links => (attachChain s links : Run Scope)
  | .group label block =>
    pure (s.nest ⟨fun v => check (fun s => applySteps block s) s.path label v⟩)
  | .use name declarations => do
    let w ← (applyDeclarations declarations (Validator.empty name)).result
    pure (s.nest ⟨reparented s w⟩)
termination_by structural t

def applySteps (ts : List Step) (s : Scope) : Run Scope :=
  match ts with
  | [] => pure s
  | t :: rest => do applySteps rest (← applyStep t s)
termination_by structural ts

def applyDeclaration (d : Declaration) (w : Validator) : Build Validator :=
  match d with
  | .root block => w.register (.text "") ⟨fun v => check (fun s => applySteps block s) ∅ .null v⟩
  | .field name getter block => do
    let read ← (Step.reader name getter : Build Getter)
    let path ← (Validator.fieldPath name : Build Path)
    w.register name ⟨fun v => do check (fun s => applySteps block s) path .null (← read v)⟩
  | .fieldItems name getter block => do
    let read ← (Step.reader name getter : Build Getter)
    let path ← (Validator.fieldPath name : Build Path)
    let shown ← (name.spell : Build String)
    w.register (.text (shown ++ "[]")) ⟨fun v => do
      checkEach (fun s => applySteps block s) path (← read v)⟩
termination_by structural d

def applyDeclarations (ds : List Declaration) (w : Validator) : Build Validator :=
  match ds with
  | [] => pure w
  | d :: rest => do applyDeclarations rest (← applyDeclaration d w)
termination_by structural ds

end

def evaluation (block : List Step) (path : Path) (label : Data) (read : Run Data) :
    Run (Validated Data) := do
  let s ← applySteps block (.start path label)
  evaluate s (← read)

def ofDeclarations (name : Data) (ds : List Declaration) : Build Validator :=
  applyDeclarations ds (.empty name)

end Guarded

end Assay
