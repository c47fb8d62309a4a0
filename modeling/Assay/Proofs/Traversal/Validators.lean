import Assay.Proofs.Traversal.Steps

/-! # Validators as visits

Declarations add visits to a validator as steps add them to a scope. Steps and
declarations nest in each other, so that both are settled by one induction.
-/

namespace Assay

open Visit

namespace Validator

/-- The validator `w'` is `w` with more checks, which make the given visits. -/
structure Extends (w w' : Validator) (visits : Data → List Visit) : Prop where
  name : w'.name = w.name
  checks : ∀ v, issues w'.checks v = (do
    let is ← issues w.checks v
    let js ← runAll (visits v)
    pure (is ++ js))

namespace Extends

theorem refl (w : Validator) : w.Extends w (fun _ => []) where
  name := rfl
  checks v := by simp

theorem trans {w x y : Validator} {visits visits' : Data → List Visit}
    (h : w.Extends x visits) (h' : x.Extends y visits') :
    w.Extends y (fun v => visits v ++ visits' v) where
  name := h'.name.trans h.name
  checks v := by
    simp only [h'.checks, h.checks, runAll_append, bind_assoc, pure_bind, List.append_assoc]

end Extends

def extended (w : Validator) (label : Data) (r : Rule) : Validator :=
  { w with labels := w.labels ++ [label], checks := w.checks ++ [r] }

theorem extends_extended (w : Validator) (label : Data) {r : Rule} {visits : Data → List Visit}
    (h : r.Finds visits) : w.Extends (w.extended label r) visits where
  name := rfl
  checks v := by
    simp only [extended, issues_append, issues_cons, issues_nil, ← h v, bind_assoc, pure_bind,
      List.append_nil]

theorem result_register (w : Validator) (label : Data) (r : Rule) :
    (w.register label r).result = (do
      Declaration.ensureShown w.name label
      pure (w.extended label r)) := by
  unfold register written Declaration.ensureShown
  cases label.isTrue <;> cases label.spell <;> cases w.name.write <;> rfl

theorem fieldPath_of_isText {name : Data} (h : name.isText) :
    fieldPath name = .ok (.ofName name) := by
  cases name with
  | text s => rfl
  | codes ns => rfl
  | _ => cases h

theorem validate_eq (w : Validator) (v : Data) :
    w.validate v = (do pure (.of v (← issues w.checks v))) := rfl

theorem result_validate_eq_ok {w : Validator} {v : Data} {x : Verdict Data} :
    (w.validate v).result = .ok x ↔
      ∃ is, (issues w.checks v).result = .ok is ∧ x = .of v is :=
  Traced.result_bind_pure_eq_ok

end Validator

theorem Verdict.issues_of (v : Data) (is : List Issue) : (Verdict.of v is).issues = is := by
  cases is <;> rfl

theorem Verdict.issues_toValidated (x : Verdict Data) : x.toValidated.issues = x.issues := by
  cases x <;> rfl

namespace Declaration

def label : Declaration → Data
  | .root _ => .text ""
  | .field name _ _ => name
  | .fieldItems name _ _ => .text (name.shown ++ "[]")

/-- What the declaration alone makes of a value. -/
def outcome (d : Declaration) (v : Data) : Run (Validated Data) :=
  match d with
  | .root block => Scope.check (Step.applyAll block) ∅ .null v
  | .field name getter block => do
    let path ← (Validator.fieldPath name : Run Path)
    Scope.check (Step.applyAll block) path .null (← Step.readField name getter v)
  | .fieldItems name getter block => do
    let path ← (Validator.fieldPath name : Run Path)
    Scope.checkEach (Step.applyAll block) path (← Step.readField name getter v)

theorem outcome_field {name : Data} {path : Path} (hp : Validator.fieldPath name = .ok path)
    (getter : Option Getter) (block : List Step) :
    (field name getter block).outcome = fun v => (do
      Scope.check (Step.applyAll block) path .null (← Step.readField name getter v)) := by
  funext v
  rw [outcome, hp]
  rfl

theorem outcome_fieldItems {name : Data} {path : Path}
    (hp : Validator.fieldPath name = .ok path) (getter : Option Getter) (block : List Step) :
    (fieldItems name getter block).outcome = fun v => (do
      Scope.checkEach (Step.applyAll block) path (← Step.readField name getter v)) := by
  funext v
  rw [outcome, hp]
  rfl

theorem result_apply (d : Declaration) (w : Validator) :
    (d.apply w).result = (do
      d.made w.name
      pure (w.extended d.label ⟨d.outcome⟩)) := by
  cases d with
  | root block =>
    rw [apply, Validator.declareRoot, Validator.result_register]
    rfl
  | field name getter block =>
    rw [apply, Validator.declareField, Step.reader_eq, made]
    cases hp : Validator.fieldPath name with
    | error e => cases Step.ensureReadable name getter <;> rfl
    | ok path =>
      simp only [outcome_field hp, Traced.result_bind, Traced.liftM_eq_ofExcept,
        Traced.result_ofExcept, Validator.result_register, bind_assoc]
      rfl
  | fieldItems name getter block =>
    rw [apply, Validator.declareItems, Step.reader_eq, made]
    cases hp : Validator.fieldPath name with
    | error e => cases Step.ensureReadable name getter <;> rfl
    | ok path =>
      simp only [outcome_fieldItems hp, Traced.result_bind, Traced.liftM_eq_ofExcept,
        Traced.result_ofExcept, Validator.result_register, bind_assoc, Data.spell]
      refine bind_congr fun _ => ?_
      cases name.isSpellable <;> rfl

/-- Carrying out the declaration adds its visits to any validator. -/
def Fills (d : Declaration) : Prop :=
  ∀ w : Validator, ∃ w', w.Extends w' d.visits ∧
    (d.apply w).result = (do d.made w.name; pure w')

def FillsAll (ds : List Declaration) : Prop :=
  ∀ w : Validator, ∃ w', w.Extends w' (visitsAll ds) ∧
    (applyAll ds w).result = (do forM ds (made w.name); pure w')

theorem fillsAll_nil : FillsAll [] :=
  fun w => ⟨w, .refl w, rfl⟩

theorem fillsAll_cons {d : Declaration} {rest : List Declaration} (hd : d.Fills)
    (hrest : FillsAll rest) : FillsAll (d :: rest) := by
  intro w
  obtain ⟨w₁, h₁, e₁⟩ := hd w
  obtain ⟨w₂, h₂, e₂⟩ := hrest w₁
  refine ⟨w₂, h₁.trans h₂, ?_⟩
  rw [applyAll, Traced.result_bind, e₁, List.forM_cons, bind_assoc, bind_assoc]
  refine bind_congr fun _ => ?_
  rw [pure_bind, e₂, h₁.name]

theorem fills_of_finds {d : Declaration} (h : (Rule.mk d.outcome).Finds d.visits) : d.Fills :=
  fun w => ⟨_, w.extends_extended d.label h, d.result_apply w⟩

theorem fills_root {block : List Step} (h : Step.FillsAll block) :
    (Declaration.root block).Fills := by
  refine fills_of_finds fun v => ?_
  simp only [outcome, Step.check_eq h, bind_assoc, pure_bind, Validated.issues_check, bind_pure]
  rfl

theorem fills_field (name : Data) (getter : Option Getter) {block : List Step}
    (h : Step.FillsAll block) : (Declaration.field name getter block).Fills := by
  cases hp : Validator.fieldPath name with
  | error e =>
    refine fun w => ⟨w, ?_, ?_⟩
    · simpa only [visits, hp] using Validator.Extends.refl w
    · rw [result_apply, made, hp]
      cases Step.ensureReadable name getter <;> rfl
  | ok path =>
    have hvisits : (Declaration.field name getter block).visits = fun v =>
        ofRead (some v) (Step.readField name getter v) (Step.visits block path .null) := by
      funext v
      simp only [visits, hp]
      rfl
    refine fills_of_finds ?_
    rw [outcome_field hp, hvisits]
    exact Step.finds_check h path .null (Step.readField name getter) some

theorem fills_fieldItems (name : Data) (getter : Option Getter) {block : List Step}
    (h : Step.FillsAll block) : (Declaration.fieldItems name getter block).Fills := by
  cases hp : Validator.fieldPath name with
  | error e =>
    refine fun w => ⟨w, ?_, ?_⟩
    · simpa only [visits, hp] using Validator.Extends.refl w
    · rw [result_apply, made, hp]
      cases Step.ensureReadable name getter <;> rfl
  | ok path =>
    have hvisits : (Declaration.fieldItems name getter block).visits = fun v =>
        ofRead (some v) (Step.readField name getter v) fun w =>
          ofItems w fun i u => Step.visits block (path.index i) .null u := by
      funext v
      simp only [visits, hp]
      rfl
    refine fills_of_finds ?_
    rw [outcome_fieldItems hp, hvisits]
    exact Step.finds_checkEach h path (Step.readField name getter) some

end Declaration

theorem Step.fills_use (name : Data) {ds : List Declaration} (h : Declaration.FillsAll ds) :
    (Step.use name ds).Fills := by
  intro s
  obtain ⟨w, hw, e⟩ := h (.empty name)
  refine ⟨s.nestValidator w, s.extends_nest fun v => ?_, ?_⟩
  · have hv : Validator.issues w.checks v = runAll (Declaration.visitsAll ds v) := by
      simpa [Validator.empty, Validator.issues_nil] using hw.checks v
    simp only [inner, runAll_under, Validator.validate_eq, hv, bind_assoc, pure_bind,
      Validated.issues_mapIssues, Verdict.issues_toValidated, Verdict.issues_of]
  · simp only [apply, made, e, Traced.liftM_eq_ofExcept, Traced.ofExcept_bind, bind_assoc]
    rfl

mutual

theorem Step.fills (t : Step) : t.Fills :=
  match t with
  | .rule message p code group => Step.fills_rule message p code group
  | .attach source p => Step.fills_attach source p
  | .field name getter block => Step.fills_field name getter (Step.fillsAll block)
  | .fieldItems name getter block => Step.fills_fieldItems name getter (Step.fillsAll block)
  | .items block => Step.fills_items (Step.fillsAll block)
  | .unlessNull block => Step.fills_unlessNull (Step.fillsAll block)
  | .ruleIfPresent message p code group => Step.fills_ruleIfPresent message p code group
  | .dependent links => Step.fills_dependent links
  | .group label block => Step.fills_group label (Step.fillsAll block)
  | .use name declarations => Step.fills_use name (Declaration.fillsAll declarations)
termination_by structural t

theorem Step.fillsAll (block : List Step) : Step.FillsAll block :=
  match block with
  | [] => Step.fillsAll_nil
  | t :: rest => Step.fillsAll_cons t.fills (Step.fillsAll rest)
termination_by structural block

theorem Declaration.fills (d : Declaration) : d.Fills :=
  match d with
  | .root block => Declaration.fills_root (Step.fillsAll block)
  | .field name getter block => Declaration.fills_field name getter (Step.fillsAll block)
  | .fieldItems name getter block => Declaration.fills_fieldItems name getter (Step.fillsAll block)
termination_by structural d

theorem Declaration.fillsAll (ds : List Declaration) : Declaration.FillsAll ds :=
  match ds with
  | [] => Declaration.fillsAll_nil
  | d :: rest => Declaration.fillsAll_cons d.fills (Declaration.fillsAll rest)
termination_by structural ds

end

end Assay
