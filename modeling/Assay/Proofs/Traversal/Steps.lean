import Assay.Proofs.Traversal.Rules

/-! # Steps as visits

Carrying out a step adds its sites to the rules of a scope and its inner visits
to the nested checks. A block that does so is evaluated by making its visits.
-/

namespace Assay

open Visit

namespace Step

/-- Carrying out the step adds its sites and what it checks below them to any scope. -/
def Fills (t : Step) : Prop :=
  ∀ s : Scope, ∃ s', s.Extends s' (fun v => (t.sites s.path s.label v).map .check)
    (t.inner s.path s.label) ∧ t.apply s = (do t.made; pure s')

def FillsAll (block : List Step) : Prop :=
  ∀ s : Scope, ∃ s', s.Extends s'
      (fun v => (block.flatMap fun t => t.sites s.path s.label v).map .check)
      (innerAll block s.path s.label) ∧
    applyAll block s = (do forM block made; pure s')

theorem fillsAll_nil : FillsAll [] := by
  intro s
  refine ⟨s, ?_, by simp [applyAll]⟩
  simpa [innerAll] using Scope.Extends.refl s

theorem fillsAll_cons {t : Step} {rest : List Step} (ht : t.Fills) (hrest : FillsAll rest) :
    FillsAll (t :: rest) := by
  intro s
  obtain ⟨s₁, h₁, e₁⟩ := ht s
  obtain ⟨s₂, h₂, e₂⟩ := hrest s₁
  refine ⟨s₂, ?_, ?_⟩
  · rw [h₁.path, h₁.label] at h₂
    simpa only [List.flatMap_cons, List.map_append, innerAll] using h₁.trans h₂
  · rw [applyAll, e₁, List.forM_cons, bind_assoc, bind_assoc]
    refine bind_congr fun _ => ?_
    rw [pure_bind, e₂]

/-- Evaluating a block on a value makes its visits. -/
theorem check_eq {block : List Step} (h : FillsAll block) (path : Path) (label v : Data) :
    Scope.check (applyAll block) path label v =
      (do pure (.check .null (← runAll (visits block path label v)))) := by
  obtain ⟨s, hs, e⟩ := h (.start path label)
  unfold Scope.check visits around
  rw [e, runAll_declares_append, bind_assoc, bind_assoc]
  refine bind_congr fun _ => ?_
  rw [pure_bind, Scope.evaluate_eq, hs.rules, hs.nested, runAll_append]
  simp only [Scope.start, Validator.issues_nil, pure_bind, List.nil_append, bind_assoc]

theorem checkFrom_eq {block : List Step} (h : FillsAll block) (path : Path) (position : Nat)
    (vs : List Data) :
    (do pure ((← Scope.checkFrom (applyAll block) path position vs).flatMap
      Validated.issues)) =
      runAll ((vs.zipIdx position).flatMap fun e => visits block (path.index e.2) .null e.1) := by
  induction vs generalizing position with
  | nil => rfl
  | cons v rest ih =>
    simp only [Scope.checkFrom, check_eq h, List.zipIdx_cons, List.flatMap_cons, runAll_append,
      ← ih, bind_assoc, pure_bind, Validated.issues_check]

theorem checkEach_eq {block : List Step} (h : FillsAll block) (path : Path) (v : Data) :
    Scope.checkEach (applyAll block) path v =
      (do pure (.check .null (← runAll (ofItems v fun i u =>
        visits block (path.index i) .null u)))) := by
  have hfrom : ∀ vs, (do pure (Scope.summary
      (← Scope.checkFrom (applyAll block) path 0 vs))) =
      (do pure (.check .null (← runAll (vs.zipIdx.flatMap fun e =>
        visits block (path.index e.2) .null e.1))) : Run (Validated Data)) := by
    intro vs
    rw [← checkFrom_eq h, bind_assoc]
    simp only [Scope.summary_eq, pure_bind]
  simp only [Scope.checkEach, Traced.liftM_eq_ofExcept, hfrom, runAll_ofItems, bind_assoc]

theorem finds_check {block : List Step} (h : FillsAll block) (path : Path) (label : Data)
    (found : Data → Run Data) (owner : Data → Option Data) :
    (Rule.mk fun v => do Scope.check (applyAll block) path label (← found v)).Finds
      fun v => ofRead (owner v) (found v) (visits block path label) := by
  intro v
  simp only [check_eq h, runAll_ofRead, bind_assoc, pure_bind, Validated.issues_check, bind_pure]

theorem finds_checkEach {block : List Step} (h : FillsAll block) (path : Path)
    (found : Data → Run Data) (owner : Data → Option Data) :
    (Rule.mk fun v => do Scope.checkEach (applyAll block) path (← found v)).Finds
      fun v => ofRead (owner v) (found v) fun w =>
        ofItems w fun i u => visits block (path.index i) .null u := by
  intro v
  simp only [checkEach_eq h, runAll_ofRead, bind_assoc, pure_bind, Validated.issues_check,
    bind_pure]

theorem fills_of_own {t : Step} {r : Scope → Rule}
    (h : ∀ s : Scope, (r s).Finds fun v => (t.sites s.path s.label v).map .check)
    (hinner : ∀ path label v, t.inner path label v = [])
    (happly : ∀ s, t.apply s = (do t.made; pure (s.attachBare (r s)))) : t.Fills := by
  intro s
  refine ⟨s.attachBare (r s), ?_, happly s⟩
  have : t.inner s.path s.label = fun _ => [] := funext fun v => hinner s.path s.label v
  rw [this]
  exact s.extends_attachBare (h s)

theorem fills_of_nested {t : Step} {r : Scope → Rule}
    (h : ∀ s : Scope, (r s).Finds (t.inner s.path s.label))
    (hsites : ∀ path label v, t.sites path label v = [])
    (happly : ∀ s, t.apply s = (do t.made; pure (s.nest (r s)))) : t.Fills := by
  intro s
  refine ⟨s.nest (r s), ?_, happly s⟩
  simp only [hsites, List.map_nil]
  exact s.extends_nest (h s)

theorem attach_eq (s : Scope) (r : Rule) :
    s.attach r = s.attachBare (if s.label.isNull then r else r.labelled s.label) := rfl

theorem attachLocated_eq (s : Scope) (r : Rule) (p : Option Predicate) :
    s.attachLocated r p.isSome = (do
      refusePredicate p
      pure (s.attach (r.located s.path))) := by
  unfold Scope.attachLocated refusePredicate
  split <;> rfl

theorem fills_attachment {t : Step} (r : Rule)
    (hsites : ∀ path label v, t.sites path label v = [.ofRule path label v r])
    (hinner : ∀ path label v, t.inner path label v = [])
    (happly : ∀ s, t.apply s = (do t.made; pure (s.attach (r.located s.path)))) : t.Fills := by
  refine fills_of_own (fun s => ?_) hinner happly
  simp only [hsites, List.map_cons, List.map_nil]
  exact r.finds_ofRule s.path s.label

theorem fills_inline {message : Data} (h : message.isText) (p : Option Predicate)
    (code group : Data) : (Step.rule message p code group).Fills := by
  cases p with
  | none =>
    refine fun s => ⟨s, by simpa [sites, inner, h] using Scope.Extends.refl s, ?_⟩
    simp only [apply, Scope.attachInline, made, if_pos h]
    rfl
  | some p =>
    let r (s : Scope) : Rule := .ofIssue ⟨s.path, message, code, group⟩ p
    refine fills_of_own (r := fun s => if s.label.isNull then r s else (r s).labelled s.label)
      (fun s => ?_) (fun _ _ _ => rfl) fun s => ?_
    · simp only [sites, if_pos h]
      exact Rule.finds_ofIssue s.path s.label message code group p
    · simp only [apply, Scope.attachInline, made, if_pos h, Rule.ofPredicate_eq,
        Traced.liftM_eq_ofExcept, Traced.ofExcept_bind, bind_assoc]
      rfl

theorem fills_uncallable {message : Data} (h : ¬ message.isText) (p : Option Predicate)
    (code group : Data) : (Step.rule message p code group).Fills := by
  refine fills_attachment (.uncallable message.kind) (fun path label v => ?_)
    (fun _ _ _ => rfl) fun s => ?_
  · rw [sites, if_neg h]
  · simp only [apply, Scope.attachInline, made, if_neg h, attachLocated_eq,
      Traced.liftM_eq_ofExcept, Traced.ofExcept_bind]
    rfl

theorem fills_rule (message : Data) (p : Option Predicate) (code group : Data) :
    (Step.rule message p code group).Fills :=
  if h : message.isText then fills_inline h p code group else fills_uncallable h p code group

theorem fills_attach (source : Run (Option Rule)) (p : Option Predicate) :
    (Step.attach source p).Fills := by
  intro s
  cases hs : source.result with
  | error e =>
    refine ⟨s, ?_, ?_⟩
    · simpa [sites, inner, hs] using Scope.Extends.refl s
    · rw [apply, made, Traced.bind_of_error hs, Traced.bind_of_error hs, Traced.bind_of_error rfl]
  | ok r =>
    refine ⟨s.attach ((Rule.ofOption r).located s.path), ?_, ?_⟩
    · have := s.extends_attachBare (Rule.finds_ofRule (.ofOption r) s.path s.label)
      simpa [sites, inner, hs, attach_eq] using this
    · rw [apply, made, bind_assoc]
      refine Traced.bind_congr_of_ok hs ?_
      rw [attachLocated_eq, Traced.liftM_eq_ofExcept, Traced.ofExcept_bind]
      rfl

theorem fills_dependent (links : List Link) : (Step.dependent links).Fills := by
  cases links with
  | nil => exact fun s => ⟨s, by simpa [sites, inner] using Scope.Extends.refl s, rfl⟩
  | cons l rest =>
    refine fills_of_own (fun s => Rule.finds_ofLinks s.path (l :: rest)) (fun _ _ _ => rfl)
      fun s => ?_
    simp only [apply, made, Scope.attachChain, Rule.chain_eq, Traced.liftM_eq_ofExcept,
      Traced.ofExcept_bind, bind_assoc]
    rfl

theorem fills_field (name : Data) (getter : Option Getter) {block : List Step}
    (h : FillsAll block) : (Step.field name getter block).Fills :=
  fills_of_nested (fun s => finds_check h (s.path.child name) .null (readField name getter) some)
    (fun _ _ _ => rfl) (apply_field name getter block)

theorem fills_fieldItems (name : Data) (getter : Option Getter) {block : List Step}
    (h : FillsAll block) : (Step.fieldItems name getter block).Fills :=
  fills_of_nested (fun s => finds_checkEach h (s.path.child name) (readField name getter) some)
    (fun _ _ _ => rfl) (apply_fieldItems name getter block)

theorem fills_items {block : List Step} (h : FillsAll block) : (Step.items block).Fills := by
  refine fills_of_nested (r := fun s => ⟨fun v => Scope.checkEach (applyAll block) s.path v⟩)
    (fun s v => ?_) (fun _ _ _ => rfl) fun s => rfl
  simp only [checkEach_eq h, bind_assoc, pure_bind, Validated.issues_check, bind_pure]
  rfl

theorem finds_unlessNull {block : List Step} (h : FillsAll block) (path : Path) (label : Data) :
    (Rule.mk fun v => if v.isNull then pure .passed
      else Scope.check (applyAll block) path label v).Finds
      fun v => if v.isNull then [] else visits block path label v := by
  intro v
  by_cases hv : v.isNull
  · simp only [hv, if_true, pure_bind]
    rfl
  · simp only [hv, if_false, Bool.false_eq_true, check_eq h, bind_assoc, pure_bind,
      Validated.issues_check, bind_pure]

theorem fills_unlessNull {block : List Step} (h : FillsAll block) :
    (Step.unlessNull block).Fills :=
  fills_of_nested (fun s => finds_unlessNull h s.path s.label) (fun _ _ _ => rfl) fun _ => rfl

theorem fills_ruleIfPresent (message : Data) (p : Option Predicate) (code group : Data) :
    (Step.ruleIfPresent message p code group).Fills := by
  have h := fillsAll_cons (fills_rule message p code group) fillsAll_nil
  refine fills_of_nested (fun s => finds_unlessNull h s.path s.label) (fun _ _ _ => rfl) fun s => ?_
  rw [apply, made, pure_bind]
  congr 3
  funext s
  simp [applyAll, apply]

theorem fills_group (label : Data) {block : List Step} (h : FillsAll block) :
    (Step.group label block).Fills := by
  refine fills_of_nested (r := fun s => ⟨fun v => Scope.check (applyAll block) s.path label v⟩)
    (fun s v => ?_) (fun _ _ _ => rfl) fun s => rfl
  simp only [check_eq h, bind_assoc, pure_bind, Validated.issues_check, bind_pure]
  rfl

end Step

end Assay
