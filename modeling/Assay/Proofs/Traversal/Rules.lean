import Assay.Proofs.Traversal.Laws

/-! # Rules as visits

What the rules of a scope find on a value, one after the other, is what a list
of visits finds. Attached rules and chains check one site each.
-/

namespace Assay

open Visit

namespace Validated

theorem isEmpty_issues {α : Type} (x : Validated α) : x.issues.isEmpty = x.isValid := by
  cases x with
  | valid a => rfl
  | invalid is h => simpa [issues, isValid] using h

@[simp] theorem issues_check {α : Type} (a : α) (is : List Issue) : (check a is).issues = is := by
  unfold check
  split
  · next h => simp [issues, h]
  · rfl

theorem as_check {α β : Type} (a : α) (b : β) (is : List Issue) :
    (check a is).as b = check b is := by
  unfold check
  split <;> rfl

@[simp] theorem check_eq_valid {α : Type} {a b : α} {is : List Issue} :
    check a is = .valid b ↔ is = [] ∧ a = b := by
  unfold check
  split
  · next h => simp [h]
  · next h => simp [h]

theorem mapIssues_check {α : Type} (a : α) (f : Issue → Issue) (is : List Issue) :
    (check a is).mapIssues f = check a (is.map f) := by
  cases is <;> rfl

theorem mapIssues_id {α : Type} (x : Validated α) : x.mapIssues id = x := by
  cases x <;> simp [mapIssues]

@[simp] theorem issues_mapIssues {α : Type} (f : Issue → Issue) (x : Validated α) :
    (x.mapIssues f).issues = x.issues.map f := by
  cases x <;> rfl

end Validated

namespace Validator

theorem issues_nil (v : Data) : issues [] v = pure [] := rfl

theorem issues_cons (r : Rule) (rs : List Rule) (v : Data) :
    issues (r :: rs) v = (do
      let x ← r.run v
      let is ← issues rs v
      pure (x.issues ++ is)) := by
  simp only [issues, Scope.outcomes, List.mapM_cons, bind_assoc, pure_bind, List.flatMap_cons]

theorem issues_append (rs ts : List Rule) (v : Data) :
    issues (rs ++ ts) v = (do
      let is ← issues rs v
      let js ← issues ts v
      pure (is ++ js)) := by
  induction rs with
  | nil => simp [issues_nil]
  | cons r rs ih =>
    simp only [List.cons_append, issues_cons, ih, bind_assoc, pure_bind, List.append_assoc]

end Validator

/-- The rule finds on every value what the visits find. -/
def Rule.Finds (r : Rule) (visits : Data → List Visit) : Prop :=
  ∀ v, (do pure (← r.run v).issues) = runAll (visits v)

namespace Scope

theorem summary_eq (xs : List (Validated Data)) :
    summary xs = .check .null (xs.flatMap Validated.issues) := by
  simp only [summary, Validated.combine, Validated.as_check]

theorem evaluate_eq (s : Scope) (v : Data) :
    s.evaluate v = (do
      let is ← Validator.issues s.rules v
      let js ← Validator.issues s.nested v
      pure (.check .null (is ++ js))) := by
  simp only [evaluate, Validator.issues, summary_eq, List.flatMap_append, bind_assoc, pure_bind]

/-- The scope `s'` is `s` with more rules and nested checks, which make the given visits. -/
structure Extends (s s' : Scope) (own inner : Data → List Visit) : Prop where
  path : s'.path = s.path
  label : s'.label = s.label
  rules : ∀ v, Validator.issues s'.rules v = (do
    let is ← Validator.issues s.rules v
    let js ← runAll (own v)
    pure (is ++ js))
  nested : ∀ v, Validator.issues s'.nested v = (do
    let is ← Validator.issues s.nested v
    let js ← runAll (inner v)
    pure (is ++ js))

namespace Extends

theorem refl (s : Scope) : s.Extends s (fun _ => []) (fun _ => []) where
  path := rfl
  label := rfl
  rules v := by simp
  nested v := by simp

theorem trans {s t u : Scope} {own inner own' inner' : Data → List Visit}
    (h : s.Extends t own inner) (h' : t.Extends u own' inner') :
    s.Extends u (fun v => own v ++ own' v) (fun v => inner v ++ inner' v) where
  path := h'.path.trans h.path
  label := h'.label.trans h.label
  rules v := by
    simp only [h'.rules, h.rules, runAll_append, bind_assoc, pure_bind, List.append_assoc]
  nested v := by
    simp only [h'.nested, h.nested, runAll_append, bind_assoc, pure_bind, List.append_assoc]

end Extends

theorem extends_attachBare (s : Scope) {r : Rule} {own : Data → List Visit} (h : r.Finds own) :
    s.Extends (s.attachBare r) own (fun _ => []) where
  path := rfl
  label := rfl
  rules v := by
    simp only [attachBare, Validator.issues_append, Validator.issues_cons, Validator.issues_nil,
      ← h v, bind_assoc, pure_bind, List.append_nil]
  nested v := by simp [attachBare]

theorem extends_nest (s : Scope) {r : Rule} {inner : Data → List Visit} (h : r.Finds inner) :
    s.Extends (s.nest r) (fun _ => []) inner where
  path := rfl
  label := rfl
  rules v := by simp [nest]
  nested v := by
    simp only [nest, Validator.issues_append, Validator.issues_cons, Validator.issues_nil,
      ← h v, bind_assoc, pure_bind, List.append_nil]

end Scope

theorem Issue.make_eq_ok {path : Path} {message code group : Data} {i : Issue} :
    make path message code group = .ok i ↔
      message.isTrue ∧ i = ⟨path, message, code, group⟩ := by
  unfold make
  split
  · next h => simp [h, eq_comm]
  · next h => simp [h]

namespace Rule

theorem stamp_eq (path : Path) (label : Data) (i : Issue) :
    Site.stamp path label i =
      if label.isNull then settle path i else (settle path i).withGroup label := by
  by_cases hl : label.isNull <;> by_cases hi : i.path.isEmpty <;>
    simp [settle, Site.stamp, Issue.withPath, Issue.withGroup, hl, hi]

theorem finds_ofRule (r : Rule) (path : Path) (label : Data) :
    (if label.isNull then r.located path else (r.located path).labelled label).Finds
      fun v => [.check (.ofRule path label v r)] := by
  intro v
  have hstamp : Site.stamp path label =
      fun i => if label.isNull then settle path i else (settle path i).withGroup label :=
    funext (stamp_eq path label)
  rw [runAll_singleton, Visit.run, Site.ofRule, hstamp]
  by_cases hl : label.isNull <;> simp [hl, located, labelled, Function.comp_def]

theorem finds_ofIssue (path : Path) (label message code group : Data) (p : Predicate) :
    (if label.isNull then ofIssue ⟨path, message, code, group⟩ p
      else (ofIssue ⟨path, message, code, group⟩ p).labelled label).Finds
      fun v => [.check (.ofPredicate path label v message code group p)] := by
  intro v
  rw [runAll_singleton, Visit.run, Site.ofPredicate]
  by_cases hl : label.isNull
  all_goals
    simp only [hl, if_true, if_false, Bool.false_eq_true, ofIssue, labelled, bind_assoc, pure_bind]
    refine bind_congr fun b => ?_
    cases b <;> rfl

def followedBy (path : Path) (c : Rule) (links : List Link) : Rule :=
  links.foldl (fun c l => c.andThen (ofIssue ⟨path, l.message, l.code, .null⟩ l.predicate)) c

theorem finds_followedBy (path : Path) (links : List Link) (c : Rule) (v : Data) :
    (do pure (← (followedBy path c links).run v).issues) = (do
      let x ← c.run v
      if x.isValid then Site.firstRefusal path v links else pure x.issues) := by
  induction links generalizing c with
  | nil =>
    refine bind_congr fun x => ?_
    cases x <;> rfl
  | cons l rest ih =>
    change (do pure (← (followedBy path _ rest).run v).issues) = _
    rw [ih]
    simp only [andThen, bind_assoc]
    refine bind_congr fun x => ?_
    cases x with
    | invalid is h => simp [Validated.andThen, Validated.isValid, Validated.issues]
    | valid a =>
      simp only [Validated.andThen, ofIssue, bind_assoc, Validated.isValid, if_true,
        Site.firstRefusal]
      refine bind_congr fun b => ?_
      cases b <;> simp [Validated.passed, Validated.issues, single]

theorem ofPredicate_eq (path : Path) (message code group : Data) (p : Predicate) :
    ofPredicate path message p code group = (do
      Step.ensureWorded message
      pure (ofIssue ⟨path, message, code, group⟩ p)) := by
  unfold ofPredicate Issue.make Step.ensureWorded
  split <;> rfl

theorem make_eq_ok {message code group : Data} {p : Predicate} {r : Rule} :
    make message p code group = .ok r ↔
      message.isTrue ∧ r = ofIssue ⟨∅, message, code, group⟩ p := by
  rw [make, ofPredicate_eq]
  unfold Step.ensureWorded
  split <;> simp [*, eq_comm, pure, Except.pure, bind, Except.bind]

theorem eq_ofIssue_of_make {message code group : Data} {p : Predicate} {r : Rule}
    (h : make message p code group = .ok r) : r = ofIssue ⟨∅, message, code, group⟩ p :=
  (make_eq_ok.mp h).2

theorem append_rule_eq (path : Path) (c : Option Rule) (l : Link) :
    (do pure (append c (← l.rule path)) : Except Fault (Option Rule)) = (do
      Step.ensureWorded l.message
      pure (append c (ofIssue ⟨path, l.message, l.code, .null⟩ l.predicate))) := by
  simp only [Link.rule, ofPredicate_eq, bind_assoc, pure_bind]

theorem foldlM_append_some (path : Path) (links : List Link) (c : Rule) :
    links.foldlM (fun c l => do pure (append c (← l.rule path))) (some c) = (do
      forM links fun l => Step.ensureWorded l.message
      pure (some (followedBy path c links)) : Except Fault (Option Rule)) := by
  induction links generalizing c with
  | nil => rfl
  | cons l rest ih =>
    rw [List.foldlM_cons, append_rule_eq, List.forM_cons, bind_assoc, bind_assoc]
    refine bind_congr fun _ => ?_
    rw [pure_bind, append, ih]
    rfl

theorem chain_eq (path : Path) (links : List Link) :
    chain path links = (do
      forM links fun l => Step.ensureWorded l.message
      pure (if links.isEmpty then none else some (followedBy path accepting links))) := by
  cases links with
  | nil => rfl
  | cons l rest =>
    rw [chain, List.foldlM_cons, append_rule_eq, List.forM_cons, bind_assoc, bind_assoc]
    refine bind_congr fun _ => ?_
    rw [pure_bind, append, foldlM_append_some]
    rfl

theorem extend_eq (seed : Rule) (links : List Link) :
    seed.extend links = (do
      forM links fun l => Step.ensureWorded l.message
      pure (followedBy ∅ seed links)) := by
  unfold extend
  induction links generalizing seed with
  | nil => rfl
  | cons l rest ih =>
    rw [List.foldlM_cons, Link.rule, ofPredicate_eq, List.forM_cons]
    simp only [bind_assoc, pure_bind, ih]
    rfl

theorem finds_ofLinks (path : Path) (links : List Link) :
    (followedBy path accepting links).Finds fun v => [.check (.ofLinks path v links)] := by
  intro v
  rw [finds_followedBy, runAll_singleton]
  rfl

end Rule

end Assay
