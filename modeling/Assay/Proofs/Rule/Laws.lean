import Assay.Proofs.Traversal.Rules

/-! # Laws of rules

What a rule reports on a value is read off what its parts report. Rules one
after the other, and rules side by side, can be bracketed in any way, and a
change of place goes through to the parts.
-/

namespace Assay

/-- A list of one element or more, put together in pairs. -/
inductive Bracketing (α : Type)
  | single (a : α)
  | pair (left right : Bracketing α)

namespace Bracketing

variable {α : Type}

def leaves : Bracketing α → List α
  | single a => [a]
  | pair left right => left.leaves ++ right.leaves

def fold (op : α → α → α) : Bracketing α → α
  | single a => a
  | pair left right => op (left.fold op) (right.fold op)

theorem exists_leaves_eq_cons (t : Bracketing α) : ∃ a rest, t.leaves = a :: rest := by
  induction t with
  | single a => exact ⟨a, [], rfl⟩
  | pair left right ihl _ =>
    obtain ⟨a, rest, h⟩ := ihl
    exact ⟨a, rest ++ right.leaves, by rw [leaves, h, List.cons_append]⟩

/-- Brackets do not matter to an associative operation. -/
theorem fold_eq_foldl {op : α → α → α} [Std.Associative op] (t : Bracketing α) {a : α}
    {rest : List α} (h : t.leaves = a :: rest) : t.fold op = rest.foldl op a := by
  induction t generalizing a rest with
  | single b => cases h; rfl
  | pair left right ihl ihr =>
    obtain ⟨b, bs, hl⟩ := left.exists_leaves_eq_cons
    obtain ⟨c, cs, hr⟩ := right.exists_leaves_eq_cons
    rw [leaves, hl, hr, List.cons_append] at h
    cases h
    rw [fold, ihl hl, ihr hr, List.foldl_append, List.foldl_cons, List.foldl_assoc]

end Bracketing

variable {r s t : Rule}

namespace Rule

def reports (r : Rule) (v : Data) : Run (List Issue) := do pure (← r.run v).issues

theorem reports_ofIssue (i : Issue) (p : Predicate) (v : Data) :
    (ofIssue i p).reports v = (do if ← p v then pure [] else pure [i]) := by
  simp only [reports, ofIssue, bind_assoc]
  refine bind_congr fun b => ?_
  cases b <;> rfl

theorem reports_andThen (r s : Rule) (v : Data) :
    (r.andThen s).reports v = (do
      let is ← r.reports v
      if is.isEmpty then s.reports v else pure is) := by
  simp only [reports, andThen, bind_assoc, pure_bind, Validated.isEmpty_issues]
  refine bind_congr fun x => ?_
  cases x <;> rfl

theorem reports_combine (r s : Rule) (v : Data) :
    (r.combine s).reports v = (do
      let is ← r.reports v
      let js ← s.reports v
      pure (is ++ js)) := by
  simp only [reports, combine, bind_assoc, pure_bind, Validated.issues_check]

theorem reports_forbidding (r : Rule) (i : Issue) (v : Data) :
    (r.forbidding i).reports v = (do pure (if (← r.reports v).isEmpty then [i] else [])) := by
  simp only [reports, forbidding, bind_assoc, pure_bind, Validated.isEmpty_issues]
  refine bind_congr fun x => ?_
  cases x.isValid <;> rfl

theorem reports_located (r : Rule) (path : Path) (v : Data) :
    (r.located path).reports v = (do pure ((← r.reports v).map (settle path))) := by
  simp only [reports, located, bind_assoc, pure_bind, Validated.issues_mapIssues]

end Rule

namespace Validator

theorem issues_cons_eq (r : Rule) (rs : List Rule) (v : Data) :
    issues (r :: rs) v = (do
      let is ← r.reports v
      let js ← issues rs v
      pure (is ++ js)) := by
  simp only [issues_cons, Rule.reports, bind_assoc, pure_bind]

theorem issues_singleton (r : Rule) (v : Data) : issues [r] v = r.reports v := by
  simp only [issues_cons_eq, issues_nil, pure_bind, List.append_nil, bind_pure]

end Validator

namespace Rule

theorem reports_foldl_combine (rs : List Rule) (r : Rule) (v : Data) :
    (rs.foldl combine r).reports v = Validator.issues (r :: rs) v := by
  induction rs generalizing r with
  | nil => exact (Validator.issues_singleton r v).symm
  | cons s rest ih =>
    simp only [List.foldl_cons, ih, Validator.issues_cons_eq, reports_combine, bind_assoc,
      pure_bind, List.append_assoc]

theorem reports_allOf (rs : List Rule) (v : Data) :
    (allOf rs).reports v = Validator.issues rs v := by
  have haccepting : accepting.reports v = pure [] := rfl
  rw [allOf, reports_foldl_combine, Validator.issues_cons_eq, haccepting]
  simp only [pure_bind, List.nil_append, bind_pure]

/-- A valid outcome of the rule carries nothing. -/
def Bare (r : Rule) : Prop := ∀ v x, (r.run v).result = .ok x → x = .check .null x.issues

/-- The outcome of a rule that carries nothing is told by what the rule reports. -/
theorem Bare.run_eq (h : r.Bare) (v : Data) :
    r.run v = (do pure (.check .null (← r.reports v))) := by
  simp only [reports, bind_assoc, pure_bind]
  cases hx : (r.run v).result with
  | error f => rw [Traced.bind_of_error hx, ← hx]
  | ok x => rw [Traced.bind_of_ok hx, ← h v x hx, Traced.events_pure, Traced.result_pure,
      List.append_nil, ← hx]

theorem bare_accepting : accepting.Bare := by
  intro v x hx
  cases hx
  rfl

theorem bare_ofIssue (i : Issue) (p : Predicate) : (ofIssue i p).Bare := by
  intro v x hx
  obtain ⟨b, -, hx⟩ := Traced.result_bind_eq_ok.mp hx
  cases b <;> cases hx <;> rfl

theorem Bare.andThen (hr : r.Bare) (hs : s.Bare) : (r.andThen s).Bare := by
  intro v x hx
  obtain ⟨y, hy, hx⟩ := Traced.result_bind_eq_ok.mp hx
  cases y with
  | valid a => exact hs v x hx
  | invalid is h => cases hx; exact hr v _ hy

theorem bare_combine (r s : Rule) : (r.combine s).Bare := by
  intro v x hx
  obtain ⟨y, -, hx⟩ := Traced.result_bind_eq_ok.mp hx
  obtain ⟨z, -, rfl⟩ := Traced.result_bind_pure_eq_ok.mp hx
  rw [Validated.issues_check]

theorem bare_forbidding (r : Rule) (i : Issue) : (r.forbidding i).Bare := by
  intro v x hx
  obtain ⟨y, -, hx⟩ := Traced.result_bind_eq_ok.mp hx
  cases hy : y.isValid <;> rw [hy] at hx <;> cases hx <;> rfl

theorem Bare.located (hr : r.Bare) (path : Path) : (r.located path).Bare := by
  intro v x hx
  obtain ⟨y, hy, rfl⟩ := Traced.result_bind_pure_eq_ok.mp hx
  rw [hr v y hy, Validated.mapIssues_check, Validated.issues_check]

theorem bare_allOf (rs : List Rule) : (allOf rs).Bare := by
  suffices hall : ∀ r : Rule, r.Bare → (rs.foldl Rule.combine r).Bare from
    hall accepting bare_accepting
  induction rs with
  | nil => exact fun r hr => hr
  | cons s rest ih => exact fun r _ => ih (r.combine s) (bare_combine r s)

theorem andThen_assoc (r s t : Rule) : (r.andThen s).andThen t = r.andThen (s.andThen t) := by
  simp only [andThen, bind_assoc, Rule.mk.injEq]
  refine funext fun v => bind_congr fun x => ?_
  cases x <;> rfl

theorem combine_assoc (r s t : Rule) : (r.combine s).combine t = r.combine (s.combine t) := by
  simp only [combine, bind_assoc, pure_bind, Validated.issues_check, List.append_assoc]

instance : Std.Associative andThen := ⟨andThen_assoc⟩

instance : Std.Associative combine := ⟨combine_assoc⟩

theorem located_ofIssue {i : Issue} (h : i.path.isEmpty) (p : Predicate) (path : Path) :
    (ofIssue i p).located path = ofIssue (i.withPath path) p := by
  simp only [located, ofIssue, bind_assoc, Rule.mk.injEq]
  refine funext fun v => bind_congr fun b => ?_
  cases b with
  | true => rfl
  | false => simp [single, Validated.mapIssues, settle, h]

theorem located_andThen (r s : Rule) (path : Path) :
    (r.andThen s).located path = (r.located path).andThen (s.located path) := by
  simp only [located, andThen, bind_assoc, pure_bind, Rule.mk.injEq]
  refine funext fun v => bind_congr fun x => ?_
  cases x <;> rfl

theorem located_followedBy (path : Path) (links : List Link) (r : Rule) :
    (followedBy ∅ r links).located path = followedBy path (r.located path) links := by
  induction links generalizing r with
  | nil => rfl
  | cons l rest ih =>
    change (followedBy ∅ _ rest).located path = followedBy path _ rest
    rw [ih, located_andThen, located_ofIssue rfl]
    rfl

end Rule

end Assay
