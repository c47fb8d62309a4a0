import Assay.Proofs.Checks
import Assay.Proofs.Configuration.Reading
import Assay.Proofs.Relocation

/-! # Rules of a configuration

The rule that is built from an entry finds, at the path and under the label of
a scope, what the reading of the entry finds. Lists of rules and chains follow
by induction on their entries.
-/

namespace Assay

open Visit

/-- The check makes rules that leave the place to their scopes. -/
def Check.Unplaced (c : Check) : Prop := ∀ as r, c as = .ok r → r.Unplaced

def Registry.Unplaced (registry : Registry) : Prop :=
  ∀ key c, registry.find? key = some c → c.Unplaced

namespace Rule

theorem Unplaced.forbidding {r : Rule} {i : Issue} (h : i.path.isEmpty) :
    (r.forbidding i).Unplaced := by
  intro v x hx j hj
  obtain ⟨y, -, hx⟩ := Traced.result_bind_eq_ok.mp hx
  cases hv : y.isValid <;> rw [hv] at hx <;> cases hx
  · cases hj
  · rw [List.mem_singleton.mp hj]
    exact h

theorem unplaced_of_make {message code tag : Data} {p : Predicate} {r : Rule}
    (h : make message p code tag = .ok r) : r.Unplaced := by
  rw [eq_ofIssue_of_make h]
  exact unplaced_ofIssue rfl p

end Rule

theorem Registry.unplaced_builtin [Pattern.Edition] : builtin.Unplaced := by
  intro key c h as r hr
  obtain ⟨p, message, code, hmake⟩ := elementary_builtin h as r hr
  exact Rule.unplaced_of_make hmake

namespace Configuration

variable {registry : Registry} {owner label v : Data} {path : Path}

/-- The label of the scope that runs the rules of a field. -/
def scopeLabel (label : Data) : Data := if label.isTrue then label else .null

theorem isNull_scopeLabel : (scopeLabel label).isNull = !label.isTrue := by
  unfold scopeLabel
  cases label with
  | null => rfl
  | _ => split <;> simp_all [Data.isNull]

theorem stamp_scopeLabel {i : Issue} (h : i.path.isEmpty) :
    Site.stamp path (scopeLabel label) i =
      ⟨path, i.message, i.code, Reading.tag label i.group⟩ := by
  rw [Site.stamp, isNull_scopeLabel]
  cases hl : label.isTrue <;> simp [h, Reading.tag, scopeLabel, hl]

/-- What a rule finds at the path of a scope. -/
def found (path : Path) (label v : Data) (r : Rule) : Run (List Issue) :=
  (Site.ofRule path label v r).findings

theorem found_eq {r : Rule} (h : r.Unplaced) :
    found path (scopeLabel label) v r = (do
      let x ← r.run v
      pure (x.issues.map fun i => ⟨path, i.message, i.code, Reading.tag label i.group⟩)) := by
  unfold found Site.ofRule
  cases hx : (r.run v).result with
  | error e => rw [Traced.bind_of_error hx, Traced.bind_of_error hx]
  | ok x =>
    refine Traced.bind_congr_of_ok hx ?_
    congr 1
    exact List.map_congr_left fun i hi => stamp_scopeLabel (h v x hx i hi)

theorem construct_eq_ok {c : Check} {kind : String} {params : List (Data × Data)} {r : Rule}
    (h : construct c kind owner params = .ok r) :
    ∃ as, Arguments.ofEntries params = .ok as ∧ c as = .ok r := by
  unfold construct at h
  split at h
  · next r' hr =>
    cases h
    exact Traced.except_bind_eq_ok.mp hr
  · split at h <;> cases h

theorem checkOf_eq_ok {kind : String} {c : Check} (h : checkOf registry kind owner = .ok c) :
    registry.find? (.text kind) = some c := by
  unfold checkOf at h
  split at h
  · next hc => cases h; exact hc
  · cases h

theorem rule_eq_ok {e : Data} {r : Rule} (h : rule registry owner e = .ok r) :
    ∃ es base, e = .mapping es ∧ Reading.check? registry es = some base ∧
      (registry.Unplaced → base.Unplaced) ∧ forbidding es base = .ok r := by
  unfold rule at h
  split at h
  · next es =>
    split at h
    · obtain ⟨kind, hk, h⟩ := Traced.except_bind_eq_ok.mp h
      obtain ⟨c, hc, h⟩ := Traced.except_bind_eq_ok.mp h
      obtain ⟨base, hb, h⟩ := Traced.except_bind_eq_ok.mp h
      obtain ⟨as, has, hbase⟩ := construct_eq_ok hb
      have hfind := checkOf_eq_ok hc
      refine ⟨es, base, rfl, ?_, fun hr => hr _ c hfind as base hbase, h⟩
      simp [Reading.check?, hk, hfind, has, hbase, Except.toOption]
    · cases h
  · cases h

theorem forbidding_eq_ok {es : List (Data × Data)} {base r : Rule}
    (h : forbidding es base = .ok r) :
    r = if (get es "forbidden").isTrue then
      base.forbidding ⟨∅, get es "forbidden", get es "forbidden_code", .null⟩ else base := by
  unfold forbidding Rule.forbid Issue.make at h
  cases hf : (get es "forbidden").isTrue <;> simp only [hf] at h <;> cases h <;> rfl

theorem unplaced_of_rule {e : Data} {r : Rule} (hreg : registry.Unplaced)
    (h : rule registry owner e = .ok r) : r.Unplaced := by
  obtain ⟨es, base, -, -, hb, hr⟩ := rule_eq_ok h
  rw [forbidding_eq_ok hr]
  split
  · exact Rule.Unplaced.forbidding rfl
  · exact hb hreg

theorem found_rule {e : Data} {r : Rule} (hreg : registry.Unplaced)
    (h : rule registry owner e = .ok r) (path : Path) (label v : Data) :
    found path (scopeLabel label) v r = Reading.entry registry path label v e := by
  rw [found_eq (unplaced_of_rule hreg h)]
  obtain ⟨es, base, rfl, hc, -, hr⟩ := rule_eq_ok h
  rw [forbidding_eq_ok hr]
  simp only [Reading.entry, hc]
  split
  · simp only [Rule.forbidding, bind_assoc]
    refine bind_congr fun x => ?_
    cases x.isValid <;> rfl
  · rfl

/-- Built rules, one for each entry, find one after the other what the entries read as. -/
theorem runAll_rules (hreg : registry.Unplaced) {entries : List Data} {rs : List Rule}
    (h : entries.mapM (rule registry owner) = .ok rs) (path : Path) (label v : Data) :
    runAll (rs.map fun r => .check (.ofRule path (scopeLabel label) v r)) =
      Reading.rules registry path label v entries := by
  induction entries generalizing rs with
  | nil => cases h; rfl
  | cons e rest ih =>
    rw [List.mapM_cons] at h
    obtain ⟨r, hr, h⟩ := Traced.except_bind_eq_ok.mp h
    obtain ⟨rs, hrs, h⟩ := Traced.except_bind_eq_ok.mp h
    cases h
    rw [List.map_cons, runAll_cons, ih hrs, Reading.rules, ← found_rule hreg hr]
    rfl

theorem found_andThen (path : Path) (label v : Data) (c r : Rule) :
    found path label v (c.andThen r) = (do
      let is ← found path label v c
      if is.isEmpty then found path label v r else pure is) := by
  simp only [found, Site.ofRule, Rule.andThen, bind_assoc, pure_bind]
  refine bind_congr fun x => ?_
  cases x with
  | valid a => rfl
  | invalid is hne => cases is <;> first | exact absurd rfl hne | rfl

theorem found_chain_some (hreg : registry.Unplaced) {entries : List Data} {c : Rule}
    {o : Option Rule}
    (h : entries.foldlM (fun c e => do pure (Rule.append c (← rule registry owner e))) (some c) =
      .ok o) (path : Path) (v : Data) :
    ∃ r, o = some r ∧ found path .null v r = (do
      let is ← found path .null v c
      if is.isEmpty then Reading.dependent registry path v entries else pure is) := by
  -- `c` is the chain of the entries that have been read so far
  induction entries generalizing c with
  | nil =>
    cases h
    refine ⟨c, rfl, ?_⟩
    conv_lhs => rw [← bind_pure (found path .null v c)]
    refine bind_congr fun is => ?_
    cases is <;> rfl
  | cons e rest ih =>
    rw [List.foldlM_cons] at h
    obtain ⟨o', ho, h⟩ := Traced.except_bind_eq_ok.mp h
    obtain ⟨r, hr, ho⟩ := Traced.except_bind_eq_ok.mp ho
    cases ho
    obtain ⟨r', rfl, hf⟩ := ih h
    refine ⟨r', rfl, ?_⟩
    have he : found path .null v r = Reading.entry registry path .null v e :=
      found_rule hreg hr path .null v
    rw [hf, found_andThen, bind_assoc]
    refine bind_congr fun is => ?_
    cases is with
    | nil => rw [List.isEmpty_nil, if_pos rfl, if_pos rfl, he, Reading.dependent]
    | cons i is => rfl

/-- The built chain, if there is one, finds what the first failing entry reads as. -/
theorem runAll_chain (hreg : registry.Unplaced) {entries : List Data} {o : Option Rule}
    (h : entries.foldlM (fun c e => do pure (Rule.append c (← rule registry owner e))) none =
      .ok o) (path : Path) (v : Data) :
    runAll (o.toList.map fun r => .check (.ofRule path .null v r)) =
      Reading.dependent registry path v entries := by
  cases entries with
  | nil => cases h; rfl
  | cons e rest =>
    rw [List.foldlM_cons] at h
    obtain ⟨o', ho, h⟩ := Traced.except_bind_eq_ok.mp h
    obtain ⟨c, hc, ho⟩ := Traced.except_bind_eq_ok.mp ho
    cases ho
    obtain ⟨r, rfl, hr⟩ := found_chain_some hreg h path v
    have he : found path .null v c = Reading.entry registry path .null v e :=
      found_rule hreg hc path .null v
    rw [Option.toList_some, List.map_singleton, runAll_singleton, Reading.dependent, ← he, ← hr]
    rfl

end Configuration

end Assay
