import Assay.Proofs.Checks.Faults

/-! # Rules put together

A rule is put together from functions on values. What the functions raise is
all that the rule can raise, and what it reports has a message and stands at a
path that was given to one of its parts.
-/

namespace Assay

def Issue.IsWorded (i : Issue) : Prop := i.message.isTrue

/-- The issue has a message and stands at a path that is as `G` says. -/
def Issue.StandsAt (G : Path → Prop) (i : Issue) : Prop := G i.path ∧ i.IsWorded

namespace Rule

variable {Q : Issue → Prop} {R : Fault → Prop} {G : Path → Prop} {r s : Rule}

/-- All issues that the rule reports are as `Q` says, and all faults that it ends with as `R`. -/
structure Ends (Q : Issue → Prop) (R : Fault → Prop) (r : Rule) : Prop where
  issues {v : Data} {x : Validated Data} : (r.run v).result = .ok x → ∀ i ∈ x.issues, Q i
  faults (v : Data) : FailsOnly (r.run v).result R

/-- What is put together from functions that raise faults as `R` says, at paths as `G` says. The
issues of a function that is used as a rule have messages. -/
inductive Assembled (R : Fault → Prop) (G : Path → Prop) : Rule → Prop
  | function {r : Rule} : r.Ends (Issue.StandsAt G) R → Assembled R G r
  | predicate {path : Path} {message code group : Data} {p : Predicate} {r : Rule} : G path →
    (∀ v, FailsOnly (p v).result R) → ofPredicate path message p code group = .ok r →
    Assembled R G r
  | andThen {r s : Rule} : Assembled R G r → Assembled R G s → Assembled R G (r.andThen s)
  | combine {r s : Rule} : Assembled R G r → Assembled R G s → Assembled R G (r.combine s)
  | forbid {r s : Rule} {message code group : Data} : Assembled R G r →
    r.forbid message code group = .ok s → Assembled R G s
  | located {r : Rule} {path : Path} : Assembled R G r → G path → Assembled R G (r.located path)

theorem Ends.mono {Q' : Issue → Prop} (h : r.Ends Q R) (hQ : ∀ i, Q i → Q' i) : r.Ends Q' R where
  issues hx i hi := hQ i (h.issues hx i hi)
  faults := h.faults

theorem ends_ofIssue {i : Issue} {p : Predicate} (hi : Q i)
    (hp : ∀ v, FailsOnly (p v).result R) : (ofIssue i p).Ends Q R where
  issues hx j hj := (of_mem_ofIssue hx hj).2 ▸ hi
  faults v := FailsOnly.result_bind (hp v) fun b _ => by cases b <;> exact .ok _

theorem Ends.andThen (hr : r.Ends Q R) (hs : s.Ends Q R) : (r.andThen s).Ends Q R where
  issues hx := by
    obtain ⟨y, hy, hx⟩ := Traced.result_bind_eq_ok.mp hx
    cases y with
    | valid a => exact hs.issues hx
    | invalid is h => cases hx; exact hr.issues hy
  faults v := FailsOnly.result_bind (hr.faults v) fun y _ => by
    cases y with
    | valid a => exact hs.faults v
    | invalid is h => exact .ok _

theorem Ends.combine (hr : r.Ends Q R) (hs : s.Ends Q R) : (r.combine s).Ends Q R where
  issues hx := by
    obtain ⟨y, hy, hx⟩ := Traced.result_bind_eq_ok.mp hx
    obtain ⟨z, hz, hx⟩ := Traced.result_bind_eq_ok.mp hx
    cases hx
    rw [Validated.issues_check]
    exact List.forall_mem_append.mpr ⟨hr.issues hy, hs.issues hz⟩
  faults v := FailsOnly.result_bind (hr.faults v) fun _ _ =>
    FailsOnly.result_bind (hs.faults v) fun _ _ => .ok _

theorem Ends.forbidding {i : Issue} (hr : r.Ends Q R) (hi : Q i) : (r.forbidding i).Ends Q R where
  issues hx j hj := by
    obtain ⟨y, -, hx⟩ := Traced.result_bind_eq_ok.mp hx
    cases hv : y.isValid <;> rw [hv] at hx <;> cases hx
    · cases hj
    · exact List.mem_singleton.mp hj ▸ hi
  faults v := FailsOnly.result_bind (hr.faults v) fun y _ => by
    cases y.isValid <;> exact .ok _

theorem Ends.mapIssues {f : Issue → Issue} (hr : r.Ends Q R) (hf : ∀ i, Q i → Q (f i)) :
    Ends Q R ⟨fun v => do pure ((← r.run v).mapIssues f)⟩ where
  issues hx := by
    obtain ⟨y, hy, rfl⟩ := Traced.result_bind_pure_eq_ok.mp hx
    rw [Validated.issues_mapIssues]
    exact List.forall_mem_map.mpr fun i hi => hf i (hr.issues hy i hi)
  faults v := FailsOnly.result_bind (hr.faults v) fun _ _ => .ok _

theorem standsAt_settle {path : Path} (hpath : G path) (i : Issue) (h : i.StandsAt G) :
    (settle path i).StandsAt G := by
  unfold settle
  split
  · exact ⟨hpath, h.2⟩
  · exact h

/-- What is put together ends as its parts do, when nothing is wrong with the empty path. -/
theorem Assembled.ends (hroot : G ∅) (h : r.Assembled R G) : r.Ends (Issue.StandsAt G) R := by
  induction h with
  | function hr => exact hr
  | predicate hpath hp made =>
    obtain ⟨i, hi, made⟩ := Traced.except_bind_eq_ok.mp made
    cases made
    obtain ⟨hworded, rfl⟩ := Issue.make_eq_ok.mp hi
    exact ends_ofIssue ⟨hpath, hworded⟩ hp
  | andThen _ _ hr hs => exact hr.andThen hs
  | combine _ _ hr hs => exact hr.combine hs
  | forbid _ made hr =>
    obtain ⟨i, hi, made⟩ := Traced.except_bind_eq_ok.mp made
    cases made
    obtain ⟨hworded, rfl⟩ := Issue.make_eq_ok.mp hi
    exact hr.forbidding ⟨hroot, hworded⟩
  | located _ hpath hr => exact hr.mapIssues (standsAt_settle hpath)

theorem Assembled.worded (h : r.Assembled R fun _ => True) : r.Ends Issue.IsWorded R :=
  (h.ends trivial).mono fun _ hi => hi.2

end Rule

namespace Step

open Visit

variable {R : Fault → Prop} {G : Path → Prop} {t : Step} {path : Path} {g v : Data}

theorem ensureWorded_eq_ok {message : Data} : ensureWorded message = .ok () ↔ message.isTrue := by
  unfold ensureWorded
  split <;> simp [*]

/-- A step that could be carried out at a path reports there, or where its attached rule does, and
always with a message. -/
theorem standsAt_sites
    (hattach : ∀ source p r, t = .attach source p → source.result = .ok (some r) →
      r.Ends (Issue.StandsAt G) R)
    (hpath : G path) (hmade : (Visit.declare t.made).Completes) :
    ∀ s ∈ t.sites path g v, (Visit.check s).Only (Issue.StandsAt G) := by
  intro s hs is his i hi
  obtain ⟨_, hmade⟩ := hmade
  obtain ⟨_, hmade, -⟩ := Traced.result_bind_eq_ok.mp hmade
  cases sited_of_mem hs with
  | rule p code tag htext =>
    obtain ⟨-, rfl⟩ := Site.of_mem_ofPredicate his hi
    rw [made, if_pos htext] at hmade
    exact ⟨hpath, ensureWorded_eq_ok.mp hmade⟩
  | uncallable => cases his
  | attached p hr =>
    obtain ⟨x, hx, j, hj, rfl⟩ := Site.of_mem_ofRule his hi
    rename Option Rule => r
    cases r with
    | none => cases hx
    | some r =>
      obtain ⟨hj, hworded⟩ := (hattach _ p r rfl hr).issues hx j hj
      refine ⟨?_, hworded⟩
      unfold Site.stamp
      dsimp only
      split
      · exact hpath
      · exact hj
  | links links =>
    obtain ⟨l, hl, -, rfl⟩ := Site.of_mem_ofLinks his hi
    exact ⟨hpath, ensureWorded_eq_ok.mp (Traced.except_forM_eq_ok.mp hmade l hl)⟩

end Step

end Assay
