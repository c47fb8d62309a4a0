import Mathlib.Data.List.Basic
import Assay.Proofs.Evaluation
import Assay.Proofs.Occurrence

/-! # Relocation

A block whose attached rules leave the place to their scope can be evaluated
anywhere: moving the scope under a path moves every issue under that path. A
used validator is therefore the same as its declarations made on the spot.
-/

namespace Assay

open Visit

/-- Every issue that the rule reports is at the empty path. -/
def Rule.Unplaced (r : Rule) : Prop :=
  ∀ v x, (r.run v).result = .ok x → ∀ i ∈ x.issues, i.path.isEmpty

theorem Rule.unplaced_ofIssue {i : Issue} (h : i.path.isEmpty) (p : Predicate) :
    (ofIssue i p).Unplaced := by
  intro v x hx j hj
  obtain ⟨-, rfl⟩ := of_mem_ofIssue hx hj
  exact h

/-- The rules attached in the block, outside of used validators, leave the place to the scope. -/
def Step.Unplaced (block : List Step) : Prop :=
  ∀ source p r, Step.Within (.attach source p) block → source.result = .ok (some r) → r.Unplaced

namespace Site

theorem reparent_stamp (p q : Path) (label : Data) {i : Issue} (h : i.path.isEmpty) :
    Scope.reparent p (stamp q label i) = stamp (p.join q) label i := by
  simp [stamp, Scope.reparent, Issue.withPath, h]

theorem ofPredicate_join (p q : Path) (label v message code group : Data) (f : Predicate) :
    ofPredicate (p.join q) label v message code group f =
      (ofPredicate q label v message code group f).under p := by
  unfold ofPredicate under
  congr 1
  rw [bind_assoc]
  refine bind_congr fun b => ?_
  cases b <;> rfl

theorem ofRule_join (p q : Path) (label v : Data) {r : Rule} (h : r.Unplaced) :
    ofRule (p.join q) label v r = (ofRule q label v r).under p := by
  unfold ofRule under
  congr 1
  rw [bind_assoc]
  cases hx : (r.run v).result with
  | error e => rw [Traced.bind_of_error hx, Traced.bind_of_error hx]
  | ok x =>
    refine Traced.bind_congr_of_ok hx ?_
    rw [pure_bind, List.map_map]
    congr 1
    exact List.map_congr_left fun i hi => (reparent_stamp p q label (h v x hx i hi)).symm

theorem firstRefusal_join (p q : Path) (v : Data) (links : List Link) :
    firstRefusal (p.join q) v links =
      (do pure ((← firstRefusal q v links).map (Scope.reparent p))) := by
  induction links with
  | nil => rfl
  | cons l rest ih =>
    rw [firstRefusal, firstRefusal, bind_assoc]
    refine bind_congr fun b => ?_
    cases b
    · rfl
    · exact ih

theorem ofLinks_join (p q : Path) (v : Data) (links : List Link) :
    ofLinks (p.join q) v links = (ofLinks q v links).under p := by
  simp only [ofLinks, under, firstRefusal_join]

end Site

namespace Visit

theorem map_under_ofRead (path : Path) (owner : Option Data) (found : Run Data)
    (visits : Data → List Visit) :
    (ofRead owner found visits).map (under path) =
      ofRead owner found fun v => (visits v).map (under path) :=
  map_ofRead rfl visits

theorem map_under_ofItems (path : Path) (owner : Data) (visits : Nat → Data → List Visit) :
    (ofItems owner visits).map (under path) =
      ofItems owner fun i v => (visits i v).map (under path) :=
  map_ofItems rfl visits

theorem map_under_join (p q : Path) (xs : List Visit) :
    xs.map (under (p.join q)) = (xs.map (under q)).map (under p) := by
  rw [List.map_map]
  refine List.map_congr_left fun x _ => ?_
  cases x with
  | check s =>
    simp only [Function.comp_apply, under, Site.under, Path.join_assoc, bind_assoc, pure_bind,
      List.map_map]
    congr 3
    refine funext fun is => ?_
    congr 2
    funext i
    simp [Scope.reparent, Issue.withPath, Path.join_assoc]
  | _ => rfl

end Visit

namespace Step

variable {block rest : List Step} {t : Step}

theorem Unplaced.head (h : Unplaced (t :: rest)) : Unplaced t.block :=
  fun source p r hw => h source p r (.inside List.mem_cons_self hw)

theorem Unplaced.tail (h : Unplaced (t :: rest)) : Unplaced rest :=
  fun source p r hw => h source p r (hw.mono (List.subset_cons_self t rest))

theorem unplaced_rule (message : Data) (f : Option Predicate) (code tag : Data) :
    Unplaced [.rule message f code tag] := by
  intro source p r hw
  rcases within_cons.mp hw with h | h | h
  · cases h
  · cases not_within_nil h
  · cases not_within_nil h

theorem sites_join (p q : Path) (label v : Data)
    (h : ∀ source f r, t = .attach source f → source.result = .ok (some r) → r.Unplaced) :
    t.sites (p.join q) label v = (t.sites q label v).map (Site.under p) := by
  have huncallable : ∀ kind, (Rule.uncallable kind).Unplaced := by
    intro kind v x hx
    cases hx
  unfold sites
  split
  · split
    · cases ‹Option Predicate› <;> simp [Site.ofPredicate_join]
    · simp [Site.ofRule_join _ _ _ _ (huncallable _)]
  · next source f =>
    cases hs : source.result with
    | error e => rfl
    | ok r =>
      have hr : (Rule.ofOption r).Unplaced := by
        cases r with
        | none => exact huncallable _
        | some r => exact h source f r rfl hs
      simp [Site.ofRule_join _ _ _ _ hr]
  · split <;> simp [Site.ofLinks_join]
  · rfl

theorem flatMap_sites_join (h : Unplaced block) (p q : Path) (label v : Data) :
    (block.flatMap fun t => t.sites (p.join q) label v) =
      (block.flatMap fun t => t.sites q label v).map (Site.under p) := by
  rw [List.map_flatMap]
  refine List.flatMap_congr fun t ht => sites_join p q label v ?_
  rintro source f r rfl hs
  exact h source f r (.here ht) hs

theorem around_join (h : Unplaced block) (p q : Path) (label v : Data) (inner : List Visit) :
    around block (p.join q) label v (inner.map (under p)) =
      (around block q label v inner).map (under p) := by
  simp [around, flatMap_sites_join h, Function.comp_def, under]

mutual

theorem inner_join (t : Step) (h : Unplaced t.block) (p q : Path) (label v : Data) :
    t.inner (p.join q) label v = (t.inner q label v).map (under p) := by
  have hchild : ∀ name, (p.join q).child name = p.join (q.child name) := by
    simp [Path.child_eq_join, Path.join_assoc]
  have hindex : ∀ (q : Path) i, (p.join q).index i = p.join (q.index i) := by
    simp [Path.index_eq_join, Path.join_assoc]
  cases t with
  | field name getter block =>
    have hb : Unplaced block := h
    simp only [inner, map_under_ofRead, hchild, innerAll_join block hb, around_join hb]
  | fieldItems name getter block =>
    have hb : Unplaced block := h
    simp only [inner, map_under_ofRead, map_under_ofItems, hchild, hindex, innerAll_join block hb,
      around_join hb]
  | items block =>
    have hb : Unplaced block := h
    simp only [inner, map_under_ofItems, hindex, innerAll_join block hb, around_join hb]
  | unlessNull block =>
    have hb : Unplaced block := h
    simp only [inner, innerAll_join block hb, around_join hb]
    split <;> rfl
  | group tag block =>
    have hb : Unplaced block := h
    simp only [inner, innerAll_join block hb, around_join hb]
  | ruleIfPresent message f code tag =>
    have hb : Unplaced [.rule message f code tag] := unplaced_rule message f code tag
    simp only [inner]
    split
    · rfl
    · exact around_join hb p q label v []
  | use name declarations =>
    -- the paths of a validator start at its own value, so that only the outer paths are joined
    simp only [inner, map_under_join]
  | rule message f code tag => rfl
  | attach source f => rfl
  | dependent links => rfl
termination_by structural t

theorem innerAll_join (block : List Step) (h : Unplaced block) (p q : Path) (label v : Data) :
    innerAll block (p.join q) label v = (innerAll block q label v).map (under p) := by
  cases block with
  | nil => rfl
  | cons t rest =>
    rw [innerAll, innerAll, List.map_append, inner_join t h.head, innerAll_join rest h.tail]
termination_by structural block

end

/-- The visits of a block at a joined path are those at the second path, moved under the first. -/
theorem visits_join (h : Unplaced block) (p q : Path) (label v : Data) :
    visits block (p.join q) label v = (visits block q label v).map (under p) := by
  rw [visits, visits, innerAll_join block h, around_join h]

theorem check_join (h : Unplaced block) (p q : Path) (label v : Data) :
    Scope.check (applyAll block) (p.join q) label v =
      (do pure ((← Scope.check (applyAll block) q label v).mapIssues (Scope.reparent p))) := by
  rw [Scope.check_eq_runAll, Scope.check_eq_runAll, visits_join h, runAll_under, bind_assoc,
    bind_assoc]
  simp only [pure_bind, Validated.mapIssues_check]

end Step

end Assay
