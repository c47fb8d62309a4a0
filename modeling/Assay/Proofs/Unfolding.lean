import Assay.Proofs.Relocation
import Assay.Proofs.Traversal.Congruence

/-! # Unfolding of validators

Lists of steps are alike when they can be exchanged in every block. A used
validator is alike to its declarations made as steps on the spot, and so every
validator in a block, at any depth, can be unfolded.
-/

namespace Assay

open Visit

namespace Step

/-- The lists of steps can be exchanged for each other in every block. -/
structure Alike (xs ys : List Step) : Prop where
  made : forM xs Step.made = forM ys Step.made
  sites : ∀ path label v,
    (xs.flatMap fun t => t.sites path label v) = ys.flatMap fun t => t.sites path label v
  inner : ∀ path label v,
    runAll (innerAll xs path label v) = runAll (innerAll ys path label v)

namespace Alike

variable {xs ys zs xs' ys' : List Step}

theorem refl (xs : List Step) : Alike xs xs := ⟨rfl, fun _ _ _ => rfl, fun _ _ _ => rfl⟩

theorem symm (h : Alike xs ys) : Alike ys xs :=
  ⟨h.made.symm, fun path label v => (h.sites path label v).symm,
    fun path label v => (h.inner path label v).symm⟩

theorem trans (h : Alike xs ys) (h' : Alike ys zs) : Alike xs zs :=
  ⟨h.made.trans h'.made, fun path label v => (h.sites path label v).trans (h'.sites path label v),
    fun path label v => (h.inner path label v).trans (h'.inner path label v)⟩

theorem append (h : Alike xs ys) (h' : Alike xs' ys') : Alike (xs ++ xs') (ys ++ ys') where
  made := by rw [List.forM_append, List.forM_append, h.made, h'.made]
  sites path label v := by
    rw [List.flatMap_append, List.flatMap_append, h.sites, h'.sites]
  inner path label v := by
    rw [innerAll_append, innerAll_append, runAll_append, runAll_append, h.inner, h'.inner]

theorem runAll_visits (h : Alike xs ys) (path : Path) (label v : Data) :
    runAll (visits xs path label v) = runAll (visits ys path label v) := by
  rw [visits, visits, around, around, runAll_declares_append, runAll_declares_append,
    runAll_checks_append, runAll_checks_append, h.made, h.sites, h.inner]

/-- A block of alike steps is evaluated alike. -/
theorem check_eq (h : Alike xs ys) (path : Path) (label v : Data) :
    Scope.check (applyAll xs) path label v = Scope.check (applyAll ys) path label v := by
  rw [Scope.check_eq_runAll, Scope.check_eq_runAll, h.runAll_visits]

theorem of_inner {t u : Step} (hmade : t.made = u.made)
    (ht : ∀ path label v, t.sites path label v = [])
    (hu : ∀ path label v, u.sites path label v = [])
    (h : ∀ path label v, runAll (t.inner path label v) = runAll (u.inner path label v)) :
    Alike [t] [u] where
  made := by simp only [List.forM_cons, hmade]
  sites path label v := by simp [ht, hu]
  inner path label v := by rw [innerAll_singleton, innerAll_singleton, h]

theorem field (h : Alike xs ys) (name : Data) (getter : Option Getter) :
    Alike [.field name getter xs] [.field name getter ys] :=
  of_inner rfl (fun _ _ _ => rfl) (fun _ _ _ => rfl)
    (runCongruence_eq.runAll_inner_field h.runAll_visits name getter)

theorem fieldItems (h : Alike xs ys) (name : Data) (getter : Option Getter) :
    Alike [.fieldItems name getter xs] [.fieldItems name getter ys] :=
  of_inner rfl (fun _ _ _ => rfl) (fun _ _ _ => rfl)
    (runCongruence_eq.runAll_inner_fieldItems h.runAll_visits name getter)

theorem items (h : Alike xs ys) : Alike [.items xs] [.items ys] :=
  of_inner rfl (fun _ _ _ => rfl) (fun _ _ _ => rfl)
    (runCongruence_eq.runAll_inner_items h.runAll_visits)

theorem unlessNull (h : Alike xs ys) : Alike [.unlessNull xs] [.unlessNull ys] :=
  of_inner rfl (fun _ _ _ => rfl) (fun _ _ _ => rfl)
    (runCongruence_eq.runAll_inner_unlessNull h.runAll_visits)

theorem group (h : Alike xs ys) (tag : Data) : Alike [.group tag xs] [.group tag ys] :=
  of_inner rfl (fun _ _ _ => rfl) (fun _ _ _ => rfl) fun path _ v => h.runAll_visits path tag v

end Alike

end Step

namespace Declaration

/-- The declaration made as a step of a scope: for the whole value, a block without a label. -/
def direct : Declaration → Step
  | .root block => .group .null block
  | .field name getter block => .field name getter block
  | .fieldItems name getter block => .fieldItems name getter block

def IsNamed : Declaration → Prop
  | .root _ => True
  | .field name _ _ | .fieldItems name _ _ => ∃ n, name = .text n

/-- A validator that can be built, with texts as names, whose attached rules leave the place to
their scopes. -/
structure Embeddable (name : Data) (ds : List Declaration) : Prop where
  built : ∃ w, (Validator.ofDeclarations name ds).result = .ok w
  named : ∀ d ∈ ds, d.IsNamed
  unplaced : ∀ d ∈ ds, Step.Unplaced d.block

theorem made_direct {d : Declaration} (h : d.IsNamed) : d.direct.made = pure () := by
  cases d with
  | root block => rfl
  | field name getter block => obtain ⟨n, rfl⟩ := h; cases getter <;> rfl
  | fieldItems name getter block => obtain ⟨n, rfl⟩ := h; cases getter <;> rfl

theorem sites_direct (d : Declaration) (path : Path) (label v : Data) :
    d.direct.sites path label v = [] := by
  cases d <;> rfl

theorem inner_direct {d : Declaration} (hn : d.IsNamed) (hu : Step.Unplaced d.block) (path : Path)
    (label v : Data) : d.direct.inner path label v = (d.visits v).map (under path) := by
  cases d with
  | root block =>
    have hb : Step.Unplaced block := hu
    have := Step.visits_join hb path ∅ .null v
    rwa [Path.join_empty] at this
  | field name getter block =>
    have hb : Step.Unplaced block := hu
    obtain ⟨n, rfl⟩ := hn
    have hp : Validator.fieldPath (.text n) = .ok (Path.ofName (.text n)) := rfl
    simp only [direct, Step.inner, visits, hp, map_under_ofRead]
    congr 1
    funext w
    exact Step.visits_join hb path (Path.ofName (.text n)) .null w
  | fieldItems name getter block =>
    have hb : Step.Unplaced block := hu
    obtain ⟨n, rfl⟩ := hn
    have hp : Validator.fieldPath (.text n) = .ok (Path.ofName (.text n)) := rfl
    have hindex : ∀ i, (path.child (.text n)).index i =
        path.join ((Path.ofName (.text n)).index i) := by
      simp [Path.child_eq_join, Path.index_eq_join, Path.join_assoc]
    simp only [direct, Step.inner, visits, hp, map_under_ofRead, map_under_ofItems, hindex]
    congr 1
    funext w
    congr 1
    funext i u
    exact Step.visits_join hb path ((Path.ofName (.text n)).index i) .null u

theorem innerAll_direct {ds : List Declaration} (hn : ∀ d ∈ ds, d.IsNamed)
    (hu : ∀ d ∈ ds, Step.Unplaced d.block) (path : Path) (label v : Data) :
    Step.innerAll (ds.map direct) path label v = (visitsAll ds v).map (under path) := by
  induction ds with
  | nil => rfl
  | cons d rest ih =>
    obtain ⟨hd, hrest⟩ := List.forall_mem_cons.mp hn
    obtain ⟨hd', hrest'⟩ := List.forall_mem_cons.mp hu
    rw [List.map_cons, Step.innerAll, inner_direct hd hd', ih hrest hrest', visitsAll,
      List.map_append]

theorem forM_made_direct {ds : List Declaration} (hn : ∀ d ∈ ds, d.IsNamed) :
    forM (ds.map direct) Step.made = pure () := by
  refine Step.forM_made_of_forall fun t ht => ?_
  obtain ⟨d, hd, rfl⟩ := List.mem_map.mp ht
  exact made_direct (hn d hd)

/-- Using a validator is making its declarations on the spot. -/
theorem Embeddable.alike {name : Data} {ds : List Declaration} (h : Embeddable name ds) :
    Step.Alike [.use name ds] (ds.map direct) where
  made := by
    obtain ⟨w, hw⟩ := h.built
    rw [forM_made_direct h.named, List.forM_cons, Step.made, Validator.made_of_built hw]
    rfl
  sites path label v := by
    simp only [List.flatMap_map, sites_direct, List.flatMap_singleton]
    exact (List.flatMap_eq_nil_iff.mpr fun _ _ => rfl).symm
  inner path label v := by
    rw [innerAll_direct h.named h.unplaced, Step.innerAll_singleton, Step.inner]

end Declaration

mutual

/-- The step with every validator in it replaced by the declarations of the validator. -/
def Step.unfolded (t : Step) : List Step :=
  match t with
  | .field name getter block => [.field name getter (Step.unfoldedAll block)]
  | .fieldItems name getter block => [.fieldItems name getter (Step.unfoldedAll block)]
  | .items block => [.items (Step.unfoldedAll block)]
  | .unlessNull block => [.unlessNull (Step.unfoldedAll block)]
  | .group tag block => [.group tag (Step.unfoldedAll block)]
  | .use _ ds => Declaration.unfoldedAll ds
  | .rule message p code tag => [.rule message p code tag]
  | .attach source p => [.attach source p]
  | .ruleIfPresent message p code tag => [.ruleIfPresent message p code tag]
  | .dependent links => [.dependent links]
termination_by structural t

def Step.unfoldedAll (block : List Step) : List Step :=
  match block with
  | [] => []
  | t :: rest => t.unfolded ++ Step.unfoldedAll rest
termination_by structural block

def Declaration.unfolded (d : Declaration) : Step :=
  match d with
  | .root block => .group .null (Step.unfoldedAll block)
  | .field name getter block => .field name getter (Step.unfoldedAll block)
  | .fieldItems name getter block => .fieldItems name getter (Step.unfoldedAll block)
termination_by structural d

def Declaration.unfoldedAll (ds : List Declaration) : List Step :=
  match ds with
  | [] => []
  | d :: rest => d.unfolded :: Declaration.unfoldedAll rest
termination_by structural ds

end

/-- Every validator that the block uses, at any depth, can be embedded. -/
def Step.Embeds (block : List Step) : Prop :=
  ∀ name ds, Step.Occurs (.use name ds) block → Declaration.Embeddable name ds

namespace Step

variable {block rest : List Step} {t u : Step}

theorem Embeds.mono (h : Embeds block) (hsub : rest ⊆ block) : Embeds rest :=
  fun name ds ho => h name ds (ho.mono hsub)

theorem Embeds.inside (h : Embeds block) (ht : t ∈ block) : Embeds t.block :=
  fun name ds ho => h name ds (.inside ht ho)

theorem Embeds.used (h : Embeds block) {name : Data} {ds : List Declaration}
    (ht : .use name ds ∈ block) {d : Declaration} (hd : d ∈ ds) : Embeds d.block :=
  fun name' ds' ho => h name' ds' (.used ht hd ho)

end Step

mutual

theorem Step.alike_unfolded (t : Step) (h : Step.Embeds [t]) : Step.Alike t.unfolded [t] := by
  have ht : t ∈ [t] := List.mem_singleton_self t
  cases t with
  | field name getter block => exact (Step.alike_unfoldedAll block (h.inside ht)).field name getter
  | fieldItems name getter block =>
    exact (Step.alike_unfoldedAll block (h.inside ht)).fieldItems name getter
  | items block => exact (Step.alike_unfoldedAll block (h.inside ht)).items
  | unlessNull block => exact (Step.alike_unfoldedAll block (h.inside ht)).unlessNull
  | group tag block => exact (Step.alike_unfoldedAll block (h.inside ht)).group tag
  | use name ds =>
    -- unfold inside the declarations first, then put them in the place of the step
    have hds := Declaration.alike_unfoldedAll ds fun d hd => h.used ht hd
    exact hds.trans (h name ds (.here ht)).alike.symm
  | rule message p code tag => exact .refl _
  | attach source p => exact .refl _
  | ruleIfPresent message p code tag => exact .refl _
  | dependent links => exact .refl _
termination_by structural t

theorem Step.alike_unfoldedAll (block : List Step) (h : Step.Embeds block) :
    Step.Alike (Step.unfoldedAll block) block := by
  cases block with
  | nil => exact .refl []
  | cons t rest =>
    have ht := Step.alike_unfolded t (h.mono (List.cons_subset_cons t (List.nil_subset rest)))
    have hrest := Step.alike_unfoldedAll rest (h.mono (List.subset_cons_self t rest))
    exact ht.append hrest
termination_by structural block

theorem Declaration.alike_unfolded (d : Declaration) (h : Step.Embeds d.block) :
    Step.Alike [d.unfolded] [d.direct] := by
  cases d with
  | root block => exact (Step.alike_unfoldedAll block h).group .null
  | field name getter block => exact (Step.alike_unfoldedAll block h).field name getter
  | fieldItems name getter block => exact (Step.alike_unfoldedAll block h).fieldItems name getter
termination_by structural d

theorem Declaration.alike_unfoldedAll (ds : List Declaration)
    (h : ∀ d ∈ ds, Step.Embeds d.block) :
    Step.Alike (Declaration.unfoldedAll ds) (ds.map Declaration.direct) := by
  cases ds with
  | nil => exact .refl []
  | cons d rest =>
    obtain ⟨hd, hrest⟩ := List.forall_mem_cons.mp h
    exact (Declaration.alike_unfolded d hd).append (Declaration.alike_unfoldedAll rest hrest)
termination_by structural ds

end

/-- The block uses no validator, at any depth. -/
def Step.Plain (block : List Step) : Prop :=
  ∀ name ds, ¬ Step.Occurs (.use name ds) block

namespace Step

variable {block rest : List Step} {t : Step}

theorem Plain.nil : Plain [] := fun _ _ => not_occurs_nil

theorem Plain.append (h : Plain block) (h' : Plain rest) : Plain (block ++ rest) := by
  intro name ds ho
  rcases occurs_append.mp ho with ho | ho
  · exact h name ds ho
  · exact h' name ds ho

theorem Plain.singleton (ht : ∀ name ds, t ≠ .use name ds) (h : Plain t.block) : Plain [t] := by
  intro name ds ho
  rcases occurs_cons.mp ho with rfl | ho | ⟨name, ds, d, rfl, -⟩ | ho
  · exact ht name ds rfl
  · exact h name ds ho
  · exact ht name ds rfl
  · exact not_occurs_nil ho

end Step

mutual

theorem Step.plain_unfolded (t : Step) : Step.Plain t.unfolded := by
  cases t with
  | field name getter block => exact .singleton nofun (Step.plain_unfoldedAll block)
  | fieldItems name getter block => exact .singleton nofun (Step.plain_unfoldedAll block)
  | items block => exact .singleton nofun (Step.plain_unfoldedAll block)
  | unlessNull block => exact .singleton nofun (Step.plain_unfoldedAll block)
  | group tag block => exact .singleton nofun (Step.plain_unfoldedAll block)
  | use name ds => exact Declaration.plain_unfoldedAll ds
  | rule message p code tag => exact .singleton nofun .nil
  | attach source p => exact .singleton nofun .nil
  | ruleIfPresent message p code tag => exact .singleton nofun .nil
  | dependent links => exact .singleton nofun .nil
termination_by structural t

theorem Step.plain_unfoldedAll (block : List Step) : Step.Plain (Step.unfoldedAll block) := by
  cases block with
  | nil => exact .nil
  | cons t rest => exact (Step.plain_unfolded t).append (Step.plain_unfoldedAll rest)
termination_by structural block

theorem Declaration.plain_unfolded (d : Declaration) : Step.Plain [d.unfolded] := by
  cases d with
  | root block => exact .singleton nofun (Step.plain_unfoldedAll block)
  | field name getter block => exact .singleton nofun (Step.plain_unfoldedAll block)
  | fieldItems name getter block => exact .singleton nofun (Step.plain_unfoldedAll block)
termination_by structural d

theorem Declaration.plain_unfoldedAll (ds : List Declaration) :
    Step.Plain (Declaration.unfoldedAll ds) := by
  cases ds with
  | nil => exact .nil
  | cons d rest => exact (Declaration.plain_unfolded d).append (Declaration.plain_unfoldedAll rest)
termination_by structural ds

end

namespace Step

/-- A block is evaluated in any place as it is in any other, with its issues moved along, and a
validator that it uses can be unfolded: on the spot, or together with all others in the block. -/
theorem check_relocated_and_unfolded (block : List Step) :
    (Unplaced block → ∀ p q label v,
      Scope.check (applyAll block) (p.join q) label v =
        (do pure ((← Scope.check (applyAll block) q label v).mapIssues (Scope.reparent p)))) ∧
    (∀ before name ds after, block = before ++ .use name ds :: after →
      Declaration.Embeddable name ds → ∀ path label v,
        Scope.check (applyAll block) path label v =
          Scope.check (applyAll (before ++ ds.map Declaration.direct ++ after)) path label v) ∧
    (Embeds block → Plain (unfoldedAll block) ∧ ∀ path label v,
      Scope.check (applyAll block) path label v =
        Scope.check (applyAll (unfoldedAll block)) path label v) := by
  refine ⟨?_, ?_, ?_⟩
  · intro h p q label v
    exact check_join h p q label v
  · rintro before name ds after rfl h path label v
    have hmid : Alike (.use name ds :: after) (ds.map Declaration.direct ++ after) :=
      h.alike.append (.refl after)
    rw [List.append_assoc]
    exact ((Alike.refl before).append hmid).check_eq path label v
  · intro h
    exact ⟨plain_unfoldedAll block,
      fun path label v => (alike_unfoldedAll block h).symm.check_eq path label v⟩

def samplePoint : Declaration :=
  .root [.rule (.text "no point") (some fun v => pure v.isTrue) .null .null]

def sampleLine : Declaration :=
  .field (.text "from") none [.use (.text "Point") [samplePoint]]

def sampleBlock : List Step :=
  [.attach (pure (some (.ofIssue ⟨∅, .text "degenerate", .null, .null⟩ fun _ => pure false))) none,
    .use (.text "Line") [sampleLine]]

def sampleWhole : Data := .mapping [(.text "from", .list [])]

theorem unplaced_sampleBlock : Unplaced sampleBlock := by
  intro source p r hw hr
  simp only [sampleBlock, within_cons, not_within_nil, Step.block, or_false, reduceCtorEq,
    Step.attach.injEq] at hw
  obtain ⟨rfl, -⟩ := hw
  cases hr
  exact Rule.unplaced_ofIssue rfl _

theorem embeds_sampleBlock : Embeds sampleBlock := by
  intro name ds ho
  simp [sampleBlock, sampleLine, samplePoint, occurs_cons, Step.block, Declaration.block] at ho
  rcases ho with ⟨rfl, rfl⟩ | ⟨rfl, rfl⟩
  · refine ⟨⟨_, rfl⟩, by simp [Declaration.IsNamed], ?_⟩
    simp [Unplaced, within_cons, Step.block, Declaration.block]
  · refine ⟨⟨_, rfl⟩, by simp [Declaration.IsNamed], ?_⟩
    simpa [Declaration.block] using unplaced_rule _ _ _ _

theorem sampleBlock_relocated_and_unfolded :
    Scope.check (applyAll sampleBlock) ((Path.ofName (.text "a")).join ⟨[.index 0]⟩) .null
        sampleWhole =
        (do pure ((← Scope.check (applyAll sampleBlock) ⟨[.index 0]⟩ .null sampleWhole).mapIssues
          (Scope.reparent (Path.ofName (.text "a"))))) ∧
      Scope.check (applyAll sampleBlock) ∅ .null sampleWhole =
        Scope.check (applyAll (sampleBlock.take 1 ++ [sampleLine.direct] ++ [])) ∅ .null
          sampleWhole ∧
      Plain (unfoldedAll sampleBlock) ∧
      Scope.check (applyAll sampleBlock) ∅ .null sampleWhole =
        Scope.check (applyAll (unfoldedAll sampleBlock)) ∅ .null sampleWhole := by
  obtain ⟨hjoin, hone, hall⟩ := check_relocated_and_unfolded sampleBlock
  have hline : Declaration.Embeddable (.text "Line") [sampleLine] :=
    embeds_sampleBlock _ _ (.here (.tail _ (.head _)))
  refine ⟨?_, ?_, ?_, ?_⟩
  · exact hjoin unplaced_sampleBlock _ _ _ _
  · exact hone (sampleBlock.take 1) _ _ [] rfl hline _ _ _
  · exact (hall embeds_sampleBlock).1
  · exact (hall embeds_sampleBlock).2 _ _ _

end Step

end Assay
