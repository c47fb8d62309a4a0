import Assay.Proofs.Evaluation

/-! # Regrouping

Labels can be taken out of a program. The label that a rule ends up with is
written at the rule itself, and any change of the labels that leaves their
absence alone is then a change of the program. Nothing else is affected: the
visits stay the same but for the groups of the issues that they find.
-/

namespace Assay

open Visit

def Issue.regrouped (f : Data → Data) (i : Issue) : Issue := i.withGroup (f i.group)

def Issue.ungrouped (i : Issue) : Issue := i.regrouped fun _ => .null

def Rule.regrouped (f : Data → Data) (r : Rule) : Rule :=
  ⟨fun v => do pure ((← r.run v).mapIssues (Issue.regrouped f))⟩

namespace Step

def assigned (label own : Data) : Data := if label.isNull then own else label

end Step

mutual

/-- The step without labels, where each rule has the group that it is assigned under the label,
changed by `f`. -/
def Step.regrouped (f : Data → Data) (t : Step) (label : Data) : Step :=
  match t with
  | .rule message p code tag => .rule message p code (f (Step.assigned label tag))
  | .attach source p =>
    .attach (do pure ((← source).map (Rule.regrouped (f ∘ Step.assigned label)))) p
  | .ruleIfPresent message p code tag =>
    .ruleIfPresent message p code (f (Step.assigned label tag))
  | .unlessNull block => .unlessNull (Step.regroupedAll f block label)
  | .group tag block => .group .null (Step.regroupedAll f block tag)
  | .field name getter block => .field name getter (Step.regroupedAll f block .null)
  | .fieldItems name getter block => .fieldItems name getter (Step.regroupedAll f block .null)
  | .items block => .items (Step.regroupedAll f block .null)
  | .use name ds => .use name (Declaration.regroupedAll f ds)
  | .dependent links => .dependent links
termination_by structural t

def Step.regroupedAll (f : Data → Data) (block : List Step) (label : Data) : List Step :=
  match block with
  | [] => []
  | t :: rest => t.regrouped f label :: Step.regroupedAll f rest label
termination_by structural block

def Declaration.regrouped (f : Data → Data) (d : Declaration) : Declaration :=
  match d with
  | .root block => .root (Step.regroupedAll f block .null)
  | .field name getter block => .field name getter (Step.regroupedAll f block .null)
  | .fieldItems name getter block => .fieldItems name getter (Step.regroupedAll f block .null)
termination_by structural d

def Declaration.regroupedAll (f : Data → Data) (ds : List Declaration) : List Declaration :=
  match ds with
  | [] => []
  | d :: rest => d.regrouped f :: Declaration.regroupedAll f rest
termination_by structural ds

end

namespace Site

def regrouped (f : Data → Data) (s : Site) : Site :=
  { s with findings := do pure ((← s.findings).map (Issue.regrouped f)) }

variable {f : Data → Data}

theorem regrouped_ofPredicate (path : Path) (label v message code tag : Data) (p : Predicate) :
    ofPredicate path .null v message code (f (Step.assigned label tag)) p =
      (ofPredicate path label v message code tag p).regrouped f := by
  simp only [ofPredicate, regrouped, bind_assoc, Site.mk.injEq, true_and]
  refine bind_congr fun b => ?_
  cases b <;> rfl

theorem regrouped_ofRule (path : Path) (label v : Data) (r : Rule) :
    ofRule path .null v (r.regrouped (f ∘ Step.assigned label)) =
      (ofRule path label v r).regrouped f := by
  simp only [ofRule, regrouped, Rule.regrouped, bind_assoc, pure_bind, Validated.issues_mapIssues,
    List.map_map]
  rfl

theorem regrouped_uncallable (path : Path) (label v : Data) (kind : String) :
    ofRule path .null v (.uncallable kind) =
      (ofRule path label v (.uncallable kind)).regrouped f := rfl

theorem firstRefusal_regrouped (hf : f .null = .null) (path : Path) (v : Data)
    (links : List Link) :
    (do pure ((← firstRefusal path v links).map (Issue.regrouped f))) =
      firstRefusal path v links := by
  induction links with
  | nil => rfl
  | cons l rest ih =>
    rw [firstRefusal, bind_assoc]
    refine bind_congr fun b => ?_
    cases b with
    | true => exact ih
    | false => simp [Issue.regrouped, Issue.withGroup, hf]

theorem regrouped_ofLinks (hf : f .null = .null) (path : Path) (v : Data) (links : List Link) :
    ofLinks path v links = (ofLinks path v links).regrouped f := by
  simp only [ofLinks, regrouped, firstRefusal_regrouped hf]

end Site

namespace Visit

def regrouped (f : Data → Data) : Visit → Visit
  | check s => check (s.regrouped f)
  | x => x

variable {f : Data → Data}

theorem run_regrouped (x : Visit) :
    (x.regrouped f).run = (do pure ((← x.run).map (Issue.regrouped f))) := by
  cases x <;> simp [regrouped, run, Site.regrouped]

theorem runAll_regrouped (xs : List Visit) :
    runAll (xs.map (regrouped f)) = (do pure ((← runAll xs).map (Issue.regrouped f))) :=
  runAll_map run_regrouped xs

theorem map_regrouped_ofRead (owner : Option Data) (found : Run Data)
    (visits : Data → List Visit) :
    (ofRead owner found visits).map (regrouped f) =
      ofRead owner found fun v => (visits v).map (regrouped f) :=
  map_ofRead rfl visits

theorem map_regrouped_ofItems (owner : Data) (visits : Nat → Data → List Visit) :
    (ofItems owner visits).map (regrouped f) =
      ofItems owner fun i v => (visits i v).map (regrouped f) :=
  map_ofItems rfl visits

theorem map_regrouped_under (path : Path) (xs : List Visit) :
    (xs.map (under path)).map (regrouped f) = (xs.map (regrouped f)).map (under path) := by
  rw [List.map_map, List.map_map]
  refine List.map_congr_left fun x _ => ?_
  cases x with
  | check s =>
    simp only [Function.comp_apply, under, regrouped, Site.under, Site.regrouped, bind_assoc,
      pure_bind, List.map_map]
    rfl
  | _ => rfl

end Visit

namespace Step

variable {f : Data → Data}

theorem sites_regrouped (hf : f .null = .null) (t : Step) (path : Path) (label v : Data) :
    (t.regrouped f label).sites path .null v = (t.sites path label v).map (Site.regrouped f) := by
  cases t with
  | rule message p code tag =>
    simp only [regrouped, sites]
    split
    · cases p with
      | none => rfl
      | some p => exact congrArg (fun s => [s]) (Site.regrouped_ofPredicate ..)
    · exact congrArg (fun s => [s]) (Site.regrouped_uncallable ..)
  | attach source p =>
    simp only [regrouped, sites, Traced.result_bind]
    cases source.result with
    | error e => rfl
    | ok r =>
      cases r with
      | none => exact congrArg (fun s => [s]) (Site.regrouped_uncallable ..)
      | some r => exact congrArg (fun s => [s]) (Site.regrouped_ofRule ..)
  | dependent links =>
    simp only [regrouped, sites]
    split
    · rfl
    · exact congrArg (fun s => [s]) (Site.regrouped_ofLinks hf path v links)
  | _ => rfl

theorem flatMap_sites_regrouped (hf : f .null = .null) (block : List Step) (path : Path)
    (label v : Data) :
    ((regroupedAll f block label).flatMap fun t => t.sites path .null v) =
      (block.flatMap fun t => t.sites path label v).map (Site.regrouped f) := by
  induction block with
  | nil => rfl
  | cons t rest ih =>
    rw [regroupedAll, List.flatMap_cons, List.flatMap_cons, List.map_append, ih,
      sites_regrouped hf]

end Step

theorem Declaration.forM_made_regrouped (f : Data → Data) (ds : List Declaration) (owner : Data) :
    forM (Declaration.regroupedAll f ds) (Declaration.made owner) =
      forM ds (Declaration.made owner) := by
  induction ds with
  | nil => rfl
  | cons d rest ih =>
    have hd : (d.regrouped f).made owner = d.made owner := by cases d <;> rfl
    rw [regroupedAll, List.forM_cons, List.forM_cons, ih, hd]

namespace Step

variable {f : Data → Data}

theorem made_regrouped (t : Step) (label : Data) : (t.regrouped f label).made = t.made := by
  cases t with
  | rule message p code tag => cases message <;> cases p <;> rfl
  | attach source p => simp only [regrouped, made, bind_assoc, pure_bind]
  | use name ds => simp only [regrouped, made, Declaration.forM_made_regrouped]
  | _ => rfl

theorem declares_regrouped (block : List Step) (label : Data) :
    ((regroupedAll f block label).map fun t => Visit.declare t.made) =
      (block.map fun t => Visit.declare t.made).map (Visit.regrouped f) := by
  induction block with
  | nil => rfl
  | cons t rest ih =>
    rw [regroupedAll, List.map_cons, List.map_cons, List.map_cons, ih, made_regrouped]
    rfl

theorem around_regrouped (hf : f .null = .null) (block : List Step) (path : Path) (label v : Data)
    (inner : List Visit) :
    around (regroupedAll f block label) path .null v (inner.map (Visit.regrouped f)) =
      (around block path label v inner).map (Visit.regrouped f) := by
  simp only [around, declares_regrouped, flatMap_sites_regrouped hf, List.map_append, List.map_map]
  rfl

end Step

mutual

theorem Step.inner_regrouped {f : Data → Data} (hf : f .null = .null) (t : Step) (path : Path)
    (label v : Data) :
    (t.regrouped f label).inner path .null v = (t.inner path label v).map (Visit.regrouped f) := by
  cases t with
  | field name getter block =>
    simp only [Step.regrouped, Step.inner, map_regrouped_ofRead, Step.innerAll_regrouped hf,
      Step.around_regrouped hf]
  | fieldItems name getter block =>
    simp only [Step.regrouped, Step.inner, map_regrouped_ofRead, map_regrouped_ofItems,
      Step.innerAll_regrouped hf, Step.around_regrouped hf]
  | items block =>
    simp only [Step.regrouped, Step.inner, map_regrouped_ofItems, Step.innerAll_regrouped hf,
      Step.around_regrouped hf]
  | unlessNull block =>
    simp only [Step.regrouped, Step.inner, Step.innerAll_regrouped hf, Step.around_regrouped hf]
    split <;> rfl
  | group tag block =>
    simp only [Step.regrouped, Step.inner, Step.innerAll_regrouped hf, Step.around_regrouped hf]
  | ruleIfPresent message p code tag =>
    have h := Step.around_regrouped hf [.rule message p code tag] path label v []
    simp only [Step.regrouped, Step.inner]
    split
    · rfl
    · exact h
  | use name ds =>
    simp only [Step.regrouped, Step.inner, Declaration.visitsAll_regrouped hf,
      map_regrouped_under]
  | rule message p code tag => rfl
  | attach source p => rfl
  | dependent links => rfl
termination_by structural t

theorem Step.innerAll_regrouped {f : Data → Data} (hf : f .null = .null) (block : List Step)
    (path : Path) (label v : Data) :
    Step.innerAll (Step.regroupedAll f block label) path .null v =
      (Step.innerAll block path label v).map (Visit.regrouped f) := by
  cases block with
  | nil => rfl
  | cons t rest =>
    rw [Step.regroupedAll, Step.innerAll, Step.innerAll, List.map_append,
      Step.inner_regrouped hf t, Step.innerAll_regrouped hf rest]
termination_by structural block

theorem Declaration.visits_regrouped {f : Data → Data} (hf : f .null = .null) (d : Declaration)
    (v : Data) : (d.regrouped f).visits v = (d.visits v).map (Visit.regrouped f) := by
  cases d with
  | root block =>
    simp only [Declaration.regrouped, Declaration.visits, Step.innerAll_regrouped hf,
      Step.around_regrouped hf]
  | field name getter block =>
    simp only [Declaration.regrouped, Declaration.visits]
    cases Validator.fieldPath name with
    | error e => rfl
    | ok path =>
      simp only [map_regrouped_ofRead, Step.innerAll_regrouped hf, Step.around_regrouped hf]
  | fieldItems name getter block =>
    simp only [Declaration.regrouped, Declaration.visits]
    cases Validator.fieldPath name with
    | error e => rfl
    | ok path =>
      simp only [map_regrouped_ofRead, map_regrouped_ofItems, Step.innerAll_regrouped hf,
        Step.around_regrouped hf]
termination_by structural d

theorem Declaration.visitsAll_regrouped {f : Data → Data} (hf : f .null = .null)
    (ds : List Declaration) (v : Data) :
    Declaration.visitsAll (Declaration.regroupedAll f ds) v =
      (Declaration.visitsAll ds v).map (Visit.regrouped f) := by
  cases ds with
  | nil => rfl
  | cons d rest =>
    rw [Declaration.regroupedAll, Declaration.visitsAll, Declaration.visitsAll, List.map_append,
      Declaration.visits_regrouped hf d, Declaration.visitsAll_regrouped hf rest]
termination_by structural ds

end

namespace Step

variable {f : Data → Data}

theorem visitsRead_regrouped (hf : f .null = .null) (block : List Step) (path : Path)
    (label : Data) (read : Run Data) :
    visitsRead (regroupedAll f block label) path .null read =
      (visitsRead block path label read).map (Visit.regrouped f) := by
  simp only [visitsRead, List.map_append, map_regrouped_ofRead, declares_regrouped,
    flatMap_sites_regrouped hf, innerAll_regrouped hf, List.map_map]
  rfl

/-- Evaluating a regrouped block is evaluating the block and changing the groups of its issues. -/
theorem evaluation_regrouped (hf : f .null = .null) (block : List Step) (path : Path)
    (label : Data) (read : Run Data) :
    evaluation (regroupedAll f block label) path .null read =
      (do pure ((← evaluation block path label read).mapIssues (Issue.regrouped f))) := by
  simp only [evaluation_eq_runAll, visitsRead_regrouped hf, runAll_regrouped, bind_assoc,
    pure_bind, Validated.mapIssues_check]

end Step

end Assay
