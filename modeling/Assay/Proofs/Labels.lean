import Assay.Proofs.Labels.Governing
import Assay.Proofs.Labels.Recipes

/-! # Labels

What labels do to an evaluation, and what they do not. The group of an issue is
the label that governs its rule, or the rule's own group where no label does.
Labels and groups have no influence on anything else.
-/

namespace Assay

open Visit

namespace Step

/-- What a step reports on a value by itself: the message, the code and the group are those of its
rule, and a chain gives no group. -/
inductive Reports (v : Data) : Step → Issue → Prop
  | rule (path : Path) {message : Data} {p : Predicate} {code tag : Data} :
    message.isText → (p v).result = .ok false →
      Reports v (.rule message (some p) code tag) ⟨path, message, code, tag⟩
  | attached {source : Run (Option Rule)} {f : Option Predicate} {r : Rule} {x : Validated Data}
    {i : Issue} : source.result = .ok (some r) → (r.run v).result = .ok x → i ∈ x.issues →
      Reports v (.attach source f) i
  | link (path : Path) {links : List Link} {l : Link} : l ∈ links →
    (l.predicate v).result = .ok false →
      Reports v (.dependent links) ⟨path, l.message, l.code, .null⟩

/-- The group under which the step reports on a scope with the label `g`, when its rule gives the
group `own`. Chains are not labelled. -/
def groupUnder (t : Step) (g own : Data) : Data :=
  match t with
  | .dependent _ => own
  | _ => assigned g own

/-- The issue is what a step of the block reports, under the group that the label governing the
step leads to. -/
def Grouped (label : Data) (block : List Step) (i : Issue) : Prop :=
  ∃ t g, Governed t g label block ∧ ∃ v j, Reports v t j ∧
    i.message = j.message ∧ i.code = j.code ∧ i.group = t.groupUnder g j.group

variable {block : List Step} {label g v : Data} {path : Path}

theorem placeless_grouped : Issue.Placeless (Grouped label block) := by
  rintro path i ⟨t, g, ht, v, j, hj, h⟩
  exact ⟨t, g, ht, v, j, hj, h⟩

/-- Each issue of a site is grouped by the label of the scope that the site belongs to. -/
theorem findsOnly_grouped (label : Data) (block : List Step) :
    FindsOnly (Grouped label block) label block := by
  intro t g ht path v s hs is his i hi
  cases sited_of_mem hs with
  | rule p code tag htext =>
    obtain ⟨hp, rfl⟩ := Site.of_mem_ofPredicate his hi
    exact ⟨_, g, ht, v, _, .rule path htext hp, rfl, rfl, rfl⟩
  | uncallable => cases his
  | attached f hr =>
    obtain ⟨x, hx, j, hj, rfl⟩ := Site.of_mem_ofRule his hi
    rename Option Rule => r
    cases r with
    | none => cases hx
    | some r => exact ⟨_, g, ht, v, j, .attached hr hx hj, rfl, rfl, rfl⟩
  | links links =>
    obtain ⟨l, hl, hp, rfl⟩ := Site.of_mem_ofLinks his hi
    exact ⟨_, g, ht, v, _, .link path hl hp, rfl, rfl, rfl⟩

theorem grouped_of_evaluation {read : Run Data} {x : Validated Data}
    (h : (evaluation block path label read).result = .ok x) :
    ∀ i ∈ x.issues, Grouped label block i :=
  (findsOnly_grouped label block).of_evaluation placeless_grouped h

/-- The block without labels, where every rule has the group under which it reports. -/
def settledAll (block : List Step) (label : Data) : List Step := regroupedAll id block label

/-- The block without labels and without groups of rules. -/
def ungroupedAll (block : List Step) : List Step := regroupedAll (fun _ => .null) block .null

theorem evaluation_settled (block : List Step) (path : Path) (label : Data) (read : Run Data) :
    evaluation (settledAll block label) path .null read = evaluation block path label read := by
  have hid : Issue.regrouped id = id := rfl
  rw [settledAll, evaluation_regrouped rfl, hid]
  simp only [Validated.mapIssues_id, bind_pure]

end Step

mutual

theorem Step.regrouped_const (c : Data) (t : Step) (label label' : Data) :
    t.regrouped (fun _ => c) label = t.regrouped (fun _ => c) label' := by
  cases t with
  | unlessNull block => exact congrArg Step.unlessNull (Step.regroupedAll_const c block _ _)
  | _ => rfl
termination_by structural t

theorem Step.regroupedAll_const (c : Data) (block : List Step) (label label' : Data) :
    Step.regroupedAll (fun _ => c) block label = Step.regroupedAll (fun _ => c) block label' := by
  cases block with
  | nil => rfl
  | cons t rest =>
    rw [Step.regroupedAll, Step.regroupedAll, Step.regrouped_const c t label label',
      Step.regroupedAll_const c rest label label']
termination_by structural block

end

namespace Step

theorem evaluation_ungrouped (block : List Step) (path : Path) (label : Data) (read : Run Data) :
    (do pure ((← evaluation block path label read).mapIssues Issue.ungrouped)) =
      evaluation (ungroupedAll block) path .null read := by
  rw [ungroupedAll, regroupedAll_const .null block .null label, evaluation_regrouped rfl]
  rfl

/-- Labels decide the groups of issues and nothing else. An evaluation is that of the block without
labels in which each rule has the group it reports under; each issue comes from a rule of the block
and has the label that governs the rule, or the rule's own group where there is none; and blocks
that differ in labels and groups alone agree on everything else, with the same calls and faults. -/
theorem evaluation_groups (block : List Step) (path : Path) (label : Data) (read : Run Data) :
    evaluation block path label read = evaluation (settledAll block label) path .null read ∧
      (∀ x, (evaluation block path label read).result = .ok x →
        ∀ i ∈ x.issues, Grouped label block i) ∧
      ∀ block' label', ungroupedAll block = ungroupedAll block' →
        (do pure ((← evaluation block path label read).mapIssues Issue.ungrouped)) =
          (do pure ((← evaluation block' path label' read).mapIssues Issue.ungrouped)) := by
  refine ⟨(evaluation_settled block path label read).symm, ?_, ?_⟩
  · intro x hx
    exact grouped_of_evaluation hx
  · intro block' label' h
    rw [evaluation_ungrouped, evaluation_ungrouped, h]

def sampleLabels (outer inner own : String) (r : Recipe) : List Step :=
  [.group (.text outer)
    [.attach r.build none,
      .rule (.text "direct") (some fun _ => pure false) .null (.text own),
      .unlessNull [.ruleIfPresent (.text "present") (some fun _ => pure false) .null (.text own)],
      .dependent [⟨.text "chained", fun _ => pure false, .null⟩],
      .use (.text "Part")
        [.root [.rule (.text "used") (some fun _ => pure false) .null (.text own)]],
      .group (.text inner) [.rule (.text "inner") (some fun _ => pure false) .null (.text own)]],
    .rule (.text "outside") (some fun _ => pure false) .null (.text own)]

def sampleRecipe (own : String) : Recipe :=
  .rule (.text "attached") (fun _ => pure false) .null (.text own)

theorem ungroupedAll_sampleLabels (outer inner own outer' inner' own' : String) {r r' : Recipe}
    (h : r.ungrouped = r'.ungrouped) :
    ungroupedAll (sampleLabels outer inner own r) =
      ungroupedAll (sampleLabels outer' inner' own' r') := by
  have hattach := ungrouped_attach_build h none (.text outer) (.text outer')
  exact congrArg (fun t => [Step.group .null (t :: _), _]) hattach

def sampleLabelled : List Step := sampleLabels "A" "B" "own" (sampleRecipe "own")

def sampleRelabelled : List Step := sampleLabels "C" "D" "other" (sampleRecipe "other")

theorem groups_of_sampleLabelled :
    (∃ x, (evaluation sampleLabelled ∅ .null (pure (.int 1))).result = .ok x ∧
      x.issues.map (fun i => (i.message, i.group)) =
        [(.text "outside", .text "own"), (.text "attached", .text "A"),
          (.text "direct", .text "A"), (.text "chained", .null), (.text "present", .text "A"),
          (.text "used", .text "own"), (.text "inner", .text "B")] ∧
      (∀ i ∈ x.issues, Grouped .null sampleLabelled i) ∧
      (evaluation (settledAll sampleLabelled .null) ∅ .null (pure (.int 1))).result = .ok x) ∧
      (do pure ((← evaluation sampleLabelled ∅ .null (pure (.int 1))).mapIssues
          Issue.ungrouped)) =
        (do pure ((← evaluation sampleRelabelled ∅ .null (pure (.int 1))).mapIssues
          Issue.ungrouped)) := by
  obtain ⟨hsettled, hgrouped, hsame⟩ := evaluation_groups sampleLabelled ∅ .null (pure (.int 1))
  refine ⟨⟨_, rfl, rfl, hgrouped _ rfl, ?_⟩, ?_⟩
  · rw [← hsettled]
    rfl
  · exact hsame sampleRelabelled .null (ungroupedAll_sampleLabels _ _ _ _ _ _ rfl)

end Step

end Assay
