import Mathlib.Algebra.Order.Group.Multiset
import Mathlib.Tactic.Abel
import Assay.Proofs.Evaluation

/-! # Inlining of tests for null

A block behind a test for null is skipped on null as if it were not there. On
any other value it is evaluated as if its steps stood in the place of the test:
the same visits are made, although the block's own rules come later.
-/

namespace Assay

open Visit

namespace Visit

/-- Where the first run completes, the second does too, and finds and records the same up to the
order. -/
def Shuffled (m n : Run (List Issue)) : Prop :=
  ∀ is, m.result = .ok is → ∃ js, n.result = .ok js ∧ is.Perm js ∧ m.events.Perm n.events

/-- The order of visits decides about the order of what they find and record alone. -/
theorem shuffled_of_perm {xs ys : List Visit} (h : xs.Perm ys) :
    Shuffled (runAll xs) (runAll ys) := by
  intro is his
  obtain ⟨hxs, rfl⟩ := runAll_eq_ok.mp his
  have hys : ∀ y ∈ ys, y.Completes := fun y hy => hxs y (h.mem_iff.mpr hy)
  rw [runAll_of_completes hxs, runAll_of_completes hys]
  exact ⟨_, rfl, h.flatMap_right _, h.flatMap_right _⟩

theorem runAll_declare_pure (xs : List Visit) : runAll (.declare (pure ()) :: xs) = runAll xs := by
  simp [runAll_cons, run]

theorem issues_of_only_false {x : Visit} (h : x.Only fun _ => False) : x.issues = [] := by
  unfold issues
  split
  · next is his => exact List.eq_nil_iff_forall_not_mem.mpr (h is his)
  · rfl

end Visit

namespace Step

/-- The step declares a nested check of its scope. -/
def nests : Step → Bool
  | rule _ _ _ _ | attach _ _ | dependent _ => false
  | _ => true

/-- The step declares a rule of its scope, or a chain that has a link. -/
def attaches : Step → Bool
  | rule _ _ _ _ | attach _ _ => true
  | dependent links => !links.isEmpty
  | _ => false

variable {before block after : List Step} {path : Path} {label v : Data} {read : Run Data}

theorem inner_of_not_nests {t : Step} (h : ¬ t.nests) : t.inner path label v = [] := by
  cases t <;> first | rfl | exact absurd rfl h

theorem sites_of_not_attaches {t : Step} (h : ¬ t.attaches) : t.sites path label v = [] := by
  cases t with
  | dependent links =>
    have hlinks : links.isEmpty := by simpa [attaches] using h
    simp [sites, hlinks]
  | rule message p code group => exact absurd rfl h
  | attach source p => exact absurd rfl h
  | _ => rfl

theorem innerAll_of_not_nests (h : ∀ t ∈ block, ¬ t.nests) : innerAll block path label v = [] := by
  induction block with
  | nil => rfl
  | cons t rest ih =>
    obtain ⟨ht, hrest⟩ := List.forall_mem_cons.mp h
    rw [innerAll, inner_of_not_nests ht, ih hrest, List.nil_append]

theorem flatMap_sites_of_not_attaches (h : ∀ t ∈ block, ¬ t.attaches) :
    (block.flatMap fun t => t.sites path label v) = [] :=
  List.flatMap_eq_nil_iff.mpr fun t ht => sites_of_not_attaches (h t ht)

theorem visitsRead_of_ok (hread : read.result = .ok v) (block : List Step) (path : Path)
    (label : Data) :
    visitsRead block path label read =
      block.map (fun t => .declare t.made) ++ (.read none read ::
        ((block.flatMap fun t => t.sites path label v).map .check ++
          innerAll block path label v)) := by
  rw [visitsRead, ofRead, hread]

theorem inner_unlessNull_of_not_isNull (h : ¬ v.isNull) :
    (Step.unlessNull block).inner path label v = visits block path label v := by
  rw [inner, if_neg h]
  rfl

/-- A skipped block leaves no more behind than a step that does nothing. -/
theorem runAll_visitsRead_of_isNull (hread : read.result = .ok v) (h : v.isNull) :
    runAll (visitsRead (before ++ .unlessNull block :: after) path label read) =
      runAll (visitsRead (before ++ after) path label read) := by
  have hinner : (Step.unlessNull block).inner path label v = [] := by rw [inner, if_pos h]
  have hsites : (Step.unlessNull block).sites path label v = [] := rfl
  simp only [visitsRead_of_ok hread, List.map_append, List.map_cons, List.flatMap_append,
    List.flatMap_cons, innerAll_append, innerAll, hinner, hsites, List.nil_append,
    List.append_assoc, List.cons_append]
  rw [runAll_append, runAll_append, made, runAll_declare_pure]

/-- A block that is not skipped makes the visits that its steps make in the place of the test. -/
theorem perm_visitsRead_of_not_isNull (hread : read.result = .ok v) (h : ¬ v.isNull) :
    (visitsRead (before ++ .unlessNull block :: after) path label read).Perm
      (.declare (pure ()) :: visitsRead (before ++ block ++ after) path label read) := by
  -- Both sides are sums of the same lists of visits once their order is forgotten.
  rw [← Multiset.coe_eq_coe]
  simp only [visitsRead_of_ok hread, List.map_append, List.map_cons, List.flatMap_append,
    List.flatMap_cons, innerAll_append, innerAll, inner_unlessNull_of_not_isNull h, visits, around,
    made, sites, List.nil_append, ← Multiset.coe_add, ← Multiset.cons_coe,
    ← Multiset.singleton_add]
  abel

/-- Nothing changes places where nothing is nested before the test and no rule follows it. -/
theorem flatMap_issues_visitsRead (hread : read.result = .ok v) (h : ¬ v.isNull)
    (hbefore : ∀ t ∈ before, ¬ t.nests) (hafter : ∀ t ∈ after, ¬ t.attaches) :
    (visitsRead (before ++ .unlessNull block :: after) path label read).flatMap issues =
      (visitsRead (before ++ block ++ after) path label read).flatMap issues := by
  have hdeclares : ∀ block : List Step,
      (block.map fun t => Visit.declare t.made).flatMap issues = [] := by
    intro block
    rw [List.flatMap_map, List.flatMap_eq_nil_iff]
    exact fun t _ => issues_of_only_false (only_declare t.made)
  have hread' : (Visit.read none read).issues = [] := issues_of_only_false (only_read none read)
  have hsites : (Step.unlessNull block).sites path label v = [] := rfl
  simp only [visitsRead_of_ok hread, visits, around, innerAll_append, innerAll, List.flatMap_append,
    List.flatMap_cons, List.map_append, inner_unlessNull_of_not_isNull h,
    innerAll_of_not_nests hbefore, flatMap_sites_of_not_attaches hafter, hdeclares, hread', hsites,
    List.nil_append, List.append_nil, List.append_assoc]

theorem evaluation_eq_ok {x : Validated Data} :
    (evaluation block path label read).result = .ok x ↔
      ∃ is, (runAll (visitsRead block path label read)).result = .ok is ∧ x = .check .null is := by
  rw [evaluation_eq_runAll]
  exact Traced.result_bind_pure_eq_ok

theorem events_evaluation (block : List Step) (path : Path) (label : Data) (read : Run Data) :
    (evaluation block path label read).events =
      (runAll (visitsRead block path label read)).events := by
  rw [evaluation_eq_runAll]
  exact Traced.events_bind_pure _ _

theorem evaluation_of_shuffled {block block' : List Step} {x : Validated Data}
    (h : Shuffled (runAll (visitsRead block path label read))
      (runAll (visitsRead block' path label read)))
    (hx : (evaluation block path label read).result = .ok x) :
    ∃ y, (evaluation block' path label read).result = .ok y ∧ x.issues.Perm y.issues ∧
      (evaluation block path label read).events.Perm
        (evaluation block' path label read).events := by
  obtain ⟨is, his, rfl⟩ := evaluation_eq_ok.mp hx
  obtain ⟨js, hjs, hissues, hevents⟩ := h is his
  rw [events_evaluation, events_evaluation]
  refine ⟨_, evaluation_eq_ok.mpr ⟨js, hjs, rfl⟩, ?_, hevents⟩
  rwa [Validated.issues_check, Validated.issues_check]

/-- A block behind a test for null. On null the scope is evaluated as if the test were not there. On
any other value it completes exactly when the scope with the steps of the block in the place of the
test does, and then both find the same issues and make the same calls, in an order that may differ;
with no nested check before the test and no rule behind it, the outcomes are equal. -/
theorem evaluation_unlessNull (before block after : List Step) (path : Path) (label : Data)
    {read : Run Data} {v : Data} (hread : read.result = .ok v) :
    (v.isNull → evaluation (before ++ .unlessNull block :: after) path label read =
        evaluation (before ++ after) path label read) ∧
      (¬ v.isNull →
        (∀ x, (evaluation (before ++ .unlessNull block :: after) path label read).result = .ok x →
          ∃ y, (evaluation (before ++ block ++ after) path label read).result = .ok y ∧
            x.issues.Perm y.issues ∧
            (evaluation (before ++ .unlessNull block :: after) path label read).events.Perm
              (evaluation (before ++ block ++ after) path label read).events ∧
            ((∀ t ∈ before, ¬ t.nests) → (∀ t ∈ after, ¬ t.attaches) → x = y)) ∧
        ∀ y, (evaluation (before ++ block ++ after) path label read).result = .ok y →
          ∃ x, (evaluation (before ++ .unlessNull block :: after) path label read).result =
            .ok x) := by
  refine ⟨fun h => ?_, fun h => ⟨fun x hx => ?_, fun y hy => ?_⟩⟩
  · rw [evaluation_eq_runAll, evaluation_eq_runAll, runAll_visitsRead_of_isNull hread h]
  · have hshuffled : Shuffled
        (runAll (visitsRead (before ++ .unlessNull block :: after) path label read))
        (runAll (visitsRead (before ++ block ++ after) path label read)) := by
      rw [← runAll_declare_pure (visitsRead (before ++ block ++ after) path label read)]
      exact shuffled_of_perm (perm_visitsRead_of_not_isNull hread h)
    obtain ⟨y, hy, hissues, hevents⟩ := evaluation_of_shuffled hshuffled hx
    refine ⟨y, hy, hissues, hevents, fun hbefore hafter => ?_⟩
    obtain ⟨is, his, rfl⟩ := evaluation_eq_ok.mp hx
    obtain ⟨js, hjs, rfl⟩ := evaluation_eq_ok.mp hy
    rw [(runAll_eq_ok.mp his).2, (runAll_eq_ok.mp hjs).2,
      flatMap_issues_visitsRead hread h hbefore hafter]
  · have hshuffled : Shuffled
        (runAll (visitsRead (before ++ block ++ after) path label read))
        (runAll (visitsRead (before ++ .unlessNull block :: after) path label read)) := by
      rw [← runAll_declare_pure (visitsRead (before ++ block ++ after) path label read)]
      exact shuffled_of_perm (perm_visitsRead_of_not_isNull hread h).symm
    obtain ⟨x, hx, -⟩ := evaluation_of_shuffled hshuffled hy
    exact ⟨x, hx⟩

/-- Rules and nested checks that refuse every value: on both sides of a test for null, and behind
it. -/
def sampleRefusal (message : String) : Step :=
  .rule (.text message) (some fun _ => pure false) .null (.text "own")

def sampleBefore : List Step := [.group (.text "G") [sampleRefusal "before"]]

def sampleBetween : List Step :=
  [sampleRefusal "between", .field (.text "name") none [sampleRefusal "on the name"]]

def sampleAfter : List Step := [sampleRefusal "after"]

def sampleNamed : Data := .mapping [(.text "name", .text "Ann")]

theorem sampleBetween_unlessNull :
    evaluation (sampleBefore ++ .unlessNull sampleBetween :: sampleAfter) ∅ (.text "L")
        (pure .null) =
      evaluation (sampleBefore ++ sampleAfter) ∅ (.text "L") (pure .null) ∧
    ∃ x y, (evaluation (sampleBefore ++ .unlessNull sampleBetween :: sampleAfter) ∅ (.text "L")
        (pure sampleNamed)).result = .ok x ∧
      (evaluation (sampleBefore ++ sampleBetween ++ sampleAfter) ∅ (.text "L")
        (pure sampleNamed)).result = .ok y ∧
      x.issues.map (fun i => (i.message, i.group)) =
        [(.text "after", .text "L"), (.text "before", .text "G"), (.text "between", .text "L"),
          (.text "on the name", .text "own")] ∧
      y.issues.map (fun i => (i.message, i.group)) =
        [(.text "between", .text "L"), (.text "after", .text "L"), (.text "before", .text "G"),
          (.text "on the name", .text "own")] ∧
      x.issues.Perm y.issues := by
  have hnull := (evaluation_unlessNull sampleBefore sampleBetween sampleAfter ∅ (.text "L")
    (show (pure .null : Run Data).result = .ok .null from rfl)).1 rfl
  have hnamed := (evaluation_unlessNull sampleBefore sampleBetween sampleAfter ∅ (.text "L")
    (show (pure sampleNamed : Run Data).result = .ok sampleNamed from rfl)).2 Bool.false_ne_true
  have hbehind : ∃ x, (evaluation (sampleBefore ++ .unlessNull sampleBetween :: sampleAfter) ∅
      (.text "L") (pure sampleNamed)).result = .ok x ∧
      x.issues.map (fun i => (i.message, i.group)) =
        [(.text "after", .text "L"), (.text "before", .text "G"), (.text "between", .text "L"),
          (.text "on the name", .text "own")] := ⟨_, rfl, rfl⟩
  have hspliced : ∃ y, (evaluation (sampleBefore ++ sampleBetween ++ sampleAfter) ∅ (.text "L")
      (pure sampleNamed)).result = .ok y ∧
      y.issues.map (fun i => (i.message, i.group)) =
        [(.text "between", .text "L"), (.text "after", .text "L"), (.text "before", .text "G"),
          (.text "on the name", .text "own")] := ⟨_, rfl, rfl⟩
  obtain ⟨x, hx, hxs⟩ := hbehind
  obtain ⟨y, hy, hys⟩ := hspliced
  obtain ⟨z, hz, hperm, -⟩ := hnamed.1 x hx
  obtain rfl : y = z := Except.ok.inj (hy.symm.trans hz)
  exact ⟨hnull, x, y, hx, hy, hxs, hys, hperm⟩

end Step

end Assay
