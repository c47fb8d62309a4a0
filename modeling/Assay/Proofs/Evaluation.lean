import Assay.Proofs.Traversal.Validators

/-! # Evaluation

Evaluating a scope that a block has filled, and validating with declarations,
is making the visits of the program in order: each site is checked once, what
the sites find is kept in the order of the visits, and the first fault ends it.
-/

namespace Assay

open Visit

/-- A scope that is filled for the occasion makes the visits of its block. -/
theorem Scope.check_eq_runAll (block : List Step) (path : Path) (label v : Data) :
    Scope.check (Step.applyAll block) path label v =
      (do pure (.check .null (← runAll (Step.visits block path label v)))) :=
  Step.check_eq (Step.fillsAll block) path label v

theorem Validator.made_of_built {name : Data} {ds : List Declaration} {w : Validator}
    (h : (ofDeclarations name ds).result = .ok w) : forM ds (Declaration.made name) = .ok () := by
  obtain ⟨w', -, e⟩ := Declaration.fillsAll ds (empty name)
  rw [ofDeclarations, e] at h
  cases hm : forM ds (Declaration.made (empty name).name) with
  | error f => rw [hm] at h; cases h
  | ok u => exact hm

theorem Validator.exists_built {name : Data} {ds : List Declaration}
    (h : forM ds (Declaration.made name) = .ok ()) :
    ∃ w, (ofDeclarations name ds).result = .ok w := by
  obtain ⟨w, -, e⟩ := Declaration.fillsAll ds (empty name)
  have hm : forM ds (Declaration.made (empty name).name) = .ok () := h
  exact ⟨w, by rw [ofDeclarations, e, hm]; rfl⟩

/-- A validator that could be built makes the visits of its declarations. -/
theorem Validator.issues_eq_runAll {name : Data} {ds : List Declaration} {w : Validator}
    (h : (ofDeclarations name ds).result = .ok w) (v : Data) :
    issues w.checks v = runAll (Declaration.visitsAll ds v) := by
  obtain ⟨w', hw', e⟩ := Declaration.fillsAll ds (empty name)
  have hm : forM ds (Declaration.made (empty name).name) = .ok () := made_of_built h
  obtain rfl : w' = w := by
    rw [ofDeclarations, e, hm] at h
    cases h
    rfl
  simpa [empty, issues_nil] using hw'.checks v

namespace Step

/-- The evaluation of a scope that a block has filled and whose value is yet to be read. -/
def evaluation (block : List Step) (path : Path) (label : Data) (read : Run Data) :
    Run (Validated Data) := do
  (← applyAll block (.start path label)).evaluateRead read

theorem evaluation_eq_runAll (block : List Step) (path : Path) (label : Data) (read : Run Data) :
    evaluation block path label read =
      (do pure (.check .null (← runAll (visitsRead block path label read)))) := by
  obtain ⟨s, hs, e⟩ := fillsAll block (.start path label)
  unfold evaluation visitsRead
  rw [e, runAll_declares_append, bind_assoc, bind_assoc]
  refine bind_congr fun _ => ?_
  rw [pure_bind, runAll_ofRead, Scope.evaluateRead, bind_assoc]
  refine bind_congr fun v => ?_
  rw [Scope.evaluate_eq, hs.rules, hs.nested, runAll_append]
  simp only [Scope.start, Validator.issues_nil, pure_bind, List.nil_append, bind_assoc]

/-- Evaluating a scope makes the visits of its block once each and in order. Either all of them
complete, and their issues are kept in order, or the first that ends with a fault ends the
evaluation with the same fault, and nothing behind it is called. The value is valid exactly when
every visit completes and finds nothing. -/
theorem evaluation_eq_traversal (block : List Step) (path : Path) (label : Data)
    (read : Run Data) :
    evaluation block path label read =
        (do pure (.check .null (← runAll (visitsRead block path label read)))) ∧
      ((∀ x ∈ visitsRead block path label read, x.Completes) ∧
          evaluation block path label read =
            ⟨(visitsRead block path label read).flatMap (·.run.events),
              .ok (.check .null ((visitsRead block path label read).flatMap issues))⟩ ∨
        ∃ before x after f, visitsRead block path label read = before ++ x :: after ∧
          (∀ y ∈ before, y.Completes) ∧ x.run.result = .error f ∧
          evaluation block path label read =
            ⟨(before ++ [x]).flatMap (·.run.events), .error f⟩) ∧
      ((evaluation block path label read).result = .ok (.valid .null) ↔
        ∀ x ∈ visitsRead block path label read, x.run.result = .ok []) := by
  have heq := evaluation_eq_runAll block path label read
  refine ⟨heq, ?_, ?_⟩
  · rcases completes_or_fault (visitsRead block path label read) with
      hc | ⟨before, x, after, f, hvisits, hb, hx⟩
    · exact Or.inl ⟨hc, by rw [heq, runAll_of_completes hc, Traced.bind_of_ok rfl]; simp⟩
    · refine Or.inr ⟨before, x, after, f, hvisits, hb, hx, ?_⟩
      rw [heq, hvisits, runAll_of_fault after hb hx, Traced.bind_of_error rfl]
  · rw [heq, Traced.result_bind_eq_ok, ← runAll_eq_ok_nil]
    constructor
    · rintro ⟨is, his, hvalid⟩
      obtain rfl : is = [] := by simpa using hvalid
      exact his
    · exact fun h => ⟨[], h, rfl⟩

end Step

end Assay
