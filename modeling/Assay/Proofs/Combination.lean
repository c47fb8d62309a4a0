import Assay.Proofs.Run
import Assay.Proofs.Traversal.Rules

/-! # Combined outcomes

Combining a list of outcomes is applying, to one outcome after the other, a
function that collects its arguments. Combined parts are combined to the whole,
and functions in outcomes are composed as functions are.
-/

namespace Assay.Validated

variable {α β γ : Type} {m : Type → Type} [Monad m]

/-- What takes `n` values, one after the other, and gives a list. -/
def Collector (m : Type → Type) (α : Type) : Nat → Type
  | 0 => List α
  | n + 1 => α → m (Collector m α n)

/-- The function that gives a list of `n` values behind those taken before. -/
def collect (taken : List α) : (n : Nat) → Collector m α n
  | 0 => taken
  | n + 1 => fun a => pure (collect (taken ++ [a]) n)

/-- Apply the function of an outcome to one outcome after the other. -/
def apAll (xs : List (Validated α)) (f : Validated (Collector m α xs.length)) :
    m (Validated (List α)) :=
  match xs with
  | [] => pure f
  | x :: rest => do apAll rest (← ap (β := Collector m α rest.length) f x)

def value? : Validated α → Option α
  | valid a => some a
  | invalid _ _ => none

theorem combine_eq (xs : List (Validated α)) :
    combine xs = check (xs.filterMap value?) (xs.flatMap issues) := rfl

theorem combine_map_valid (as : List α) : combine (as.map valid) = valid as := by
  have hvalues : (as.map valid).filterMap value? = as := by
    rw [List.filterMap_map]
    exact List.filterMap_some
  have hissues : (as.map valid).flatMap issues = [] := by
    rw [List.flatMap_map]
    exact List.flatMap_eq_nil_iff.mpr fun _ _ => rfl
  rw [combine_eq, hvalues, hissues]
  rfl

theorem combine_of_not_isValid {xs : List (Validated α)} (h : ∃ x ∈ xs, ¬ x.isValid) :
    ∃ hne, combine xs = invalid (xs.flatMap issues) hne := by
  obtain ⟨x, hx, hinvalid⟩ := h
  have hne : xs.flatMap issues ≠ [] := by
    intro hnil
    have hxnil := List.flatMap_eq_nil_iff.mp hnil x hx
    exact hinvalid (by rw [← isEmpty_issues, hxnil]; rfl)
  exact ⟨hne, by rw [combine_eq, check, dif_neg hne]⟩

theorem exists_map_valid {xs : List (Validated α)} (h : ∀ x ∈ xs, x.isValid) :
    ∃ as : List α, xs = as.map valid := by
  induction xs with
  | nil => exact ⟨[], rfl⟩
  | cons x rest ih =>
    obtain ⟨hx, hrest⟩ := List.forall_mem_cons.mp h
    obtain ⟨as, rfl⟩ := ih hrest
    cases x with
    | valid a => exact ⟨a :: as, rfl⟩
    | invalid is h => exact absurd hx Bool.false_ne_true

/-- All outcomes are valid and their values are kept, or one is not and all issues are kept. -/
theorem combine_cases (xs : List (Validated α)) :
    (∃ as : List α, xs = as.map valid ∧ combine xs = valid as) ∨
      ((∃ x ∈ xs, ¬ x.isValid) ∧ ∃ hne, combine xs = invalid (xs.flatMap issues) hne) := by
  by_cases h : ∃ x ∈ xs, ¬ x.isValid
  · exact .inr ⟨h, combine_of_not_isValid h⟩
  · obtain ⟨as, rfl⟩ := exists_map_valid fun x hx =>
      Decidable.not_not.mp fun hinvalid => h ⟨x, hx, hinvalid⟩
    exact .inl ⟨as, rfl, combine_map_valid as⟩

theorem combine_pair (vs ws : List α) (is js : List Issue) :
    combine [check vs is, check ws js] = check [vs, ws] (is ++ js) := by
  rw [combine_eq, List.flatMap_cons, List.flatMap_singleton, issues_check, issues_check]
  cases is with
  | nil => cases js <;> rfl
  | cons i is => rfl

section

variable [LawfulMonad m]

theorem map_check (f : α → β) (a : α) (is : List Issue) :
    (check a is).map (fun a => (pure (f a) : m β)) = pure (check (f a) is) := by
  cases is with
  | nil => exact pure_bind _ _
  | cons i is => rfl

theorem map_flatten_combine (xs ys : List (Validated α)) :
    (combine [combine xs, combine ys]).map (fun parts => (pure parts.flatten : m (List α))) =
      pure (combine (xs ++ ys)) := by
  rw [combine_eq xs, combine_eq ys, combine_pair, map_check, combine_eq, List.filterMap_append,
    List.flatMap_append, List.flatten_cons, List.flatten_singleton]

theorem apAll_cons_valid (a : α) (rest : List (Validated α)) (taken : List α) :
    apAll (m := m) (valid a :: rest) (valid (collect taken (rest.length + 1))) =
      apAll rest (valid (collect (taken ++ [a]) rest.length)) := by
  change (pure (collect (taken ++ [a]) rest.length) >>= fun f => pure (valid f)) >>= apAll rest = _
  rw [pure_bind, pure_bind]

theorem apAll_cons_invalid {is : List Issue} (h : is ≠ []) (rest : List (Validated α))
    (f : Collector m α (rest.length + 1)) :
    apAll (invalid is h :: rest) (valid f) = apAll rest (invalid is h) :=
  pure_bind _ _

theorem apAll_invalid (xs : List (Validated α)) {is : List Issue} (h : is ≠ []) (vs : List α) :
    apAll (m := m) xs (invalid is h) = pure (check vs (is ++ xs.flatMap issues)) := by
  induction xs generalizing is with
  | nil =>
    rw [List.flatMap_nil, List.append_nil, check, dif_neg h]
    rfl
  | cons x rest ih =>
    rw [apAll]
    cases x with
    | valid a => simp only [ap, pure_bind, ih, List.flatMap_cons, issues, List.nil_append]
    | invalid js hjs => simp only [ap, pure_bind, ih, List.flatMap_cons, issues, List.append_assoc]

theorem apAll_collect (xs : List (Validated α)) (taken : List α) :
    apAll (m := m) xs (valid (collect taken xs.length)) =
      pure (check (taken ++ xs.filterMap value?) (xs.flatMap issues)) := by
  induction xs generalizing taken with
  | nil =>
    rw [List.filterMap_nil, List.append_nil]
    rfl
  | cons x rest ih =>
    cases x with
    | valid a =>
      have hvalues : taken ++ (valid a :: rest).filterMap value? =
          taken ++ [a] ++ rest.filterMap value? := List.append_cons taken a _
      refine (apAll_cons_valid a rest taken).trans ?_
      rw [ih, hvalues]
      rfl
    | invalid is h => exact (apAll_cons_invalid h rest _).trans (apAll_invalid rest h _)

/-- The function that composes with a function. -/
def compose (f : β → m γ) : m ((α → m β) → m (α → m γ)) := pure fun g => pure fun a => do f (← g a)

/-- Functions in outcomes are composed, and what they are composed to is applied. -/
def applyComposed (u : Validated (β → m γ)) (v : Validated (α → m β)) (w : Validated α) :
    m (Validated γ) := do
  let composing ← ap (valid compose) u
  let composed ← composing.ap v
  composed.ap w

/-- The call of the inner function when there is no outer one. -/
def wasted (u : Validated (β → m γ)) (v : Validated (α → m β)) (w : Validated α) : m Unit :=
  match u, v, w with
  | invalid _ _, valid g, valid a => do let _ ← g a
  | _, _, _ => pure ()

theorem ap_ap_eq (u : Validated (β → m γ)) (v : Validated (α → m β)) (w : Validated α) :
    (do u.ap (← v.ap w)) = (do wasted u v w; applyComposed u v w) := by
  cases u <;> cases v <;> cases w <;> simp [ap, wasted, applyComposed, compose]

end

section

variable (u : Validated (β → Id γ)) (v : Validated (α → Id β)) (w : Validated α)

/-- Functions that leave no trace are not missed. -/
theorem ap_ap_eq_applyComposed : (do u.ap (← v.ap w)) = applyComposed u v w := by
  rw [ap_ap_eq]
  rfl

theorem issues_applyComposed :
    (applyComposed u v w).run.issues = u.issues ++ v.issues ++ w.issues := by
  cases u <;> cases v <;> cases w <;>
    simp [applyComposed, compose, ap, issues]

end

/-- Combining a list of outcomes is applying the function that collects a list to one of them after
the other. It keeps all values in order where every outcome is valid, and all issues in order
otherwise, so that the parts of a list are combined to the whole. Functions in outcomes are composed
as functions are, and the issues of all three outcomes stand from left to right. Functions that may
fail or leave a trace are composed likewise, apart from an inner function that is called although
there is no outer one. -/
theorem combine_is_traversal :
    (∀ xs : List (Validated α),
      (apAll xs (valid (collect [] xs.length)) : Run (Validated (List α))) = pure (combine xs) ∧
      ((∃ as : List α, xs = as.map valid ∧ combine xs = valid as) ∨
        ((∃ x ∈ xs, ¬ x.isValid) ∧ ∃ hne, combine xs = invalid (xs.flatMap issues) hne)) ∧
      ∀ ys : List (Validated α),
        (combine [combine xs, combine ys]).map (fun parts => (pure parts.flatten : Run (List α))) =
          pure (combine (xs ++ ys))) ∧
    (∀ (u : Validated (β → Id γ)) (v : Validated (α → Id β)) (w : Validated α),
      (do u.ap (← v.ap w)) = applyComposed u v w ∧
        (applyComposed u v w).run.issues = u.issues ++ v.issues ++ w.issues) ∧
    ∀ (u : Validated (β → Run γ)) (v : Validated (α → Run β)) (w : Validated α),
      (do u.ap (← v.ap w)) = (do wasted u v w; applyComposed u v w) := by
  refine ⟨fun xs => ⟨?_, combine_cases xs, map_flatten_combine xs⟩,
    fun u v w => ⟨ap_ap_eq_applyComposed u v w, issues_applyComposed u v w⟩, ap_ap_eq⟩
  rw [apAll_collect, List.nil_append, combine_eq]

end Assay.Validated
