import Assay.Proofs.Evaluation

/-! # Exchange of blocks

Two blocks can be exchanged when they fill every scope to the same effect. Then
a program that holds the one is, as a function of its scope or validator, the
program that holds the other, however deep the block stands.
-/

namespace Assay

open Visit

namespace Scope

/-- The scopes stand at the same place, and their rules and nested checks find the same. -/
structure Matches (s s' : Scope) : Prop where
  path : s.path = s'.path
  label : s.label = s'.label
  rules : ∀ v, Validator.issues s.rules v = Validator.issues s'.rules v
  nested : ∀ v, Validator.issues s.nested v = Validator.issues s'.nested v

theorem Matches.refl (s : Scope) : s.Matches s := ⟨rfl, rfl, fun _ => rfl, fun _ => rfl⟩

theorem Matches.evaluate_eq {s s' : Scope} (h : s.Matches s') : s.evaluate = s'.evaluate := by
  funext v
  rw [Scope.evaluate_eq, Scope.evaluate_eq, h.rules, h.nested]

/-- Runs with the same course that end with matching scopes, if they end with any. -/
def RunsMatch (m n : Run Scope) : Prop :=
  ∃ (made : Run Unit) (s s' : Scope), s.Matches s' ∧
    m = (do made; pure s) ∧ n = (do made; pure s')

theorem RunsMatch.pure {s s' : Scope} (h : s.Matches s') : RunsMatch (Pure.pure s) (Pure.pure s') :=
  ⟨Pure.pure (), s, s', h, (pure_bind _ _).symm, (pure_bind _ _).symm⟩

theorem RunsMatch.bind_eq {α : Type} {m n : Run Scope} (h : RunsMatch m n) {f : Scope → Run α}
    (hf : ∀ s s' : Scope, s.Matches s' → f s = f s') : m >>= f = n >>= f := by
  obtain ⟨made, s, s', hs, rfl, rfl⟩ := h
  simp only [bind_assoc, pure_bind, hf s s' hs]

theorem RunsMatch.bind {m n : Run Scope} (h : RunsMatch m n) {f g : Scope → Run Scope}
    (hf : ∀ s s' : Scope, s.Matches s' → RunsMatch (f s) (g s')) :
    RunsMatch (m >>= f) (n >>= g) := by
  obtain ⟨made, s, s', hs, rfl, rfl⟩ := h
  obtain ⟨made', t, t', ht, hm, hn⟩ := hf s s' hs
  refine ⟨do made; made', t, t', ht, ?_, ?_⟩
  · simp only [bind_assoc, pure_bind, hm]
  · simp only [bind_assoc, pure_bind, hn]

end Scope

namespace Step

/-- The blocks fill matching scopes to the same effect. -/
def Interchangeable (xs ys : List Step) : Prop :=
  ∀ s s' : Scope, s.Matches s' → Scope.RunsMatch (applyAll xs s) (applyAll ys s')

namespace Interchangeable

variable {xs ys xs' ys' : List Step} {t u : Step}

theorem refl (xs : List Step) : Interchangeable xs xs := by
  intro s s' h
  obtain ⟨t, ht, e⟩ := fillsAll xs s
  obtain ⟨t', ht', e'⟩ := fillsAll xs s'
  refine ⟨forM xs made, t, t', ⟨?_, ?_, fun v => ?_, fun v => ?_⟩, e, e'⟩
  · rw [ht.path, ht'.path, h.path]
  · rw [ht.label, ht'.label, h.label]
  · rw [ht.rules, ht'.rules, h.rules, h.path, h.label]
  · rw [ht.nested, ht'.nested, h.nested, h.path, h.label]

theorem append (h : Interchangeable xs ys) (h' : Interchangeable xs' ys') :
    Interchangeable (xs ++ xs') (ys ++ ys') := by
  intro s s' hs
  rw [applyAll_append, applyAll_append]
  exact (h s s' hs).bind h'

theorem of_apply_eq (h : t.apply = u.apply) : Interchangeable [t] [u] := by
  have heq : applyAll [t] = applyAll [u] := funext fun s => by rw [applyAll, applyAll, h]
  unfold Interchangeable
  rw [heq]
  exact refl [u]

theorem check_eq (h : Interchangeable xs ys) :
    Scope.check (applyAll xs) = Scope.check (applyAll ys) := by
  funext path label v
  exact (h _ _ (.refl _)).bind_eq fun s s' hs => congrFun hs.evaluate_eq v

theorem evaluation_eq (h : Interchangeable xs ys) : evaluation xs = evaluation ys := by
  funext path label read
  refine (h _ _ (.refl _)).bind_eq fun s s' hs => ?_
  rw [Scope.evaluateRead, Scope.evaluateRead, hs.evaluate_eq]

end Interchangeable

end Step

namespace Scope

variable {c c' : Configure}

theorem checkFrom_eq_of_check_eq (h : check c = check c') (path : Path) (position : Nat)
    (vs : List Data) : checkFrom c path position vs = checkFrom c' path position vs := by
  induction vs generalizing position with
  | nil => rfl
  | cons v rest ih => simp only [checkFrom, h, ih]

theorem checkEach_eq_of_check_eq (h : check c = check c') : checkEach c = checkEach c' := by
  funext path v
  simp only [checkEach, checkFrom_eq_of_check_eq h]

end Scope

section

variable (R : List Step → List Step → Prop)

mutual

/-- The second step is the first one with one block in it, a part of which is exchanged. -/
inductive Step.Exchanged : Step → Step → Prop
  | field (name : Data) (getter : Option Getter) {xs ys : List Step} :
    Step.ExchangedAll xs ys → Step.Exchanged (.field name getter xs) (.field name getter ys)
  | fieldItems (name : Data) (getter : Option Getter) {xs ys : List Step} :
    Step.ExchangedAll xs ys →
      Step.Exchanged (.fieldItems name getter xs) (.fieldItems name getter ys)
  | items {xs ys : List Step} : Step.ExchangedAll xs ys → Step.Exchanged (.items xs) (.items ys)
  | unlessNull {xs ys : List Step} :
    Step.ExchangedAll xs ys → Step.Exchanged (.unlessNull xs) (.unlessNull ys)
  | group (tag : Data) {xs ys : List Step} :
    Step.ExchangedAll xs ys → Step.Exchanged (.group tag xs) (.group tag ys)
  | use (name : Data) {ds es : List Declaration} :
    Declaration.ExchangedAll ds es → Step.Exchanged (.use name ds) (.use name es)

/-- A part of the block, or of a block within it, is exchanged for one that the relation allows in
its place. -/
inductive Step.ExchangedAll : List Step → List Step → Prop
  | here (before after : List Step) {xs ys : List Step} :
    R xs ys → Step.ExchangedAll (before ++ xs ++ after) (before ++ ys ++ after)
  | inside (before after : List Step) {t u : Step} :
    Step.Exchanged t u → Step.ExchangedAll (before ++ t :: after) (before ++ u :: after)

inductive Declaration.Exchanged : Declaration → Declaration → Prop
  | root {xs ys : List Step} :
    Step.ExchangedAll xs ys → Declaration.Exchanged (.root xs) (.root ys)
  | field (name : Data) (getter : Option Getter) {xs ys : List Step} :
    Step.ExchangedAll xs ys →
      Declaration.Exchanged (.field name getter xs) (.field name getter ys)
  | fieldItems (name : Data) (getter : Option Getter) {xs ys : List Step} :
    Step.ExchangedAll xs ys →
      Declaration.Exchanged (.fieldItems name getter xs) (.fieldItems name getter ys)

inductive Declaration.ExchangedAll : List Declaration → List Declaration → Prop
  | inside (before after : List Declaration) {d e : Declaration} :
    Declaration.Exchanged d e →
      Declaration.ExchangedAll (before ++ d :: after) (before ++ e :: after)

end

end

namespace Declaration

theorem applyAll_exchange (before after : List Declaration) {d e : Declaration}
    (h : d.apply = e.apply) :
    applyAll (before ++ d :: after) = applyAll (before ++ e :: after) := by
  funext w
  simp only [applyAll_append, applyAll, h]

end Declaration

section

variable {R : List Step → List Step → Prop}

-- by induction on the way to the exchanged block, one constructor after the other
mutual

theorem Step.Exchanged.apply_eq {t u : Step} (h : Step.Exchanged R t u)
    (hR : ∀ xs ys, R xs ys → Step.Interchangeable xs ys) : t.apply = u.apply :=
  match h with
  | .field name getter h => by
    have hcheck := (h.interchangeable hR).check_eq
    funext s
    simp only [Step.apply, Scope.nestField, hcheck]
  | .fieldItems name getter h => by
    have heach := Scope.checkEach_eq_of_check_eq (h.interchangeable hR).check_eq
    funext s
    simp only [Step.apply, Scope.nestFieldItems, heach]
  | .items h => by
    have heach := Scope.checkEach_eq_of_check_eq (h.interchangeable hR).check_eq
    funext s
    simp only [Step.apply, Scope.nestItems, heach]
  | .unlessNull h => by
    have hcheck := (h.interchangeable hR).check_eq
    funext s
    simp only [Step.apply, Scope.nestUnlessNull, hcheck]
  | .group tag h => by
    have hcheck := (h.interchangeable hR).check_eq
    funext s
    simp only [Step.apply, Scope.nestGroup, hcheck]
  | .use name h => by
    have happly := h.applyAll_eq hR
    funext s
    simp only [Step.apply, happly]

theorem Step.ExchangedAll.interchangeable {xs ys : List Step} (h : Step.ExchangedAll R xs ys)
    (hR : ∀ xs ys, R xs ys → Step.Interchangeable xs ys) : Step.Interchangeable xs ys :=
  match h with
  | .here before after h =>
    ((Step.Interchangeable.refl before).append (hR _ _ h)).append (.refl after)
  | .inside before after h =>
    (Step.Interchangeable.refl before).append
      ((Step.Interchangeable.of_apply_eq (h.apply_eq hR)).append (.refl after))

theorem Declaration.Exchanged.apply_eq {d e : Declaration} (h : Declaration.Exchanged R d e)
    (hR : ∀ xs ys, R xs ys → Step.Interchangeable xs ys) : d.apply = e.apply :=
  match h with
  | .root h => by
    have hcheck := (h.interchangeable hR).check_eq
    funext w
    simp only [Declaration.apply, Validator.declareRoot, hcheck]
  | .field name getter h => by
    have hcheck := (h.interchangeable hR).check_eq
    funext w
    simp only [Declaration.apply, Validator.declareField, hcheck]
  | .fieldItems name getter h => by
    have heach := Scope.checkEach_eq_of_check_eq (h.interchangeable hR).check_eq
    funext w
    simp only [Declaration.apply, Validator.declareItems, heach]

theorem Declaration.ExchangedAll.applyAll_eq {ds es : List Declaration}
    (h : Declaration.ExchangedAll R ds es)
    (hR : ∀ xs ys, R xs ys → Step.Interchangeable xs ys) :
    Declaration.applyAll ds = Declaration.applyAll es :=
  match h with
  | .inside before after h => Declaration.applyAll_exchange before after (h.apply_eq hR)

end

end

end Assay
