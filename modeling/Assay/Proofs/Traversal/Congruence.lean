import Assay.Proofs.Traversal.Laws

/-! # Congruences of runs

A relation between runs that is kept by joining and continuing them is kept by
traversals, and so passes from blocks to the steps that hold them.
-/

namespace Assay

open Visit

/-- The relation is kept by joining runs and by continuing a run. -/
structure RunCongruence (R : Run (List Issue) → Run (List Issue) → Prop) : Prop where
  refl : ∀ m, R m m
  append : ∀ {m m' n n' : Run (List Issue)}, R m m' → R n n' →
    R (do let is ← m; let js ← n; pure (is ++ js)) (do let is ← m'; let js ← n'; pure (is ++ js))
  bind : ∀ {α : Type} (m : Run α) {f g : α → Run (List Issue)}, (∀ a, R (f a) (g a)) →
    R (m >>= f) (m >>= g)

theorem runCongruence_eq : RunCongruence Eq where
  refl _ := rfl
  append h h' := by rw [h, h']
  bind _ _ _ h := bind_congr h

namespace RunCongruence

variable {R : Run (List Issue) → Run (List Issue) → Prop} (hR : RunCongruence R)

include hR

theorem runAll_append {xs ys xs' ys' : List Visit} (h : R (runAll xs) (runAll ys))
    (h' : R (runAll xs') (runAll ys')) : R (runAll (xs ++ xs')) (runAll (ys ++ ys')) := by
  rw [Visit.runAll_append, Visit.runAll_append]
  exact hR.append h h'

theorem runAll_flatMap {α : Type} {f g : α → List Visit}
    (h : ∀ a, R (runAll (f a)) (runAll (g a))) (as : List α) :
    R (runAll (as.flatMap f)) (runAll (as.flatMap g)) := by
  induction as with
  | nil => exact hR.refl _
  | cons a rest ih => exact hR.runAll_append (h a) ih

theorem runAll_ofRead {owner : Option Data} {found : Run Data} {f g : Data → List Visit}
    (h : ∀ v, R (runAll (f v)) (runAll (g v))) :
    R (runAll (ofRead owner found f)) (runAll (ofRead owner found g)) := by
  rw [Visit.runAll_ofRead, Visit.runAll_ofRead]
  exact hR.bind found h

theorem runAll_ofItems {owner : Data} {f g : Nat → Data → List Visit}
    (h : ∀ i v, R (runAll (f i v)) (runAll (g i v))) :
    R (runAll (ofItems owner f)) (runAll (ofItems owner g)) := by
  rw [Visit.runAll_ofItems, Visit.runAll_ofItems]
  exact hR.bind _ fun vs => hR.runAll_flatMap (fun e => h e.2 e.1) vs.zipIdx

section

variable {xs ys : List Step}
  (h : ∀ path label v, R (runAll (Step.visits xs path label v))
    (runAll (Step.visits ys path label v)))

include h

theorem runAll_inner_field (name : Data) (getter : Option Getter) (path : Path)
    (label v : Data) : R (runAll ((Step.field name getter xs).inner path label v))
      (runAll ((Step.field name getter ys).inner path label v)) :=
  hR.runAll_ofRead fun w => h (path.child name) .null w

theorem runAll_inner_fieldItems (name : Data) (getter : Option Getter) (path : Path)
    (label v : Data) : R (runAll ((Step.fieldItems name getter xs).inner path label v))
      (runAll ((Step.fieldItems name getter ys).inner path label v)) :=
  hR.runAll_ofRead fun _ => hR.runAll_ofItems fun i u => h ((path.child name).index i) .null u

theorem runAll_inner_items (path : Path) (label v : Data) :
    R (runAll ((Step.items xs).inner path label v))
      (runAll ((Step.items ys).inner path label v)) := by
  unfold Step.inner
  exact hR.runAll_ofItems fun i u => h (path.index i) .null u

theorem runAll_inner_unlessNull (path : Path) (label v : Data) :
    R (runAll ((Step.unlessNull xs).inner path label v))
      (runAll ((Step.unlessNull ys).inner path label v)) := by
  unfold Step.inner
  split
  · exact hR.refl _
  · exact h path label v

end

end RunCongruence

end Assay
