import Assay.Proofs.Evaluation
import Assay.Proofs.Traversal.Congruence

/-! # Parts of traversals

A run is part of another one when it completes whenever the other does, and
then finds some of the same issues in the same order. Parts are kept by all
that traversals are put together with, so that a part of a block makes a part
of its visits, wherever the block stands.
-/

namespace Assay

open Visit

/-- Where the second run completes, the first does too, and finds a part of the issues. -/
def RunPart (m n : Run (List Issue)) : Prop :=
  ∀ js, n.result = .ok js → ∃ is, m.result = .ok is ∧ is.Sublist js

theorem RunPart.nil (n : Run (List Issue)) : RunPart (pure []) n :=
  fun js _ => ⟨[], rfl, js.nil_sublist⟩

theorem runCongruence_part : RunCongruence RunPart where
  refl _ js h := ⟨js, h, .refl js⟩
  append h h' js hjs := by
    obtain ⟨js₁, hjs₁, hjs⟩ := Traced.result_bind_eq_ok.mp hjs
    obtain ⟨js₂, hjs₂, hjs⟩ := Traced.result_bind_eq_ok.mp hjs
    cases hjs
    obtain ⟨is₁, his₁, hsub₁⟩ := h js₁ hjs₁
    obtain ⟨is₂, his₂, hsub₂⟩ := h' js₂ hjs₂
    refine ⟨is₁ ++ is₂, ?_, hsub₁.append hsub₂⟩
    exact Traced.result_bind_eq_ok.mpr ⟨is₁, his₁, Traced.result_bind_eq_ok.mpr ⟨is₂, his₂, rfl⟩⟩
  bind m f g h js hjs := by
    obtain ⟨a, ha, hjs⟩ := Traced.result_bind_eq_ok.mp hjs
    obtain ⟨is, his, hsub⟩ := h a js hjs
    exact ⟨is, Traced.result_bind_eq_ok.mpr ⟨a, ha, his⟩, hsub⟩

namespace Visit

/-- Making the first visits is part of making the second. -/
def Part (xs ys : List Visit) : Prop := RunPart (runAll xs) (runAll ys)

namespace Part

variable {xs ys xs' ys' : List Visit}

theorem refl (xs : List Visit) : Part xs xs := runCongruence_part.refl (runAll xs)

theorem nil (ys : List Visit) : Part [] ys := RunPart.nil (runAll ys)

theorem append (h : Part xs ys) (h' : Part xs' ys') : Part (xs ++ xs') (ys ++ ys') :=
  runCongruence_part.runAll_append h h'

theorem declare {m n : Run Unit} (h : n.result = .ok () → m.result = .ok ()) :
    Part [.declare m] [.declare n] := by
  intro js hjs
  rw [runAll_singleton] at hjs ⊢
  obtain ⟨_, hn, hjs⟩ := Traced.result_bind_eq_ok.mp hjs
  exact ⟨js, Traced.result_bind_eq_ok.mpr ⟨(), h hn, hjs⟩, .refl js⟩

theorem under (h : Part xs ys) (path : Path) :
    Part (xs.map (under path)) (ys.map (under path)) := by
  intro js hjs
  rw [runAll_under] at hjs
  obtain ⟨ks, hks, hjs⟩ := Traced.result_bind_eq_ok.mp hjs
  cases hjs
  obtain ⟨is, his, hsub⟩ := h ks hks
  refine ⟨is.map (Scope.reparent path), ?_, hsub.map _⟩
  rw [runAll_under]
  exact Traced.result_bind_eq_ok.mpr ⟨is, his, rfl⟩

end Part

end Visit

namespace Step

/-- The steps of the first block do, at each stage of a traversal, a part of what those of the
second do. -/
structure Part (xs ys : List Step) : Prop where
  made : Visit.Part (xs.map fun t => .declare t.made) (ys.map fun t => .declare t.made)
  sites : ∀ path label v, Visit.Part ((xs.flatMap fun t => t.sites path label v).map .check)
    ((ys.flatMap fun t => t.sites path label v).map .check)
  inner : ∀ path label v,
    Visit.Part (innerAll xs path label v) (innerAll ys path label v)

namespace Part

variable {xs ys xs' ys' : List Step}

theorem refl (xs : List Step) : Part xs xs := ⟨.refl _, fun _ _ _ => .refl _, fun _ _ _ => .refl _⟩

theorem nil (ys : List Step) : Part [] ys := ⟨.nil _, fun _ _ _ => .nil _, fun _ _ _ => .nil _⟩

theorem append (h : Part xs ys) (h' : Part xs' ys') : Part (xs ++ xs') (ys ++ ys') where
  made := by
    rw [List.map_append, List.map_append]
    exact h.made.append h'.made
  sites path label v := by
    rw [List.flatMap_append, List.flatMap_append, List.map_append, List.map_append]
    exact (h.sites path label v).append (h'.sites path label v)
  inner path label v := by
    rw [innerAll_append, innerAll_append]
    exact (h.inner path label v).append (h'.inner path label v)

/-- A part of a block makes a part of its visits. -/
theorem visits (h : Part xs ys) (path : Path) (label v : Data) :
    Visit.Part (visits xs path label v) (visits ys path label v) :=
  h.made.append ((h.sites path label v).append (h.inner path label v))

theorem of_inner {t u : Step} (hmade : t.made = u.made)
    (ht : ∀ path label v, t.sites path label v = [])
    (h : ∀ path label v, Visit.Part (t.inner path label v) (u.inner path label v)) :
    Part [t] [u] where
  made := by
    rw [List.map_singleton, List.map_singleton, hmade]
    exact .refl _
  sites path label v := by
    rw [List.flatMap_singleton, ht]
    exact .nil _
  inner path label v := by
    rw [innerAll_singleton, innerAll_singleton]
    exact h path label v

theorem field (h : Part xs ys) (name : Data) (getter : Option Getter) :
    Part [.field name getter xs] [.field name getter ys] :=
  of_inner rfl (fun _ _ _ => rfl) (runCongruence_part.runAll_inner_field h.visits name getter)

theorem fieldItems (h : Part xs ys) (name : Data) (getter : Option Getter) :
    Part [.fieldItems name getter xs] [.fieldItems name getter ys] :=
  of_inner rfl (fun _ _ _ => rfl) (runCongruence_part.runAll_inner_fieldItems h.visits name getter)

theorem items (h : Part xs ys) : Part [.items xs] [.items ys] :=
  of_inner rfl (fun _ _ _ => rfl) (runCongruence_part.runAll_inner_items h.visits)

theorem unlessNull (h : Part xs ys) : Part [.unlessNull xs] [.unlessNull ys] :=
  of_inner rfl (fun _ _ _ => rfl) (runCongruence_part.runAll_inner_unlessNull h.visits)

theorem group (h : Part xs ys) (tag : Data) : Part [.group tag xs] [.group tag ys] :=
  of_inner rfl (fun _ _ _ => rfl) fun path _ v => h.visits path tag v

end Part

end Step

namespace Declaration

/-- The first declarations can be carried out where the second can, and check a part of what they
check. -/
structure Part (xs ys : List Declaration) : Prop where
  made : ∀ owner, forM ys (Declaration.made owner) = .ok () →
    forM xs (Declaration.made owner) = .ok ()
  visits : ∀ v, Visit.Part (visitsAll xs v) (visitsAll ys v)

namespace Part

variable {xs ys xs' ys' : List Declaration}

theorem refl (xs : List Declaration) : Part xs xs := ⟨fun _ => id, fun _ => .refl _⟩

theorem nil (ys : List Declaration) : Part [] ys := ⟨fun _ _ => rfl, fun _ => .nil _⟩

theorem append (h : Part xs ys) (h' : Part xs' ys') : Part (xs ++ xs') (ys ++ ys') where
  made owner hmade := by
    rw [List.forM_append] at hmade ⊢
    obtain ⟨_, hys, hys'⟩ := Traced.except_bind_eq_ok.mp hmade
    exact Traced.except_bind_eq_ok.mpr ⟨(), h.made owner hys, h'.made owner hys'⟩
  visits v := by
    rw [visitsAll_append, visitsAll_append]
    exact (h.visits v).append (h'.visits v)

theorem singleton {d e : Declaration} (hmade : ∀ owner, d.made owner = e.made owner)
    (h : ∀ v, Visit.Part (d.visits v) (e.visits v)) : Part [d] [e] where
  made owner hm := by
    rw [List.forM_cons] at hm ⊢
    rwa [hmade]
  visits v := (h v).append (.refl [])

end Part

end Declaration

end Assay
