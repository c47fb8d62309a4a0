import Assay.Scope.Step

/-! # Steps of a program

The steps that a block holds at any depth, with or without those inside the
validators that it uses. Properties of whole programs are stated over them.
-/

namespace Assay

def Step.block : Step → List Step
  | .field _ _ block | .fieldItems _ _ block | .items block | .unlessNull block
  | .group _ block => block
  | .rule _ _ _ _ | .attach _ _ | .ruleIfPresent _ _ _ _ | .dependent _ | .use _ _ => []

def Declaration.block : Declaration → List Step
  | .root block | .field _ _ block | .fieldItems _ _ block => block

namespace Step

/-- A step of the block itself or of a block in it, outside of used validators. -/
inductive Within (t : Step) : List Step → Prop
  | here {block : List Step} : t ∈ block → Within t block
  | inside {block : List Step} {u : Step} : u ∈ block → Within t u.block → Within t block

/-- A step at any depth, those of used validators included. -/
inductive Occurs (t : Step) : List Step → Prop
  | here {block : List Step} : t ∈ block → Occurs t block
  | inside {block : List Step} {u : Step} : u ∈ block → Occurs t u.block → Occurs t block
  | used {block : List Step} {name : Data} {ds : List Declaration} {d : Declaration} :
    .use name ds ∈ block → d ∈ ds → Occurs t d.block → Occurs t block

variable {t u : Step} {block rest : List Step}

theorem Within.mono (h : Within t block) (hsub : block ⊆ rest) : Within t rest := by
  cases h with
  | here ht => exact .here (hsub ht)
  | inside hu ht => exact .inside (hsub hu) ht

theorem Occurs.mono (h : Occurs t block) (hsub : block ⊆ rest) : Occurs t rest := by
  cases h with
  | here ht => exact .here (hsub ht)
  | inside hu ht => exact .inside (hsub hu) ht
  | used hu hd ht => exact .used (hsub hu) hd ht

@[simp] theorem not_within_nil : ¬ Within t [] := by
  rintro (ht | ⟨hu, -⟩)
  · cases ht
  · cases hu

theorem within_cons : Within t (u :: rest) ↔ t = u ∨ Within t u.block ∨ Within t rest := by
  constructor
  · rintro (ht | ⟨hu, ht⟩)
    · rcases List.mem_cons.mp ht with rfl | ht
      · exact .inl rfl
      · exact .inr (.inr (.here ht))
    · rcases List.mem_cons.mp hu with rfl | hu
      · exact .inr (.inl ht)
      · exact .inr (.inr (.inside hu ht))
  · rintro (rfl | ht | ht)
    · exact .here List.mem_cons_self
    · exact .inside List.mem_cons_self ht
    · exact ht.mono (List.subset_cons_self u rest)

@[simp] theorem not_occurs_nil : ¬ Occurs t [] := by
  rintro (ht | ⟨hu, -⟩ | ⟨hu, -, -⟩)
  · cases ht
  · cases hu
  · cases hu

theorem occurs_cons : Occurs t (u :: rest) ↔ t = u ∨ Occurs t u.block ∨
    (∃ name ds d, u = .use name ds ∧ d ∈ ds ∧ Occurs t d.block) ∨ Occurs t rest := by
  constructor
  · rintro (ht | ⟨hu, ht⟩ | ⟨hu, hd, ht⟩)
    · rcases List.mem_cons.mp ht with rfl | ht
      · exact .inl rfl
      · exact .inr (.inr (.inr (.here ht)))
    · rcases List.mem_cons.mp hu with rfl | hu
      · exact .inr (.inl ht)
      · exact .inr (.inr (.inr (.inside hu ht)))
    · rcases List.mem_cons.mp hu with rfl | hu
      · exact .inr (.inr (.inl ⟨_, _, _, rfl, hd, ht⟩))
      · exact .inr (.inr (.inr (.used hu hd ht)))
  · rintro (rfl | ht | ⟨name, ds, d, rfl, hd, ht⟩ | ht)
    · exact .here List.mem_cons_self
    · exact .inside List.mem_cons_self ht
    · exact .used List.mem_cons_self hd ht
    · exact ht.mono (List.subset_cons_self u rest)

theorem occurs_append : Occurs t (block ++ rest) ↔ Occurs t block ∨ Occurs t rest := by
  induction block with
  | nil => simp
  | cons u block ih => simp only [List.cons_append, occurs_cons, ih, or_assoc]

end Step

end Assay
