import Assay.Proofs.Traversal.Rules

/-! # Ready-made checks

Whatever its arguments, a ready-made check makes a rule from one predicate,
with a message and a code and without a group.
-/

namespace Assay

/-- The rule is made from the predicate, with a message of its own and without a group. -/
def Rule.Tests (r : Rule) (p : Predicate) : Prop :=
  ∃ message code, make message p code .null = .ok r

/-- The check makes rules of one predicate, which give no group. -/
def Check.Elementary (c : Check) : Prop := ∀ as r, c as = .ok r → ∃ p, r.Tests p

namespace Check

variable {as : Arguments} {r : Rule}

theorem tests_of_plain {function message code : String} {p : Predicate}
    (h : plain function message code p as = .ok r) : r.Tests p := by
  obtain ⟨_, -, h⟩ := Traced.except_bind_eq_ok.mp h
  exact ⟨_, _, h⟩

def boundsOf (as : Arguments) : Option Data × Option Data :=
  (bound? (as.getD "min" .null), bound? (as.getD "max" .null))

theorem tests_of_length (h : length as = .ok r) :
    checkLengthBounds (boundsOf as).1 (boundsOf as).2 = .ok () ∧
      r.Tests (unlessNull (hasLengthWithin (boundsOf as).1 (boundsOf as).2)) := by
  obtain ⟨_, -, h⟩ := Traced.except_bind_eq_ok.mp h
  obtain ⟨_, hbounds, h⟩ := Traced.except_bind_eq_ok.mp h
  obtain ⟨_, -, h⟩ := Traced.except_bind_eq_ok.mp h
  exact ⟨hbounds, _, _, h⟩

theorem tests_of_range (h : range as = .ok r) :
    checkRangeBounds (boundsOf as).1 (boundsOf as).2 = .ok () ∧
      r.Tests (unlessNull (isNumberWithin (boundsOf as).1 (boundsOf as).2)) := by
  obtain ⟨_, -, h⟩ := Traced.except_bind_eq_ok.mp h
  obtain ⟨_, hbounds, h⟩ := Traced.except_bind_eq_ok.mp h
  obtain ⟨_, -, h⟩ := Traced.except_bind_eq_ok.mp h
  exact ⟨hbounds, _, _, h⟩

theorem tests_of_pattern [Pattern.Edition] (h : pattern as = .ok r) :
    ∃ w m, as.get? "pattern" = some w ∧ Matcher.ofData w = .ok m ∧ r.Tests m.accepts := by
  obtain ⟨_, -, h⟩ := Traced.except_bind_eq_ok.mp h
  split at h
  · cases h
  · next w hw =>
    obtain ⟨m, hm, h⟩ := Traced.except_bind_eq_ok.mp h
    obtain ⟨_, -, h⟩ := Traced.except_bind_eq_ok.mp h
    exact ⟨w, m, hw, hm, _, _, h⟩

theorem tests_of_oneOf (h : oneOf as = .ok r) :
    ∃ sensitive choices, r.Tests (unlessNull fun v => .ok (isChoice sensitive choices v)) := by
  obtain ⟨_, -, h⟩ := Traced.except_bind_eq_ok.mp h
  split at h
  · cases h
  · obtain ⟨choices, -, h⟩ := Traced.except_bind_eq_ok.mp h
    dsimp only at h
    split at h
    · cases h
    · obtain ⟨_, -, h⟩ := Traced.except_bind_eq_ok.mp h
      exact ⟨_, _, _, _, h⟩

theorem elementary_plain (function message code : String) (p : Predicate) :
    (plain function message code p).Elementary := fun _ _ h => ⟨p, tests_of_plain h⟩

theorem elementary_length : length.Elementary := fun _ _ h => ⟨_, (tests_of_length h).2⟩

theorem elementary_range : range.Elementary := fun _ _ h => ⟨_, (tests_of_range h).2⟩

theorem elementary_pattern [Pattern.Edition] : pattern.Elementary := by
  intro as r h
  obtain ⟨w, m, -, -, hm⟩ := tests_of_pattern h
  exact ⟨m.accepts, hm⟩

theorem elementary_oneOf : oneOf.Elementary := by
  intro as r h
  obtain ⟨sensitive, choices, hp⟩ := tests_of_oneOf h
  exact ⟨_, hp⟩

end Check

theorem Fault.raise_ne_ok {α : Type} (e : Fault) (a : α) : (e.raise : Except Fault α) ≠ .ok a := by
  unfold raise
  split <;> exact nofun

namespace Registry

variable [Pattern.Edition]

theorem elementary_builtin {key : Data} {c : Check} (h : builtin.find? key = some c) :
    c.Elementary := by
  obtain ⟨e, he, rfl⟩ := Option.map_eq_some_iff.mp h
  have hmem := List.mem_of_find?_eq_some he
  simp only [builtin, List.mem_cons, List.not_mem_nil, or_false] at hmem
  rcases hmem with rfl | rfl | rfl | rfl | rfl | rfl | rfl | rfl
  · exact Check.elementary_plain _ _ _ _
  · exact Check.elementary_plain _ _ _ _
  · exact Check.elementary_plain _ _ _ _
  · exact Check.elementary_length
  · exact Check.elementary_range
  · exact Check.elementary_pattern
  · exact Check.elementary_oneOf
  · exact Check.elementary_plain _ _ _ _

theorem create_builtin_eq_ok {key : Data} {as : Arguments} {r : Rule}
    (h : builtin.create key as = .ok r) : ∃ p, r.Tests p := by
  unfold create at h
  split at h
  · cases h
  · obtain ⟨c, hc, h⟩ := Traced.except_bind_eq_ok.mp h
    obtain ⟨_, -, hc⟩ := Traced.except_bind_eq_ok.mp hc
    split at hc
    · next c hfind =>
      cases hc
      exact elementary_builtin hfind as r h
    · exact absurd hc (Fault.raise_ne_ok _ c)

end Registry

end Assay
