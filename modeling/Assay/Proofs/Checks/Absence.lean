import Assay.Proofs.Checks.Running
import Assay.Recipe

/-! # Checks of absent values

Every ready-made check but the one that requires a value passes on null before
it looks at its arguments, and so does every rule that is put together from such
checks without turning one of them into its opposite.
-/

namespace Assay

variable {r s : Rule}

def Rule.SparesNull (r : Rule) : Prop := r.run .null = pure .passed

def Check.SparesNull (c : Check) : Prop := ∀ as r, c as = .ok r → r.SparesNull

theorem Rule.Tests.sparesNull {p : Predicate} (h : r.Tests p) (hp : p .null = pure true) :
    r.SparesNull := by
  obtain ⟨i, -, -, rfl⟩ := h.exists_issue
  change (do if ← p .null then pure .passed else pure (Rule.single i) : Run (Validated Data)) = _
  rw [hp]
  rfl

namespace Check

theorem unlessNull_null (test : Data → Except Fault Bool) : unlessNull test .null = pure true := rfl

theorem Matcher.accepts_null [Pattern.Edition] (m : Matcher) : m.accepts .null = pure true := rfl

theorem sparesNull_plain (function message code : String) (test : Data → Except Fault Bool) :
    (plain function message code (unlessNull test)).SparesNull :=
  fun _ _ h => (tests_of_plain h).sparesNull (unlessNull_null test)

theorem sparesNull_length : length.SparesNull :=
  fun _ _ h => (tests_of_length h).2.sparesNull (unlessNull_null _)

theorem sparesNull_range : range.SparesNull :=
  fun _ _ h => (tests_of_range h).2.sparesNull (unlessNull_null _)

theorem sparesNull_pattern [Pattern.Edition] : pattern.SparesNull := by
  intro as r h
  obtain ⟨w, m, -, -, hm⟩ := tests_of_pattern h
  exact hm.sparesNull m.accepts_null

theorem sparesNull_oneOf : oneOf.SparesNull := by
  intro as r h
  obtain ⟨sensitive, choices, hp⟩ := tests_of_oneOf h
  exact hp.sparesNull (unlessNull_null _)

end Check

namespace Registry

variable [Pattern.Edition]

theorem sparesNull_builtin {key : Data} {c : Check} (h : builtin.find? key = some c)
    (hkey : ¬ key.eq (.text "required")) : c.SparesNull := by
  obtain ⟨e, he, rfl⟩ := Option.map_eq_some_iff.mp h
  have hmem := List.mem_of_find?_eq_some he
  have hfound := List.find?_some he
  simp only [builtin, List.mem_cons, List.not_mem_nil, or_false] at hmem
  rcases hmem with rfl | rfl | rfl | rfl | rfl | rfl | rfl | rfl
  · exact absurd hfound hkey
  · exact Check.sparesNull_plain _ _ _ _
  · exact Check.sparesNull_plain _ _ _ _
  · exact Check.sparesNull_length
  · exact Check.sparesNull_range
  · exact Check.sparesNull_pattern
  · exact Check.sparesNull_oneOf
  · exact Check.sparesNull_plain _ _ _ _

theorem sparesNull_create {key : Data} {as : Arguments} (h : builtin.create key as = .ok r)
    (hkey : ¬ key.eq (.text "required")) : r.SparesNull := by
  unfold create at h
  split at h
  · cases h
  · obtain ⟨c, hc, h⟩ := Traced.except_bind_eq_ok.mp h
    obtain ⟨_, -, hc⟩ := Traced.except_bind_eq_ok.mp hc
    split at hc
    · next d hfind =>
      cases hc
      exact sparesNull_builtin hfind hkey as r h
    · exact absurd hc (Fault.raise_ne_ok _ c)

end Registry

namespace Rule

theorem sparesNull_accepting : accepting.SparesNull := rfl

theorem SparesNull.andThen (hr : r.SparesNull) (hs : s.SparesNull) :
    (r.andThen s).SparesNull := by
  change (r.run .null >>= fun x => x.andThen fun _ => s.run .null) = _
  rw [hr]
  exact hs

theorem SparesNull.combine (hr : r.SparesNull) (hs : s.SparesNull) :
    (r.combine s).SparesNull := by
  change (do
    let x ← r.run .null
    let y ← s.run .null
    pure (.check .null (x.issues ++ y.issues)) : Run (Validated Data)) = _
  rw [hr, hs]
  rfl

theorem SparesNull.located (hr : r.SparesNull) (path : Path) : (r.located path).SparesNull := by
  change (do pure ((← r.run .null).mapIssues (settle path)) : Run (Validated Data)) = _
  rw [hr]
  rfl

theorem sparesNull_allOf {rs : List Rule} (h : ∀ r ∈ rs, r.SparesNull) :
    (allOf rs).SparesNull := by
  suffices hall : ∀ s : Rule, s.SparesNull → (rs.foldl combine s).SparesNull from
    hall accepting sparesNull_accepting
  induction rs with
  | nil => exact fun s hs => hs
  | cons r rest ih =>
    obtain ⟨hr, hrest⟩ := List.forall_mem_cons.mp h
    exact fun s hs => ih hrest (s.combine r) (hs.combine hr)

end Rule

namespace Recipe

mutual

/-- The recipe puts ready-made checks together, none of which requires a value, and turns nothing
into its opposite. -/
def IsLenient (r : Recipe) : Prop :=
  match r with
  | check kind _ => ¬ kind.eq (.text "required")
  | andThen first second => first.IsLenient ∧ second.IsLenient
  | combine left right | both left right => left.IsLenient ∧ right.IsLenient
  | located inner _ => inner.IsLenient
  | allOf parts => AreLenient parts
  | _ => False
termination_by structural r

def AreLenient (rs : List Recipe) : Prop :=
  match rs with
  | [] => True
  | r :: rest => r.IsLenient ∧ AreLenient rest
termination_by structural rs

end

def MakesSparing (o : Option Rule) : Prop := ∃ r, o = some r ∧ r.SparesNull

theorem MakesSparing.ofOption {o : Option Rule} (h : MakesSparing o) :
    (Rule.ofOption o).SparesNull := by
  obtain ⟨r, rfl, hr⟩ := h
  exact hr

theorem receiver_eq_ok {a : Option Rule} {method : String} {r : Rule} :
    receiver a method = .ok r ↔ a = some r := by
  cases a <;> simp [receiver]

theorem received_eq_ok {α : Type} {x : Run (Option Rule)} {method : String} {f : Rule → Run α}
    {y : α} (h : (do f (← (receiver (← x) method : Run Rule))).result = .ok y) :
    ∃ r, x.result = .ok (some r) ∧ (f r).result = .ok y := by
  obtain ⟨a, ha, h⟩ := Traced.result_bind_eq_ok.mp h
  obtain ⟨r, hr, hy⟩ := Traced.result_bind_eq_ok.mp h
  obtain rfl := receiver_eq_ok.mp hr
  exact ⟨r, ha, hy⟩

variable [Pattern.Edition]

mutual

theorem makesSparing_of_build (r : Recipe) (h : r.IsLenient) {o : Option Rule}
    (ho : r.build.result = .ok o) : MakesSparing o := by
  cases r with
  | check kind arguments =>
    obtain ⟨as, -, ho⟩ := Traced.result_bind_eq_ok.mp ho
    obtain ⟨r, hr, ho⟩ := Traced.result_bind_eq_ok.mp ho
    cases ho
    exact ⟨r, rfl, Registry.sparesNull_create hr h⟩
  | andThen first second =>
    obtain ⟨r, hr, ho⟩ := received_eq_ok ho
    obtain ⟨b, hb, ho⟩ := Traced.result_bind_eq_ok.mp ho
    cases ho
    have hfirst := (makesSparing_of_build first h.1 hr).ofOption
    have hsecond := (makesSparing_of_build second h.2 hb).ofOption
    exact ⟨_, rfl, hfirst.andThen hsecond⟩
  | combine left right =>
    obtain ⟨r, hr, ho⟩ := received_eq_ok ho
    obtain ⟨b, hb, ho⟩ := Traced.result_bind_eq_ok.mp ho
    cases ho
    have hleft := (makesSparing_of_build left h.1 hr).ofOption
    have hright := (makesSparing_of_build right h.2 hb).ofOption
    exact ⟨_, rfl, hleft.combine hright⟩
  | both left right =>
    obtain ⟨a, ha, ho⟩ := Traced.result_bind_eq_ok.mp ho
    obtain ⟨b, hb, ho⟩ := Traced.result_bind_eq_ok.mp ho
    obtain ⟨a, rfl, hleft⟩ := makesSparing_of_build left h.1 ha
    have hright := (makesSparing_of_build right h.2 hb).ofOption
    cases ho
    exact ⟨_, rfl, hleft.combine hright⟩
  | located inner path =>
    obtain ⟨r, hr, ho⟩ := received_eq_ok ho
    obtain ⟨q, -, ho⟩ := Traced.result_bind_eq_ok.mp ho
    cases ho
    exact ⟨_, rfl, (makesSparing_of_build inner h hr).ofOption.located q⟩
  | allOf parts =>
    obtain ⟨os, hos, ho⟩ := Traced.result_bind_eq_ok.mp ho
    cases ho
    have hparts := makesSparing_of_buildAll parts h hos
    exact ⟨_, rfl, Rule.sparesNull_allOf
      (List.forall_mem_map.mpr fun o ho => (hparts o ho).ofOption)⟩
  | _ => exact h.elim
termination_by structural r

theorem makesSparing_of_buildAll (rs : List Recipe) (h : AreLenient rs) {os : List (Option Rule)}
    (hos : (buildAll rs).result = .ok os) : ∀ o ∈ os, MakesSparing o := by
  cases rs with
  | nil =>
    cases hos
    exact List.forall_mem_nil _
  | cons r rest =>
    obtain ⟨o, ho, hos⟩ := Traced.result_bind_eq_ok.mp hos
    obtain ⟨os, hrest, hos⟩ := Traced.result_bind_eq_ok.mp hos
    cases hos
    exact List.forall_mem_cons.mpr
      ⟨makesSparing_of_build r h.1 ho, makesSparing_of_buildAll rest h.2 hrest⟩
termination_by structural rs

end

end Recipe

end Assay
