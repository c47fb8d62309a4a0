import Assay.Proofs.Unfolding
import Assay.Proofs.Labels.Governing
import Assay.Proofs.Spelling
import Assay.Proofs.Extent

/-! # Registrations

A declaration that cannot be registered leaves its validator as it was. What a
validator runs is therefore what was registered, in the order of the
declarations, and that is what a scope at the empty path runs in which the same
declarations are made as steps.
-/

namespace Assay

namespace Data

/-- The value can be the segment of a path: a text as a name, a whole number as a position. -/
def IsPlace : Data → Prop
  | text _ | codes _ => True
  | int n => 0 ≤ n
  | _ => False

theorem isPlace_of_isText {v : Data} (h : v.isText) : v.IsPlace := by
  cases v with
  | text s => trivial
  | codes ns => trivial
  | _ => cases h

theorem IsPlace.isSpellable {v : Data} (h : v.IsPlace) (htrue : v.isTrue → v.isSpellable) :
    v.isSpellable := by
  cases v with
  | int n =>
    rcases eq_or_ne n 0 with rfl | hn
    · exact isSpellable_zero
    · exact htrue (by simpa [isTrue] using hn)
  | text s => rfl
  | codes ns => rfl
  | _ => cases h

end Data

theorem Validator.exists_fieldPath_iff {name : Data} :
    (∃ p, fieldPath name = .ok p) ↔ name.IsPlace := by
  cases name with
  | text s => exact iff_of_true ⟨_, rfl⟩ trivial
  | codes ns => exact iff_of_true ⟨_, rfl⟩ trivial
  | int n =>
    unfold fieldPath Path.ofItems Data.IsPlace
    rw [List.mapM_cons, Segment.ofItem, Segment.ofPosition, Data.compare_less_int]
    by_cases hn : n < 0
    · rw [decide_eq_true hn]
      refine iff_of_false ?_ (Int.not_le.mpr hn)
      cases (Data.int n).spell <;> exact nofun
    · rw [decide_eq_false hn]
      exact iff_of_true ⟨_, rfl⟩ (Int.not_lt.mp hn)
  | _ => exact iff_of_false nofun id

namespace Declaration

def IsTextual (d : Declaration) : Prop :=
  ∀ name getter, d.field? = some (name, getter) → name.isText

/-- The declaration can be registered with a validator of that name. -/
def registers (owner : Data) (d : Declaration) : Bool := (d.made owner).isOk

def registered (owner : Data) (ds : List Declaration) : List Declaration :=
  ds.filter (registers owner)

variable {owner label : Data}

theorem ensureReadable_of_isSpellable {name : Data} (h : name.isSpellable)
    (getter : Option Getter) : Step.ensureReadable name getter = .ok () := by
  unfold Step.ensureReadable
  rw [Data.spell_of_isSpellable h]
  cases getter <;> rfl

theorem ensureShown_eq_ok_iff :
    ensureShown owner label = .ok () ↔ owner.isSpellable ∧ (label.isTrue → label.isSpellable) := by
  unfold ensureShown Data.spell Data.write
  cases label.isTrue <;> cases label.isSpellable <;> cases owner.isSpellable <;>
    simp [pure, Except.pure, bind, Except.bind]

theorem forall_field? {d : Declaration} {name : Data} {getter : Option Getter}
    (h : d.field? = some (name, getter)) {P : Data → Prop} :
    (∀ name getter, d.field? = some (name, getter) → P name) ↔ P name := by
  refine ⟨fun hall => hall name getter h, fun hname name' getter' h' => ?_⟩
  cases h.symm.trans h'
  exact hname

/-- What can be registered with a validator that can be written: whole values, and fields with a
name that can be written and stand in a path. -/
theorem made_eq_ok_iff {d : Declaration} :
    d.made owner = .ok () ↔ owner.isSpellable ∧
      ∀ name getter, d.field? = some (name, getter) → name.isSpellable ∧ name.IsPlace := by
  cases d with
  | root block => simp [made, ensureShown_eq_ok_iff, field?, Data.isTrue]
  | field name getter block =>
    rw [forall_field? rfl]
    constructor
    · intro h
      obtain ⟨-, -, h⟩ := Traced.except_bind_eq_ok.mp h
      obtain ⟨path, hp, h⟩ := Traced.except_bind_eq_ok.mp h
      obtain ⟨howner, hname⟩ := ensureShown_eq_ok_iff.mp h
      have hplace := Validator.exists_fieldPath_iff.mp ⟨path, hp⟩
      exact ⟨howner, hplace.isSpellable hname, hplace⟩
    · rintro ⟨howner, hname, hplace⟩
      obtain ⟨path, hp⟩ := Validator.exists_fieldPath_iff.mpr hplace
      rw [made, ensureReadable_of_isSpellable hname, hp]
      exact ensureShown_eq_ok_iff.mpr ⟨howner, fun _ => hname⟩
  | fieldItems name getter block =>
    rw [forall_field? rfl]
    constructor
    · intro h
      obtain ⟨-, -, h⟩ := Traced.except_bind_eq_ok.mp h
      obtain ⟨path, hp, h⟩ := Traced.except_bind_eq_ok.mp h
      obtain ⟨shown, hshown, h⟩ := Traced.except_bind_eq_ok.mp h
      have howner := (ensureShown_eq_ok_iff.mp h).1
      exact ⟨howner, (Data.spell_eq_ok.mp hshown).1, Validator.exists_fieldPath_iff.mp ⟨path, hp⟩⟩
    · rintro ⟨howner, hname, hplace⟩
      obtain ⟨path, hp⟩ := Validator.exists_fieldPath_iff.mpr hplace
      rw [made, ensureReadable_of_isSpellable hname, hp, Data.spell_of_isSpellable hname]
      exact ensureShown_eq_ok_iff.mpr ⟨howner, fun _ => rfl⟩

theorem registers_iff {d : Declaration} :
    d.registers owner ↔ owner.isSpellable ∧
      ∀ name getter, d.field? = some (name, getter) → name.isSpellable ∧ name.IsPlace := by
  rw [← made_eq_ok_iff, registers]
  cases d.made owner <;> simp [Except.isOk, Except.toBool]

theorem registered_of_isText {ds : List Declaration} (howner : owner.isSpellable)
    (h : ∀ d ∈ ds, d.IsTextual) :
    registered owner ds = ds :=
  List.filter_eq_self.mpr fun d hd => registers_iff.mpr ⟨howner, fun name getter hfield =>
    ⟨Data.isSpellable_of_isText (h d hd name getter hfield),
      Data.isPlace_of_isText (h d hd name getter hfield)⟩⟩

end Declaration

namespace Validator

variable {owner : Data}

/-- Make a declaration on the validator, which stays as it is when the declaration fails. -/
def attempt (w : Validator) (d : Declaration) : Validator := (d.apply w).result.toOption.getD w

/-- The validator after declarations each of which may have failed. -/
def attempted (owner : Data) (ds : List Declaration) : Validator := ds.foldl attempt (empty owner)

theorem attempt_eq (w : Validator) (d : Declaration) :
    w.attempt d = if d.registers w.name then w.extended d.label ⟨d.outcome⟩ else w := by
  rw [attempt, Declaration.result_apply, Declaration.registers]
  cases d.made w.name <;> rfl

theorem foldl_attempt (w : Validator) (ds : List Declaration) :
    ds.foldl attempt w =
      ⟨w.name, w.labels ++ (Declaration.registered w.name ds).map Declaration.label,
        w.checks ++ (Declaration.registered w.name ds).map fun d => ⟨d.outcome⟩⟩ := by
  induction ds generalizing w with
  | nil => simp [Declaration.registered]
  | cons d rest ih =>
    rw [List.foldl_cons, attempt_eq, ih]
    unfold Declaration.registered
    cases hd : d.registers w.name with
    | true => simp [hd, extended]
    | false => simp [hd]

theorem attempted_eq (owner : Data) (ds : List Declaration) :
    attempted owner ds = ⟨owner, (Declaration.registered owner ds).map Declaration.label,
      (Declaration.registered owner ds).map fun d => ⟨d.outcome⟩⟩ :=
  foldl_attempt (empty owner) ds

theorem outcomes_eq (ds : List Declaration) (v : Data) :
    Scope.outcomes (ds.map fun d => ⟨d.outcome⟩) v = ds.mapM fun d => d.outcome v :=
  List.mapM_map

/-- A validator combines its outcomes as a scope does. -/
theorem validate_eq_summary (w : Validator) (v : Data) :
    w.validate v = (do
      let xs ← Scope.outcomes w.checks v
      pure (.ofValidated v (Scope.summary xs))) := by
  simp only [validate_eq, issues, Verdict.ofValidated, Scope.summary_eq, Validated.issues_check,
    bind_assoc, pure_bind]

theorem issues_eq_ok_nil {rs : List Rule} {v : Data} :
    (issues rs v).result = .ok [] ↔ ∀ r ∈ rs, ∃ x, (r.run v).result = .ok x ∧ x.isValid := by
  induction rs with
  | nil => exact iff_of_true rfl nofun
  | cons r rest ih =>
    rw [List.forall_mem_cons, ← ih]
    simp only [issues_cons, Traced.result_bind_eq_ok, Traced.result_pure, Except.ok.injEq,
      List.append_eq_nil_iff, ← Validated.isEmpty_issues, List.isEmpty_iff]
    constructor
    · rintro ⟨x, hx, is, his, hnil, rfl⟩
      exact ⟨⟨x, hx, hnil⟩, his⟩
    · rintro ⟨⟨x, hx, hnil⟩, hrest⟩
      exact ⟨x, hx, [], hrest, hnil, rfl⟩

theorem validate_eq_accepted {w : Validator} {v : Data} :
    (w.validate v).result = .ok (.accepted v) ↔
      ∀ r ∈ w.checks, ∃ x, (r.run v).result = .ok x ∧ x.isValid := by
  rw [← issues_eq_ok_nil, result_validate_eq_ok]
  constructor
  · rintro ⟨is, his, hv⟩
    have := congrArg Verdict.issues hv
    rw [Verdict.issues_of] at this
    rw [his, ← this]
    rfl
  · intro h
    exact ⟨[], h, rfl⟩

end Validator

namespace Declaration

theorem apply_direct {d : Declaration} {s : Scope} (hs : s.path = ∅)
    (h : d.IsTextual) : d.direct.apply s = pure (s.nest ⟨d.outcome⟩) := by
  cases d with
  | root block =>
    rw [direct, Step.apply, Scope.nestGroup, hs]
    rfl
  | field name getter block =>
    have hname := (forall_field? rfl).mp h
    have hread := ensureReadable_of_isSpellable (Data.isSpellable_of_isText hname) getter
    rw [direct, Step.apply_field, Step.made, hread, hs,
      outcome_field (Validator.fieldPath_of_isText hname)]
    rfl
  | fieldItems name getter block =>
    have hname := (forall_field? rfl).mp h
    have hread := ensureReadable_of_isSpellable (Data.isSpellable_of_isText hname) getter
    rw [direct, Step.apply_fieldItems, Step.made, hread, hs,
      outcome_fieldItems (Validator.fieldPath_of_isText hname)]
    rfl

theorem applyAll_direct {ds : List Declaration} {s : Scope} (hs : s.path = ∅)
    (h : ∀ d ∈ ds, d.IsTextual) :
    Step.applyAll (ds.map direct) s =
      pure { s with nested := s.nested ++ ds.map fun d => ⟨d.outcome⟩ } := by
  induction ds generalizing s with
  | nil => simp [Step.applyAll]
  | cons d rest ih =>
    obtain ⟨hd, hrest⟩ := List.forall_mem_cons.mp h
    rw [List.map_cons, Step.applyAll, apply_direct hs hd, pure_bind,
      ih (s := s.nest ⟨d.outcome⟩) hs hrest]
    simp [Scope.nest]

theorem evaluation_direct {ds : List Declaration}
    (h : ∀ d ∈ ds, d.IsTextual) (v : Data) :
    Step.evaluation (ds.map direct) ∅ .null (pure v) = (do
      let xs ← ds.mapM fun d => d.outcome v
      pure (Scope.summary xs)) := by
  rw [Step.evaluation, applyAll_direct rfl h]
  simp only [pure_bind, Scope.evaluateRead, Scope.evaluate, Scope.start, List.nil_append,
    Validator.outcomes_eq]
  rfl

end Declaration

namespace Validator

/-- Of any declarations the validator keeps those that can be registered, in order, and validating
combines their outcomes: it accepts exactly when each of them is valid. Where their names are texts
it has the outcome, the calls and the faults of a scope at the empty path in which they are made as
steps. -/
theorem validate_registered (owner : Data) (ds : List Declaration) :
    (attempted owner ds).labels = (Declaration.registered owner ds).map Declaration.label ∧
    (∀ d : Declaration, d.registers owner ↔ owner.isSpellable ∧
      ∀ name getter, d.field? = some (name, getter) → name.isSpellable ∧ name.IsPlace) ∧
    (∀ v, (attempted owner ds).validate v = (do
      let xs ← (Declaration.registered owner ds).mapM fun d => d.outcome v
      pure (.ofValidated v ((Validated.combine xs).as Data.null)))) ∧
    (∀ v, ((attempted owner ds).validate v).result = .ok (.accepted v) ↔
      ∀ d ∈ Declaration.registered owner ds,
        ∃ x, (d.outcome v).result = .ok x ∧ x.isValid) ∧
    ((∀ d ∈ Declaration.registered owner ds, d.IsTextual) →
      ∀ v, (attempted owner ds).validate v = (do
        pure (.ofValidated v (← Step.evaluation
          ((Declaration.registered owner ds).map Declaration.direct) ∅ .null (pure v))))) ∧
    (owner.isSpellable → (∀ d ∈ ds, d.IsTextual) → Declaration.registered owner ds = ds) := by
  have hvalidate : ∀ v, (attempted owner ds).validate v = (do
      let xs ← (Declaration.registered owner ds).mapM fun d => d.outcome v
      pure (.ofValidated v (Scope.summary xs))) := by
    intro v
    rw [validate_eq_summary, attempted_eq, outcomes_eq]
  refine ⟨by rw [attempted_eq], fun d => Declaration.registers_iff, hvalidate, fun v => ?_,
    fun h v => ?_, Declaration.registered_of_isText⟩
  · rw [validate_eq_accepted, attempted_eq]
    exact List.forall_mem_map
  · rw [hvalidate, Declaration.evaluation_direct h, bind_assoc]
    simp only [pure_bind]

def sampleServer : List Declaration :=
  [.root [.rule (.text "is empty") (some fun v => pure v.isTrue) .null .null],
    .field (.text "host") (some fun v => .ofExcept (Data.field (.text "name") v))
      [.rule (.text "is blank") (some fun v => pure v.isTrue) .null .null],
    .field (.bool true) none [],
    .fieldItems (.text "ports") none
      [.rule (.text "is no port") (some fun v => pure v.isTrue) .null .null]]

def sampleServerData : Data :=
  .mapping [(.text "name", .text ""), (.text "ports", .list [.int 80, .int 0])]

theorem isTextual_sampleServer :
    ∀ d ∈ Declaration.registered (.text "Server") sampleServer, d.IsTextual := by
  intro d hd name getter hfield
  obtain ⟨hd, hregisters⟩ := List.mem_filter.mp hd
  simp only [sampleServer, List.mem_cons, List.not_mem_nil, or_false] at hd
  rcases hd with rfl | rfl | rfl | rfl
  · cases hfield
  · cases hfield
    rfl
  · cases hregisters
  · cases hfield
    rfl

theorem sampleServer_validated :
    (attempted (.text "Server") sampleServer).labels = [.text "", .text "host", .text "ports[]"] ∧
    (attempted (.text "Server") sampleServer).validate sampleServerData = (do
      pure (.ofValidated sampleServerData (← Step.evaluation
        ((Declaration.registered (.text "Server") sampleServer).map Declaration.direct) ∅ .null
        (pure sampleServerData)))) ∧
    ∃ x, ((attempted (.text "Server") sampleServer).validate sampleServerData).result = .ok x ∧
      x.issues.map Issue.message = [.text "is blank", .text "is no port"] := by
  obtain ⟨hlabels, -, -, -, hscope, -⟩ := validate_registered (.text "Server") sampleServer
  exact ⟨hlabels.trans rfl, hscope isTextual_sampleServer _, _, rfl, rfl⟩

end Validator

end Assay
