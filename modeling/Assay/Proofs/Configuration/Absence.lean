import Assay.Proofs.Checks.Absence
import Assay.Proofs.Configuration.Undeclared
import Assay.Proofs.Registration

/-! # Absent fields

A field whose entries require no value and forbid nothing finds nothing on null.
It may be left out of a mapping, or hold null there, and the validator then does
what it would do without the field.
-/

namespace Assay

namespace Data

/-- The value is a mapping that has nothing, or null, under the key. -/
def Lacks (v key : Data) : Prop :=
  ∃ es, v.entries? = some es ∧ (lookup? key es = none ∨ lookup? key es = some .null)

theorem field_of_lacks {v key : Data} (h : v.Lacks key) (hkey : key.hashable = .ok ()) :
    field key v = .ok .null := by
  obtain ⟨es, hes, habsent⟩ := h
  rw [field_of_entries hes, hkey]
  rcases habsent with habsent | habsent <;> rw [habsent] <;> rfl

theorem IsPlace.hashable {v : Data} (h : v.IsPlace) : v.hashable = .ok () := by
  cases v with
  | text s => rfl
  | codes ns => rfl
  | int n => rfl
  | _ => exact h.elim

end Data

namespace Declaration

theorem checks_of_applyAll {ds : List Declaration} {w w' : Validator}
    (h : (applyAll ds w).result = .ok w') :
    w'.checks = w.checks ++ ds.map fun d => ⟨d.outcome⟩ := by
  induction ds generalizing w with
  | nil =>
    cases h
    exact (List.append_nil _).symm
  | cons d rest ih =>
    obtain ⟨x, hx, h⟩ := Traced.result_bind_eq_ok.mp h
    rw [result_apply] at hx
    obtain ⟨_, -, hx⟩ := Traced.except_bind_eq_ok.mp hx
    cases hx
    rw [ih h, Validator.extended, List.map_cons, List.append_assoc]
    rfl

end Declaration

namespace Configuration

variable {registry : Registry} {es : List (Data × Data)} {index : Nat} {f : Data × List Step}

/-- The entry does not require a value and forbids nothing. -/
def IsLenient (entry : Data) : Prop :=
  ∀ es kind, entry = .mapping es → (get es "type").spell = .ok kind →
    Text.lower kind ≠ "required" ∧ ¬ (get es "forbidden").isTrue

/-- The definition is for a field as a whole, without fields of its own, and none of its entries
requires a value or forbids anything. -/
structure SparesNull (es : List (Data × Data)) : Prop where
  rules : ∀ e ∈ Reading.listed (get es "rules"), IsLenient e
  dependent : ∀ e ∈ Reading.listed (get es "dependent"), IsLenient e
  whole : ¬ (get es "each").isTrue
  childless : Reading.listed (get es "fields") = []

namespace Reading

theorem check?_eq_some {r : Rule} (h : check? registry es = some r) :
    ∃ kind c as, (get es "type").spell = .ok kind ∧
      registry.find? (.text (Text.lower kind)) = some c ∧ c as = .ok r := by
  have hok : ∀ {α : Type} {x : Except Fault α} {a : α}, x.toOption = some a → x = .ok a := by
    intro α x a h
    cases x <;> cases h
    rfl
  obtain ⟨kind, hkind, h⟩ := Option.bind_eq_some_iff.mp h
  obtain ⟨c, hc, h⟩ := Option.bind_eq_some_iff.mp h
  obtain ⟨as, -, h⟩ := Option.bind_eq_some_iff.mp h
  exact ⟨kind, c, as, hok hkind, hc, hok h⟩

theorem children_eq (registry : Registry) (es : List (Data × Data)) (path : Path) (v : Data) :
    children registry es path v = fields registry (listed (get es "fields")) path v := by
  have hdefinitions : ∀ w, definitions registry w path v = fields registry (listed w) path v := by
    intro w
    cases w <;> rfl
  rw [← hdefinitions]
  induction es with
  | nil => rfl
  | cons e rest ih =>
    obtain ⟨key, w⟩ := e
    rw [children, get_cons, ih]
    split <;> rfl

variable [Pattern.Edition]

theorem entry_null {e : Data} (h : IsLenient e) (path : Path) (label : Data) :
    entry .builtin path label .null e = pure [] := by
  cases e with
  | mapping es =>
    rw [entry]
    cases hc : check? .builtin es with
    | none => rfl
    | some r =>
      obtain ⟨kind, c, as, hkind, hfind, hr⟩ := check?_eq_some hc
      obtain ⟨hlenient, hforbidden⟩ := h es kind rfl hkind
      have hr : r.run .null = pure .passed :=
        Registry.sparesNull_builtin hfind (by simpa [Data.eq] using hlenient) as r hr
      simp only [hr, pure_bind, if_neg hforbidden]
      rfl
  | _ => rfl

theorem rules_null {entries : List Data} (h : ∀ e ∈ entries, IsLenient e) (path : Path)
    (label : Data) : rules .builtin path label .null entries = pure [] := by
  induction entries with
  | nil => rfl
  | cons e rest ih =>
    obtain ⟨he, hrest⟩ := List.forall_mem_cons.mp h
    rw [rules, entry_null he, ih hrest]
    rfl

theorem dependent_null {entries : List Data} (h : ∀ e ∈ entries, IsLenient e) (path : Path) :
    dependent .builtin path .null entries = pure [] := by
  induction entries with
  | nil => rfl
  | cons e rest ih =>
    obtain ⟨he, hrest⟩ := List.forall_mem_cons.mp h
    rw [dependent, entry_null he]
    exact ih hrest

theorem field_null (h : SparesNull es) (path : Path) :
    field .builtin (.mapping es) path .null = pure [] := by
  have helement : element .builtin es path .null (children .builtin es path .null) = pure [] := by
    rw [element, rules_null h.rules, dependent_null h.dependent, children_eq, h.childless]
    cases (get es "group").isTrue <;> rfl
  rw [field, value, helement, if_neg h.whole, ite_self]

end Reading

theorem length_of_fieldsFrom {ds : List Data} {fs : List (Data × List Step)}
    (h : (fieldsFrom registry index ds).result = .ok fs) : fs.length = ds.length := by
  induction ds generalizing index fs with
  | nil => cases h; rfl
  | cons d rest ih =>
    obtain ⟨f, -, h⟩ := Traced.result_bind_eq_ok.mp h
    obtain ⟨fs, hfs, h⟩ := Traced.result_bind_eq_ok.mp h
    cases h
    rw [List.length_cons, List.length_cons, ih hfs]

theorem exists_of_fieldsFrom_append_cons {before after : List Data} {d : Data}
    {fs : List (Data × List Step)}
    (h : (fieldsFrom registry index (before ++ d :: after)).result = .ok fs) :
    ∃ i front f back, fs = front ++ f :: back ∧ back.length = after.length ∧
      (field registry i d).result = .ok f := by
  induction before generalizing index fs with
  | nil =>
    obtain ⟨f, hf, h⟩ := Traced.result_bind_eq_ok.mp h
    obtain ⟨back, hback, h⟩ := Traced.result_bind_eq_ok.mp h
    cases h
    exact ⟨index, [], f, back, rfl, length_of_fieldsFrom hback, hf⟩
  | cons e rest ih =>
    obtain ⟨g, -, h⟩ := Traced.result_bind_eq_ok.mp h
    obtain ⟨gs, hgs, h⟩ := Traced.result_bind_eq_ok.mp h
    cases h
    obtain ⟨i, front, f, back, rfl, hback, hf⟩ := ih hgs
    exact ⟨i, g :: front, f, back, rfl, hback, hf⟩

section Builtin

variable [Pattern.Edition]

theorem check_field_null (h : SparesNull es)
    (hf : (field .builtin index (.mapping es)).result = .ok f) (path : Path) :
    Scope.check (Step.applyAll f.2) path .null .null = pure .passed := by
  obtain ⟨-, -, hfinds⟩ := finds_field Registry.unplaced_builtin _ hf
  rw [Scope.check_eq_runAll, hfinds path, Reading.field_null h]
  rfl

theorem nestField_of_lacks (h : SparesNull es)
    (hf : (field .builtin index (.mapping es)).result = .ok f) (s : Scope) :
    ∃ r, s.nestField f.1 none (Step.applyAll f.2) = .ok (s.nest r) ∧
      ∀ v : Data, v.Lacks f.1 → f.1.hashable = .ok () → r.run v = pure .passed := by
  obtain ⟨-, shown, hshown⟩ := name_of_field hf
  refine ⟨_, by rw [Scope.nestField, Step.reader, hshown]; rfl, fun v hv hkey => ?_⟩
  change (do Scope.check _ _ _ (← Traced.ofExcept (Data.field f.1 v))) = _
  rw [Data.field_of_lacks hv hkey]
  exact check_field_null h hf _

theorem outcome_of_lacks (h : SparesNull es)
    (hf : (field .builtin index (.mapping es)).result = .ok f) (hplace : f.1.IsPlace) {v : Data}
    (hv : v.Lacks f.1) : (Declaration.field f.1 none f.2).outcome v = pure .passed := by
  obtain ⟨path, hpath⟩ := Validator.exists_fieldPath_iff.mpr hplace
  rw [Declaration.outcome_field hpath]
  change (do Scope.check _ _ _ (← Traced.ofExcept (Data.field f.1 v))) = _
  rw [Data.field_of_lacks hv hplace.hashable]
  exact check_field_null h hf path

/-- The check of a declared field that spares null passes where the field is absent. -/
theorem exists_check_of_lacks {options : Arguments} {w : Validator} {before after : List Data}
    (hw : (build .builtin options).result = .ok w)
    (hfields : Reading.listed (options.getD "fields" .null) = before ++ .mapping es :: after)
    (h : SparesNull es) {v : Data} (hv : v.Lacks (get es "name")) :
    ∃ front check back, w.checks = front ++ check :: back ∧ back.length = after.length ∧
      check.run v = pure .passed := by
  obtain ⟨owner, rs, fs, -, hfs, hw⟩ := build_eq_ok hw
  rw [hfields] at hfs
  obtain ⟨i, front, f, back, rfl, hlength, hf⟩ := exists_of_fieldsFrom_append_cons hfs
  have hname : f.1 = get es "name" := (name_of_field hf).1
  have hmade := Traced.except_forM_eq_ok.mp (Validator.made_of_built hw) (.field f.1 none f.2)
    (by simp [fieldDeclarations])
  have hplace : f.1.IsPlace := ((Declaration.made_eq_ok_iff.mp hmade).2 f.1 none rfl).2
  have hchecks := Declaration.checks_of_applyAll hw
  refine ⟨(rootDeclarations rs ++ fieldDeclarations front).map fun d => ⟨d.outcome⟩,
    ⟨(Declaration.field f.1 none f.2).outcome⟩, (fieldDeclarations back).map fun d => ⟨d.outcome⟩,
    ?_, ?_, outcome_of_lacks h hf hplace (hname ▸ hv)⟩
  · rw [hchecks]
    simp [fieldDeclarations, Validator.empty]
  · rw [List.length_map, fieldDeclarations, List.length_map, hlength]

/-- A rule that is put together from ready-made checks, of which none requires a value and nothing
is turned into its opposite, passes on null. So a field whose entries are such checks, read as a
whole and without fields of its own, finds nothing and does not fail on a mapping that has nothing
or null under its name: neither below another field nor in a validator, which does what its other
checks do. -/
theorem absence_accepted :
    (∀ (r : Recipe) (o : Option Rule), r.IsLenient → r.build.result = .ok o →
      ∃ s, o = some s ∧ s.run .null = pure .passed) ∧
    (∀ (es : List (Data × Data)) (index : Nat) (f : Data × List Step) (s : Scope),
      SparesNull es → (field .builtin index (.mapping es)).result = .ok f →
      ∃ r, s.nestField f.1 none (Step.applyAll f.2) = .ok (s.nest r) ∧
        ∀ v : Data, v.Lacks f.1 → f.1.hashable = .ok () → r.run v = pure .passed) ∧
    (∀ (options : Arguments) (w : Validator) (before after : List Data) (es : List (Data × Data)),
      (build .builtin options).result = .ok w →
      Reading.listed (options.getD "fields" .null) = before ++ .mapping es :: after →
      SparesNull es → ∀ v : Data, v.Lacks (get es "name") →
      ∃ front check back, w.checks = front ++ check :: back ∧ back.length = after.length ∧
        check.run v = pure .passed ∧
        Validator.issues w.checks v = Validator.issues (front ++ back) v) := by
  refine ⟨fun r o h ho => r.makesSparing_of_build h ho,
    fun es index f s h hf => nestField_of_lacks h hf s,
    fun options w before after es hw hfields h v hv => ?_⟩
  obtain ⟨front, check, back, hchecks, hlength, hpass⟩ := exists_check_of_lacks hw hfields h hv
  refine ⟨front, check, back, hchecks, hlength, hpass, ?_⟩
  rw [hchecks, Validator.issues_append, Validator.issues_append, Validator.issues_cons, hpass]
  simp [Validated.passed, Validated.issues]

end Builtin

def sampleLenient : Recipe :=
  .located (.andThen
    (.check (.text "length") (.ok [("max", .int 1), ("message", .text "too long")]))
    (.both (.check (.text "numeric") (.ok []))
      (.allOf [.check (.text "one_of") (.ok [("values", .list [.text "1", .text "2"])])]))) (.ok ∅)

/-- A labelled field with a bound that no value could be compared with. -/
def samplePages : List (Data × Data) :=
  [(.text "name", .text "pages"), (.text "group", .text "extent"),
    (.text "rules", .list [.mapping [(.text "type", .text "Range"), (.text "min", .text "a")]]),
    (.text "dependent", .list [.mapping [(.text "type", .text "not_blank")]])]

def sampleBook : Arguments :=
  [("fields", .list [.mapping [(.text "name", .text "title"),
    (.text "rules", .list [.mapping [(.text "type", .text "required")]])], .mapping samplePages])]

theorem sparesNull_samplePages : SparesNull samplePages where
  rules e he := by
    obtain rfl := List.mem_singleton.mp he
    rintro es kind ⟨⟩ ⟨⟩
    exact ⟨by decide, by decide⟩
  dependent e he := by
    obtain rfl := List.mem_singleton.mp he
    rintro es kind ⟨⟩ ⟨⟩
    exact ⟨by decide, by decide⟩
  whole := by decide
  childless := rfl

theorem sampleBook_accepted : sampleLenient.IsLenient ∧ SparesNull samplePages ∧
    (∃ o s, sampleLenient.build.result = .ok o ∧ o = some s ∧ s.run .null = pure .passed) ∧
    (∃ f r, (field .builtin 0 (.mapping samplePages)).result = .ok f ∧
      (Scope.start ∅ .null).nestField f.1 none (Step.applyAll f.2) =
        .ok ((Scope.start ∅ .null).nest r) ∧ r.run (.view []) = pure .passed) ∧
    ∃ w front check, (build .builtin sampleBook).result = .ok w ∧ w.checks = front ++ [check] ∧
      check.run (.mapping [(.text "pages", .null)]) = pure .passed ∧
      ∃ is, (Validator.issues w.checks (.mapping [(.text "pages", .null)])).result = .ok is ∧
        is.map Issue.code = [.text "required"] := by
  obtain ⟨hrecipe, hnested, hdeclared⟩ := absence_accepted
  have hlenient : sampleLenient.IsLenient := by
    simp [sampleLenient, Recipe.IsLenient, Recipe.AreLenient, Data.eq]
  obtain ⟨o, ho⟩ : ∃ o, sampleLenient.build.result = .ok o := ⟨_, rfl⟩
  obtain ⟨s, rfl, hs⟩ := hrecipe _ _ hlenient ho
  obtain ⟨f, hf⟩ : ∃ f, (field .builtin 0 (.mapping samplePages)).result = .ok f := ⟨_, rfl⟩
  obtain ⟨r, hr, hpass⟩ := hnested _ 0 f (.start ∅ .null) sparesNull_samplePages hf
  obtain ⟨w, hw⟩ : ∃ w, (build .builtin sampleBook).result = .ok w := ⟨_, rfl⟩
  obtain ⟨front, check, back, hchecks, hlength, hcheck, -⟩ :=
    hdeclared _ _ [_] [] _ hw rfl sparesNull_samplePages (.mapping [(.text "pages", .null)])
      ⟨_, rfl, .inr rfl⟩
  obtain rfl := List.eq_nil_of_length_eq_zero hlength
  refine ⟨hlenient, sparesNull_samplePages, ⟨_, s, ho, rfl, hs⟩, ⟨f, r, hf, hr, ?_⟩,
    w, front, check, hw, hchecks, hcheck, ?_⟩
  · cases hf
    exact hpass _ ⟨_, rfl, .inl rfl⟩ rfl
  · cases hw
    exact ⟨_, rfl, rfl⟩

end Configuration

end Assay
