import Assay.Proofs.Rule.Laws

/-! # Rule expressions

Rules that are put together as a tree, and what the tree says by itself: which
issues it finds on a value, with which calls and faults. What is built from the
tree does just that, and on functions that do not fail it is a Boolean formula.
-/

namespace Assay

/-- How a rule is put together from functions on values. At the empty path, a predicate makes a rule
for any place. -/
inductive Expression
  /-- A function that is used as a rule. -/
  | function (f : Data → Run (Validated Data))
  | predicate (path : Path) (message : Data) (p : Predicate) (code group : Data)
  | andThen (first second : Expression)
  | combine (left right : Expression)
  | forbid (inner : Expression) (message code group : Data)
  | located (inner : Expression) (path : Path)
  | allOf (parts : List Expression)

namespace Expression

mutual

/-- The rule of an expression, the parts being built before the whole. -/
def build (e : Expression) : Except Fault Rule :=
  match e with
  | function f => pure ⟨f⟩
  | predicate path message p code group => Rule.ofPredicate path message p code group
  | andThen first second => do pure ((← first.build).andThen (← second.build))
  | combine left right => do pure ((← left.build).combine (← right.build))
  | forbid inner message code group => do (← inner.build).forbid message code group
  | located inner path => do pure ((← inner.build).located path)
  | allOf parts => do pure (.allOf (← buildAll parts))
termination_by structural e

def buildAll (es : List Expression) : Except Fault (List Rule) :=
  match es with
  | [] => pure []
  | e :: rest => do
    let r ← e.build
    pure (r :: (← buildAll rest))
termination_by structural es

end

mutual

/-- The issues that an expression finds on a value. -/
def findings (e : Expression) (v : Data) : Run (List Issue) :=
  match e with
  | function f => do pure (← f v).issues
  | predicate path message p code group => do
    if ← p v then pure [] else pure [⟨path, message, code, group⟩]
  | andThen first second => do
    let is ← first.findings v
    if is.isEmpty then second.findings v else pure is
  | combine left right => do
    let is ← left.findings v
    let js ← right.findings v
    pure (is ++ js)
  | forbid inner message code group => do
    let is ← inner.findings v
    pure (if is.isEmpty then [⟨∅, message, code, group⟩] else [])
  | located inner path => do
    let is ← inner.findings v
    pure (is.map fun i => if i.path.isEmpty then i.withPath path else i)
  | allOf parts => findingsAll parts v
termination_by structural e

def findingsAll (es : List Expression) (v : Data) : Run (List Issue) :=
  match es with
  | [] => pure []
  | e :: rest => do
    let is ← e.findings v
    let js ← findingsAll rest v
    pure (is ++ js)
termination_by structural es

end

def answer (m : Run Bool) : Bool := m.result.toOption.getD false

mutual

/-- The formula that an expression stands for: expressions in sequence and side by side are both
joined by "and", and what is forbidden is negated. -/
def formula (e : Expression) (v : Data) : Bool :=
  match e with
  | function f => answer do pure (← f v).isValid
  | predicate _ _ p _ _ => answer (p v)
  | andThen first second => first.formula v && second.formula v
  | combine left right => left.formula v && right.formula v
  | forbid inner _ _ _ => !inner.formula v
  | located inner _ => inner.formula v
  | allOf parts => formulaAll parts v
termination_by structural e

def formulaAll (es : List Expression) (v : Data) : Bool :=
  match es with
  | [] => true
  | e :: rest => e.formula v && formulaAll rest v
termination_by structural es

end

mutual

def Everywhere (P : Expression → Prop) (e : Expression) : Prop :=
  P e ∧ match e with
  | function _ | predicate _ _ _ _ _ => True
  | andThen first second => first.Everywhere P ∧ second.Everywhere P
  | combine left right => left.Everywhere P ∧ right.Everywhere P
  | forbid inner _ _ _ => inner.Everywhere P
  | located inner _ => inner.Everywhere P
  | allOf parts => EverywhereAll P parts
termination_by structural e

def EverywhereAll (P : Expression → Prop) (es : List Expression) : Prop :=
  match es with
  | [] => True
  | e :: rest => e.Everywhere P ∧ EverywhereAll P rest
termination_by structural es

end

/-- A message that the expression gives itself does not count as false. -/
def Worded : Expression → Prop
  | predicate _ message _ _ _ | forbid _ message _ _ => message.isTrue
  | _ => True

/-- A function that the expression calls itself does not fail on the value. -/
def Answers (v : Data) : Expression → Prop
  | function f => ∃ x, (f v).result = .ok x
  | predicate _ _ p _ _ => ∃ b, (p v).result = .ok b
  | _ => True

/-- A valid outcome of a function carries nothing. -/
def Bare : Expression → Prop
  | function f => Rule.Bare ⟨f⟩
  | _ => True

section

variable {α β γ : Type} {x : Except Fault α} {y : Except Fault β}

theorem exists_ok_bind_pure {g : α → β} :
    (∃ b, (do pure (g (← x)) : Except Fault β) = .ok b) ↔ ∃ a, x = .ok a := by
  cases x with
  | ok a => exact iff_of_true ⟨g a, rfl⟩ ⟨a, rfl⟩
  | error f => exact iff_of_false nofun nofun

theorem exists_ok_bind_bind_pure {g : α → β → γ} :
    (∃ c, (do
      let a ← x
      let b ← y
      pure (g a b) : Except Fault γ) = .ok c) ↔ (∃ a, x = .ok a) ∧ ∃ b, y = .ok b := by
  cases x with
  | ok a =>
    rw [and_iff_right ⟨a, rfl⟩]
    exact exists_ok_bind_pure
  | error f => exact iff_of_false nofun nofun

end

theorem exists_make_eq_ok {path : Path} {message code group : Data} :
    (∃ i, Issue.make path message code group = .ok i) ↔ message.isTrue :=
  ⟨fun ⟨_, h⟩ => (Issue.make_eq_ok.mp h).1, fun h => ⟨_, Issue.make_eq_ok.mpr ⟨h, rfl⟩⟩⟩

mutual

/-- An expression can be built exactly when it has all of its messages. -/
theorem exists_build_eq_ok (e : Expression) : (∃ r, e.build = .ok r) ↔ e.Everywhere Worded := by
  cases e with
  | function f => exact iff_of_true ⟨_, rfl⟩ ⟨trivial, trivial⟩
  | predicate path message p code group =>
    rw [build, Rule.ofPredicate, exists_ok_bind_pure, exists_make_eq_ok]
    exact (and_iff_left trivial).symm
  | andThen first second =>
    rw [build, exists_ok_bind_bind_pure, exists_build_eq_ok first, exists_build_eq_ok second]
    exact (and_iff_right trivial).symm
  | combine left right =>
    rw [build, exists_ok_bind_bind_pure, exists_build_eq_ok left, exists_build_eq_ok right]
    exact (and_iff_right trivial).symm
  | forbid inner message code group =>
    change (∃ r, (do
      let a ← inner.build
      let i ← Issue.make ∅ message code group
      pure (a.forbidding i)) = .ok r) ↔ _
    rw [exists_ok_bind_bind_pure, exists_build_eq_ok inner, exists_make_eq_ok]
    exact and_comm
  | located inner path =>
    rw [build, exists_ok_bind_pure, exists_build_eq_ok inner]
    exact (and_iff_right trivial).symm
  | allOf parts =>
    rw [build, exists_ok_bind_pure, exists_buildAll_eq_ok parts]
    exact (and_iff_right trivial).symm
termination_by structural e

theorem exists_buildAll_eq_ok (es : List Expression) :
    (∃ rs, buildAll es = .ok rs) ↔ EverywhereAll Worded es := by
  cases es with
  | nil => exact iff_of_true ⟨[], rfl⟩ trivial
  | cons e rest =>
    rw [buildAll, exists_ok_bind_bind_pure, exists_build_eq_ok e, exists_buildAll_eq_ok rest]
    exact .rfl
termination_by structural es

end

mutual

/-- The rule of an expression reports what the expression finds. -/
theorem reports_of_build (e : Expression) {r : Rule} (h : e.build = .ok r) (v : Data) :
    r.reports v = e.findings v := by
  cases e with
  | function f => cases h; rfl
  | predicate path message p code group =>
    obtain ⟨i, hi, h⟩ := Traced.except_bind_eq_ok.mp h
    cases h
    obtain ⟨-, rfl⟩ := Issue.make_eq_ok.mp hi
    rw [Rule.reports_ofIssue, findings]
  | andThen first second =>
    obtain ⟨a, ha, h⟩ := Traced.except_bind_eq_ok.mp h
    obtain ⟨b, hb, h⟩ := Traced.except_bind_eq_ok.mp h
    cases h
    rw [Rule.reports_andThen, reports_of_build first ha, reports_of_build second hb, findings]
  | combine left right =>
    obtain ⟨a, ha, h⟩ := Traced.except_bind_eq_ok.mp h
    obtain ⟨b, hb, h⟩ := Traced.except_bind_eq_ok.mp h
    cases h
    rw [Rule.reports_combine, reports_of_build left ha, reports_of_build right hb, findings]
  | forbid inner message code group =>
    obtain ⟨a, ha, h⟩ := Traced.except_bind_eq_ok.mp h
    obtain ⟨i, hi, h⟩ := Traced.except_bind_eq_ok.mp h
    cases h
    obtain ⟨-, rfl⟩ := Issue.make_eq_ok.mp hi
    rw [Rule.reports_forbidding, reports_of_build inner ha, findings]
  | located inner path =>
    obtain ⟨a, ha, h⟩ := Traced.except_bind_eq_ok.mp h
    cases h
    rw [Rule.reports_located, reports_of_build inner ha, findings]
    rfl
  | allOf parts =>
    obtain ⟨rs, hrs, h⟩ := Traced.except_bind_eq_ok.mp h
    cases h
    rw [Rule.reports_allOf, issues_of_buildAll parts hrs, findings]
termination_by structural e

theorem issues_of_buildAll (es : List Expression) {rs : List Rule} (h : buildAll es = .ok rs)
    (v : Data) : Validator.issues rs v = findingsAll es v := by
  cases es with
  | nil => cases h; rfl
  | cons e rest =>
    obtain ⟨r, hr, h⟩ := Traced.except_bind_eq_ok.mp h
    obtain ⟨rs, hrs, h⟩ := Traced.except_bind_eq_ok.mp h
    cases h
    rw [Validator.issues_cons_eq, reports_of_build e hr, issues_of_buildAll rest hrs, findingsAll]
termination_by structural es

end

/-- Where no function gives more than issues, no rule that is built does. -/
theorem bare_of_build (e : Expression) (hbare : e.Everywhere Bare) {r : Rule}
    (h : e.build = .ok r) : r.Bare := by
  cases e with
  | function f => cases h; exact hbare.1
  | predicate path message p code group =>
    obtain ⟨i, -, h⟩ := Traced.except_bind_eq_ok.mp h
    cases h
    exact Rule.bare_ofIssue i p
  | andThen first second =>
    obtain ⟨a, ha, h⟩ := Traced.except_bind_eq_ok.mp h
    obtain ⟨b, hb, h⟩ := Traced.except_bind_eq_ok.mp h
    cases h
    exact (bare_of_build first hbare.2.1 ha).andThen (bare_of_build second hbare.2.2 hb)
  | combine left right =>
    obtain ⟨a, -, h⟩ := Traced.except_bind_eq_ok.mp h
    obtain ⟨b, -, h⟩ := Traced.except_bind_eq_ok.mp h
    cases h
    exact Rule.bare_combine a b
  | forbid inner message code group =>
    obtain ⟨a, -, h⟩ := Traced.except_bind_eq_ok.mp h
    obtain ⟨i, -, h⟩ := Traced.except_bind_eq_ok.mp h
    cases h
    exact Rule.bare_forbidding a i
  | located inner path =>
    obtain ⟨a, ha, h⟩ := Traced.except_bind_eq_ok.mp h
    cases h
    exact (bare_of_build inner hbare.2 ha).located path
  | allOf parts =>
    obtain ⟨rs, -, h⟩ := Traced.except_bind_eq_ok.mp h
    cases h
    exact Rule.bare_allOf rs
termination_by structural e

theorem answer_of_ok {m : Run Bool} {b : Bool} (h : m.result = .ok b) : answer m = b := by
  rw [answer, h]
  rfl

mutual

/-- On functions that do not fail, an expression finds nothing exactly when its formula holds. -/
theorem exists_findings (e : Expression) {v : Data} (h : e.Everywhere (Answers v)) :
    ∃ is, (e.findings v).result = .ok is ∧ is.isEmpty = e.formula v := by
  cases e with
  | function f =>
    obtain ⟨x, hx⟩ := h.1
    have hvalid : answer (do pure (← f v).isValid) = x.isValid :=
      answer_of_ok (Traced.result_bind_pure_eq_ok.mpr ⟨x, hx, rfl⟩)
    refine ⟨x.issues, Traced.result_bind_pure_eq_ok.mpr ⟨x, hx, rfl⟩, ?_⟩
    rw [formula, hvalid, Validated.isEmpty_issues]
  | predicate path message p code group =>
    obtain ⟨b, hb⟩ := h.1
    rw [findings, formula, answer_of_ok hb, Traced.bind_of_ok hb]
    cases b
    · exact ⟨_, rfl, rfl⟩
    · exact ⟨_, rfl, rfl⟩
  | andThen first second =>
    obtain ⟨is, his, hfirst⟩ := exists_findings first h.2.1
    obtain ⟨js, hjs, hsecond⟩ := exists_findings second h.2.2
    rw [findings, formula, Traced.bind_of_ok his, ← hfirst, ← hsecond]
    cases is with
    | nil => exact ⟨js, hjs, rfl⟩
    | cons i is => exact ⟨i :: is, rfl, rfl⟩
  | combine left right =>
    obtain ⟨is, his, hleft⟩ := exists_findings left h.2.1
    obtain ⟨js, hjs, hright⟩ := exists_findings right h.2.2
    rw [findings, formula, Traced.bind_of_ok his, ← hleft, ← hright]
    refine ⟨is ++ js, Traced.result_bind_pure_eq_ok.mpr ⟨js, hjs, rfl⟩, ?_⟩
    cases is <;> rfl
  | forbid inner message code group =>
    obtain ⟨is, his, hinner⟩ := exists_findings inner h.2
    rw [findings, formula, ← hinner]
    refine ⟨_, Traced.result_bind_pure_eq_ok.mpr ⟨is, his, rfl⟩, ?_⟩
    cases is <;> rfl
  | located inner path =>
    obtain ⟨is, his, hinner⟩ := exists_findings inner h.2
    rw [findings, formula, ← hinner]
    exact ⟨_, Traced.result_bind_pure_eq_ok.mpr ⟨is, his, rfl⟩, List.isEmpty_map⟩
  | allOf parts => exact exists_findingsAll parts h.2
termination_by structural e

theorem exists_findingsAll (es : List Expression) {v : Data}
    (h : EverywhereAll (Answers v) es) :
    ∃ is, (findingsAll es v).result = .ok is ∧ is.isEmpty = formulaAll es v := by
  cases es with
  | nil => exact ⟨[], rfl, rfl⟩
  | cons e rest =>
    obtain ⟨is, his, hfirst⟩ := exists_findings e h.1
    obtain ⟨js, hjs, hrest⟩ := exists_findingsAll rest h.2
    rw [findingsAll, formulaAll, Traced.bind_of_ok his, ← hfirst, ← hrest]
    refine ⟨is ++ js, Traced.result_bind_pure_eq_ok.mpr ⟨js, hjs, rfl⟩, ?_⟩
    cases is <;> rfl
termination_by structural es

end

/-- The rule of an expression, which can be built exactly when it has all of its messages, does on
every value what the expression says: it reports the issues that the expression finds, with the
same calls and the same fault. Its outcome is valid exactly when there are none, and carries nothing
when no function does. Where the functions do not fail, its outcome is valid exactly when the
formula of the expression holds. -/
theorem build_denotes (e : Expression) :
    ((∃ r, e.build = .ok r) ↔ e.Everywhere Worded) ∧
      ∀ r, e.build = .ok r → ∀ v,
        (do pure (← r.run v).issues) = e.findings v ∧
        (∀ x, (r.run v).result = .ok x →
          (e.findings v).result = .ok x.issues ∧ (x.isValid ↔ x.issues = [])) ∧
        (e.Everywhere Bare → r.run v = (do pure (.check .null (← e.findings v)))) ∧
        (e.Everywhere (Answers v) → ∃ x, (r.run v).result = .ok x ∧ x.isValid = e.formula v) := by
  refine ⟨exists_build_eq_ok e, fun r h v => ?_⟩
  have hreports : r.reports v = e.findings v := reports_of_build e h v
  refine ⟨hreports, fun x hx => ⟨?_, ?_⟩, fun hbare => ?_, fun hanswers => ?_⟩
  · rw [← hreports]
    exact Traced.result_bind_pure_eq_ok.mpr ⟨x, hx, rfl⟩
  · rw [← Validated.isEmpty_issues, List.isEmpty_iff]
  · rw [← hreports]
    exact (bare_of_build e hbare h).run_eq v
  · obtain ⟨is, his, hformula⟩ := exists_findings e hanswers
    rw [← hreports] at his
    obtain ⟨x, hx, rfl⟩ := Traced.result_bind_pure_eq_ok.mp his
    exact ⟨x, hx, by rw [← hformula, Validated.isEmpty_issues]⟩

def agePath : Path := .ofName (.text "age")

def hostIssue : Issue := ⟨.ofName (.text "host"), .text "is unknown", .null, .null⟩

/-- An age that must be numeric before it is compared, must not be one that is taken, and is looked
up by a function with a path of its own. -/
def sampleAge : Expression :=
  .allOf
    [.andThen
      (.predicate agePath (.text "must be numeric") (marked (some "numeric") Predicate.isDigits)
        .null .null)
      (.predicate agePath (.text "must be an adult")
        (marked (some "adult") (Predicate.integerAtLeast 18)) .null .null),
    .located
      (.combine
        (.forbid
          (.predicate ∅ (.text "must be 17") (marked (some "taken") (Predicate.equals (.text "17")))
            .null .null)
          (.text "is taken") (.text "taken") .null)
        (.function fun _ => do
          Traced.mark (some "lookup")
          pure (.check .null [hostIssue])))
      agePath]

theorem sampleAge_denotes : ∃ r, sampleAge.build = .ok r ∧
    r.run (.text "17") = ⟨["numeric", "adult", "taken", "lookup"], .ok (.check .null
      [⟨agePath, .text "must be an adult", .null, .null⟩,
        ⟨agePath, .text "is taken", .text "taken", .null⟩, hostIssue])⟩ ∧
    ∃ x, (r.run (.text "17")).result = .ok x ∧ x.isValid = sampleAge.formula (.text "17") ∧
      (x.isValid ↔ x.issues = []) := by
  obtain ⟨hbuild, hdenotes⟩ := build_denotes sampleAge
  obtain ⟨r, hr⟩ := hbuild.mpr (by simp [sampleAge, Everywhere, EverywhereAll, Worded, Data.isTrue])
  obtain ⟨-, houtcome, hbare, hformula⟩ := hdenotes r hr (.text "17")
  have hlookup : Rule.Bare ⟨fun _ => do
      Traced.mark (some "lookup")
      pure (.check .null [hostIssue])⟩ := by
    intro v x hx
    cases hx
    rfl
  have hanswers : sampleAge.Everywhere (Answers (.text "17")) :=
    ⟨trivial, ⟨trivial, ⟨⟨true, rfl⟩, trivial⟩, ⟨false, rfl⟩, trivial⟩,
      ⟨trivial, trivial, ⟨trivial, ⟨true, rfl⟩, trivial⟩, ⟨_, rfl⟩, trivial⟩, trivial⟩
  obtain ⟨x, hx, hvalid⟩ := hformula hanswers
  refine ⟨r, hr, ?_, x, hx, hvalid, (houtcome x hx).2⟩
  rw [hbare ⟨trivial, ⟨trivial, ⟨trivial, trivial⟩, trivial, trivial⟩,
    ⟨trivial, trivial, ⟨trivial, trivial, trivial⟩, hlookup, trivial⟩, trivial⟩]
  rfl

end Expression

end Assay
