import Assay.Proofs.Guards.Scopes
import Assay.Proofs.Guards.Proper

/-! # Guards that never refuse

The guards of an evaluation let everything pass that a proper program makes: the
evaluation with guards is the evaluation. What is left to raise a fault are the
functions handed in, and the reading and listing of values.
-/

namespace Assay

open Visit

variable {R : Fault → Prop}

namespace Guarded

section

variable {block : List Step} (h : Step.AllProper R block)
  (heq : ∀ s, applySteps block s = Step.applyAll block s)

include h heq

theorem check_block : check (fun s => applySteps block s) = Scope.check (Step.applyAll block) := by
  rw [funext heq]
  funext path label v
  exact check_eq (h.check path label v).worded

theorem checkEach_block :
    checkEach (fun s => applySteps block s) = Scope.checkEach (Step.applyAll block) := by
  rw [funext heq]
  funext path v
  exact checkEach_eq (fun path v => (h.check path .null v).worded) v

end

theorem check_ruleIfPresent {message code group : Data} {p : Option Predicate} {rest : List Step}
    (h : Step.AllProper R (.ruleIfPresent message p code group :: rest)) :
    check (fun s => (attachInline s message p code group : Run Scope)) =
      Scope.check fun s => (s.attachInline message p code group : Run Scope) := by
  -- the scope inside is filled as by a block of the rule alone
  have hfill : (fun s : Scope => (s.attachInline message p code group : Run Scope)) =
      Step.applyAll [.rule message p code group] := by
    funext s
    simp [Step.applyAll, Step.apply]
  have hrule : Step.AllProper R [.rule message p code group] := by
    intro t ht
    rcases Step.occurs_cons.mp ht with rfl | ht | ⟨_, _, _, hu, -⟩ | ht
    · exact h.head
    · exact (Step.not_occurs_nil ht).elim
    · cases hu
    · exact (Step.not_occurs_nil ht).elim
  simp only [attachInline_eq]
  rw [hfill]
  funext path label v
  exact check_eq (hrule.check path label v).worded

section

variable {name : Data} {ds : List Declaration} {w : Validator}
  (hbuilt : (Validator.ofDeclarations name ds).result = .ok w) (h : Declaration.AllProper R ds)

include hbuilt h

theorem validate_eq (v : Data) : validate w v = w.validate v :=
  bind_checked_eq fun _ hx => Verdict.remake_eq_ok.mpr ((h.validate hbuilt v).worded _ hx)

theorem nest_reparented (s : Scope) : s.nest ⟨reparented s w⟩ = s.nestValidator w := by
  unfold Scope.nestValidator
  congr 2
  funext v
  -- the verdict passes first, and then the outcome that is made of it
  refine Eq.trans ?_ (bind_checked_eq fun y hy => Validated.remake_eq_ok.mpr ?_)
  · unfold reparented
    rw [validate_eq hbuilt h, bind_assoc]
    rfl
  · obtain ⟨x, hx, rfl⟩ := Traced.result_bind_pure_eq_ok.mp hy
    rw [Validated.issues_mapIssues, Verdict.issues_toValidated]
    exact List.forall_mem_map.mpr ((h.validate hbuilt v).worded x hx)

end

mutual

/-- A proper step is carried out alike with and without guards. The induction is on the program, of
which all blocks are proper where the whole is. -/
theorem applyStep_eq (t : Step) (h : Step.AllProper R [t]) (s : Scope) :
    applyStep t s = t.apply s := by
  cases t with
  | rule message p code group => rw [applyStep, Step.apply, attachInline_eq]
  | attach source p =>
    obtain ⟨⟨r, hr, hassembled⟩, -⟩ := h.head
    rw [applyStep, Step.apply]
    refine Traced.bind_congr_of_ok hr ?_
    exact congrArg Traced.ofExcept (attachLocated_eq hassembled.worded p.isSome)
  | field name getter block =>
    have hblock : Step.AllProper R block := h.inside
    rw [applyStep, Step.apply, Scope.nestField,
      check_block hblock (applySteps_eq block hblock)]
    cases Step.reader name getter <;> rfl
  | fieldItems name getter block =>
    have hblock : Step.AllProper R block := h.inside
    rw [applyStep, Step.apply, Scope.nestFieldItems,
      checkEach_block hblock (applySteps_eq block hblock)]
    cases Step.reader name getter <;> rfl
  | items block =>
    have hblock : Step.AllProper R block := h.inside
    rw [applyStep, Step.apply, checkEach_block hblock (applySteps_eq block hblock)]
    rfl
  | unlessNull block =>
    have hblock : Step.AllProper R block := h.inside
    rw [applyStep, Step.apply, check_block hblock (applySteps_eq block hblock)]
    rfl
  | ruleIfPresent message p code group =>
    rw [applyStep, Step.apply, check_ruleIfPresent h]
    rfl
  | dependent links => rw [applyStep, Step.apply, attachChain_eq]
  | group label block =>
    have hblock : Step.AllProper R block := h.inside
    rw [applyStep, Step.apply, check_block hblock (applySteps_eq block hblock)]
    rfl
  | use name ds =>
    have hds : Declaration.AllProper R ds := fun d hd => ⟨h.head.2 d hd, h.used d hd⟩
    rw [applyStep, Step.apply, applyDeclarations_eq ds hds]
    -- what a validator finds is known of one that could be built
    cases hw : (Declaration.applyAll ds (.empty name)).result with
    | error f => rfl
    | ok w => exact congrArg pure (nest_reparented hw hds s)
termination_by structural t

theorem applySteps_eq (block : List Step) (h : Step.AllProper R block) (s : Scope) :
    applySteps block s = Step.applyAll block s := by
  cases block with
  | nil => rfl
  | cons t rest =>
    rw [applySteps, Step.applyAll, applyStep_eq t (h.mono (by simp)) s]
    exact bind_congr fun s' => applySteps_eq rest (h.mono (List.subset_cons_self t rest)) s'
termination_by structural block

theorem applyDeclaration_eq (d : Declaration) (h : Step.AllProper R d.block) (w : Validator) :
    applyDeclaration d w = d.apply w := by
  cases d with
  | root block =>
    have hblock : Step.AllProper R block := h
    rw [applyDeclaration, Declaration.apply, check_block hblock (applySteps_eq block hblock)]
    rfl
  | field name getter block =>
    have hblock : Step.AllProper R block := h
    rw [applyDeclaration, Declaration.apply, check_block hblock (applySteps_eq block hblock)]
    rfl
  | fieldItems name getter block =>
    have hblock : Step.AllProper R block := h
    rw [applyDeclaration, Declaration.apply, checkEach_block hblock (applySteps_eq block hblock)]
    rfl
termination_by structural d

theorem applyDeclarations_eq (ds : List Declaration) (h : Declaration.AllProper R ds)
    (w : Validator) : applyDeclarations ds w = Declaration.applyAll ds w := by
  cases ds with
  | nil => rfl
  | cons d rest =>
    obtain ⟨hd, hrest⟩ := List.forall_mem_cons.mp h
    rw [applyDeclarations, Declaration.applyAll, applyDeclaration_eq d hd.2 w]
    exact bind_congr fun w' => applyDeclarations_eq rest hrest w'
termination_by structural ds

end

theorem evaluation_eq {block : List Step} (h : Step.AllProper R block) (path : Path)
    (label : Data) {read : Run Data} (hread : FailsOnly read.result R) :
    evaluation block path label read = Step.evaluation block path label read := by
  have hworded := (h.evaluation path label hread).worded
  refine Eq.trans ?_ (bind_checked_eq fun x hx => Validated.remake_eq_ok.mpr (hworded x hx))
  unfold evaluation evaluate Step.evaluation Scope.evaluateRead
  simp only [applySteps_eq block h, bind_assoc]

/-- The engine raises nothing of its own when all that it is given is proper. Rules, scopes and
validators that make everything by constructors, which may refuse, are those that do not: no
constructor ever refuses. What ends an evaluation is a fault of a function that was handed in, of
reading a field by its name, or of listing what has no items. All issues have messages. -/
theorem raises_nothing_of_its_own (R : Fault → Prop) :
    (∀ r : Rule, r.Assembled R (fun _ => True) →
      (∃ r', r.Rebuilt R r') ∧ (∀ r', r.Rebuilt R r' → r' = r) ∧ r.Ends Issue.IsWorded R) ∧
    (∀ (block : List Step) (path : Path) (label : Data) (read : Run Data),
      Step.AllProper R block → FailsOnly read.result R →
      evaluation block path label read = Step.evaluation block path label read ∧
        Run.EndsProperly R Validated.issues (Step.evaluation block path label read)) ∧
    ∀ (name : Data) (ds : List Declaration), name.isSpellable → Declaration.AllProper R ds →
      ∃ w, (Validator.ofDeclarations name ds).result = .ok w ∧
        ofDeclarations name ds = Validator.ofDeclarations name ds ∧
        ∀ v, validate w v = w.validate v ∧ Run.EndsProperly R Verdict.issues (w.validate v) := by
  refine ⟨fun r hr => ?_, fun block path label read h hread => ?_, fun name ds hname h => ?_⟩
  · exact ⟨hr.exists_rebuilt, fun _ h => h.eq, hr.worded⟩
  · exact ⟨evaluation_eq h path label hread, h.evaluation path label hread⟩
  · obtain ⟨w, hw⟩ := h.exists_built hname
    exact ⟨w, hw, applyDeclarations_eq ds h _, fun v => ⟨validate_eq hw h v, h.validate hw v⟩⟩

end Guarded

/-- What `notBlank` raises on what is no text. -/
def Fault.IsBlankRefusal (f : Fault) : Prop := f = .raised .type "not_blank: not a string"

theorem Predicate.failsOnly_notBlank (v : Data) :
    FailsOnly (marked none notBlank v).result Fault.IsBlankRefusal := by
  change FailsOnly (notBlank v) _
  cases v with
  | text _ | codes _ => exact .ok _
  | _ => exact .error rfl

def Rule.sampleTidy : Rule :=
  (ofIssue ⟨∅, .text "is blank", .null, .null⟩ (marked none Predicate.notBlank)).combine
    ((ofIssue ⟨∅, .text "is untidy", .null, .null⟩ (marked none Predicate.notBlank)).located
      ⟨[.name (.text "tidy")]⟩)

theorem Rule.assembled_sampleTidy :
    sampleTidy.Assembled Fault.IsBlankRefusal fun _ => True := by
  have hassembled {r : Rule} {message : Data} (h : ofPredicate ∅ message
      (marked none Predicate.notBlank) .null .null = .ok r) :
      r.Assembled Fault.IsBlankRefusal fun _ => True :=
    .predicate trivial Predicate.failsOnly_notBlank h
  have hblank : ofPredicate ∅ (.text "is blank") (marked none Predicate.notBlank) .null .null =
      .ok (ofIssue ⟨∅, .text "is blank", .null, .null⟩ (marked none Predicate.notBlank)) := rfl
  have huntidy : ofPredicate ∅ (.text "is untidy") (marked none Predicate.notBlank) .null .null =
      .ok (ofIssue ⟨∅, .text "is untidy", .null, .null⟩ (marked none Predicate.notBlank)) := rfl
  exact .combine (hassembled hblank) (.located (hassembled huntidy) trivial)

def Step.sampleNote : List Step :=
  [.attach (pure (some Rule.sampleTidy)) none,
    .use (.text "Note") [.root
      [.dependent [⟨.text "is missing", marked none Predicate.notBlank, .null⟩]]]]

theorem Step.allProper_sampleNote : AllProper Fault.IsBlankRefusal sampleNote := by
  intro t ht
  rcases occurs_cons.mp ht with rfl | ht | ⟨_, _, _, hu, -⟩ | ht
  · exact ⟨⟨_, rfl, Rule.assembled_sampleTidy⟩, rfl⟩
  · exact (not_occurs_nil ht).elim
  · cases hu
  rcases occurs_cons.mp ht with rfl | ht | ⟨_, _, d, hu, hd, ht⟩ | ht
  · exact ⟨rfl, List.forall_mem_singleton.mpr trivial⟩
  · exact (not_occurs_nil ht).elim
  · cases hu
    obtain rfl := List.mem_singleton.mp hd
    simp [Declaration.block, occurs_cons, block] at ht
    subst ht
    exact List.forall_mem_singleton.mpr ⟨rfl, Predicate.failsOnly_notBlank⟩
  · exact (not_occurs_nil ht).elim

def Declaration.sampleNotes : List Declaration :=
  [.fieldItems (.text "notes") none Step.sampleNote]

/-- The notes that are blank are reported; one that is no text is a fault of the predicate. -/
theorem Guarded.raises_nothing_in_sampleNotes : ∃ w x,
    (∃ r, Rule.sampleTidy.Rebuilt Fault.IsBlankRefusal r) ∧
    evaluation Step.sampleNote ∅ .null (pure (.text " ")) =
      Step.evaluation Step.sampleNote ∅ .null (pure (.text " ")) ∧
    (Validator.ofDeclarations (.text "Notes") Declaration.sampleNotes).result = .ok w ∧
    (validate w (.mapping [(.text "notes", .list [.text "a", .text " "])])).result = .ok x ∧
    x.issues.map (·.message) = [.text "is blank", .text "is untidy", .text "is missing"] ∧
    (validate w (.mapping [(.text "notes", .list [.int 3])])).result =
      .error (.raised .type "not_blank: not a string") ∧
    (validate w (.mapping [])).result = .error (.notIterable "NoneType") := by
  obtain ⟨hrules, hscopes, hvalidators⟩ := raises_nothing_of_its_own Fault.IsBlankRefusal
  obtain ⟨w, hw, -, hvalidate⟩ := hvalidators (.text "Notes") Declaration.sampleNotes rfl
    (List.forall_mem_singleton.mpr ⟨⟨⟨_, rfl⟩, nofun⟩, Step.allProper_sampleNote⟩)
  have heq := (hscopes Step.sampleNote ∅ .null (pure (.text " ")) Step.allProper_sampleNote
    (.ok _)).1
  obtain ⟨x, hx, hissues⟩ : ∃ x,
      (w.validate (.mapping [(.text "notes", .list [.text "a", .text " "])])).result = .ok x ∧
      x.issues.map (·.message) = [.text "is blank", .text "is untidy", .text "is missing"] := by
    cases hw
    exact ⟨_, rfl, rfl⟩
  refine ⟨w, x, (hrules _ Rule.assembled_sampleTidy).1, heq, hw, ?_, hissues, ?_, ?_⟩
  · rw [(hvalidate _).1, hx]
  · rw [(hvalidate _).1]
    cases hw
    rfl
  · rw [(hvalidate _).1]
    cases hw
    rfl

end Assay
