import Assay.Proofs.Assembly
import Assay.Proofs.Labels.Governing

/-! # Proper programs

A program is proper when its messages are not empty and its names are texts,
when rules with a message have a predicate and attached ones have none. What it
finds has messages, and it ends with faults of the functions handed in, and with
those of reading and listing values, alone.
-/

namespace Assay

open Visit

/-- Raised by a function that was handed in, or because a value has no such field or no items. -/
inductive Fault.Blamed (R : Fault → Prop) : Fault → Prop
  | raised {f : Fault} : R f → Blamed R f
  | noAttribute (kind name : String) : Blamed R (.noAttribute kind name)
  | kindWithout (kind name : String) : Blamed R (.kindWithout kind name)
  | notIterable (kind : String) : Blamed R (.notIterable kind)

/-- The refusals of the constructors of issues, outcomes, verdicts and positions. -/
inductive Fault.IsGuard : Fault → Prop
  | noErrors (holder : String) : IsGuard (.noErrors holder)
  | emptyMessage : IsGuard .emptyMessage
  | negativePosition (shown : String) : IsGuard (.negativePosition shown)

/-- A constructor has refused only where a function that was handed in says so. -/
theorem Fault.Blamed.of_isGuard {R : Fault → Prop} {f : Fault} (h : f.Blamed R) (hf : f.IsGuard) :
    R f := by
  cases h with
  | raised hR => exact hR
  | _ => cases hf

variable {R : Fault → Prop}

/-- A field is read by a text, and by a getter that raises faults as `R` says, if there is one. -/
def ReadsProperly (R : Fault → Prop) (name : Data) (getter : Option Getter) : Prop :=
  (∃ n, name = .text n) ∧ ∀ g ∈ getter, ∀ v, FailsOnly (g v).result R

def Declaration.IsProper (R : Fault → Prop) : Declaration → Prop
  | .root _ => True
  | .field name getter _ | .fieldItems name getter _ => ReadsProperly R name getter

/-- The step has what it needs: a message and a predicate, or a rule alone, or a name. All faults
of the functions in it are as `R` says. -/
def Step.IsProper (R : Fault → Prop) : Step → Prop
  | .rule message p _ _ | .ruleIfPresent message p _ _ =>
    (∃ m, m ≠ "" ∧ message = .text m) ∧ ∃ q, p = some q ∧ ∀ v, FailsOnly (q v).result R
  | .attach source p =>
    (∃ r, source.result = .ok (some r) ∧ r.Assembled R fun _ => True) ∧ p = none
  | .field name getter _ | .fieldItems name getter _ => ReadsProperly R name getter
  | .dependent links => ∀ l ∈ links, l.message.isTrue ∧ ∀ v, FailsOnly (l.predicate v).result R
  | .use name ds => name.isSpellable ∧ ∀ d ∈ ds, d.IsProper R
  | .items _ | .unlessNull _ | .group _ _ => True

theorem ensureReadable_of_text (n : String) (getter : Option Getter) :
    Step.ensureReadable (.text n) getter = .ok () := by
  cases getter <;> rfl

namespace Declaration

variable {d : Declaration}

theorem ensureShown_eq_ok {owner : Data} (howner : owner.isSpellable) (n : String) :
    ensureShown owner (.text n) = .ok () := by
  have hwrite : owner.write = .ok owner.written := if_pos howner
  unfold ensureShown
  rw [hwrite]
  split <;> rfl

theorem made_eq_ok {owner : Data} (howner : owner.isSpellable) (h : d.IsProper R) :
    d.made owner = .ok () := by
  cases d with
  | root block => exact ensureShown_eq_ok howner ""
  | field name getter block =>
    obtain ⟨⟨n, rfl⟩, -⟩ := h
    rw [made, ensureReadable_of_text, ensureShown_eq_ok howner]
    rfl
  | fieldItems name getter block =>
    obtain ⟨⟨n, rfl⟩, -⟩ := h
    rw [made, ensureReadable_of_text]
    exact ensureShown_eq_ok howner (n ++ "[]")

end Declaration

namespace Step

variable {t : Step}

theorem IsProper.result_made (h : t.IsProper R) : t.made.result = .ok () := by
  cases t with
  | rule message p code group =>
    obtain ⟨⟨m, hm, rfl⟩, q, rfl, -⟩ := h
    exact ensureWorded_eq_ok.mpr (by simpa [Data.isTrue] using hm)
  | attach source p =>
    obtain ⟨⟨r, hr, -⟩, rfl⟩ := h
    exact Traced.result_bind_eq_ok.mpr ⟨some r, hr, rfl⟩
  | field name getter block =>
    obtain ⟨⟨n, rfl⟩, -⟩ := h
    exact ensureReadable_of_text n getter
  | fieldItems name getter block =>
    obtain ⟨⟨n, rfl⟩, -⟩ := h
    exact ensureReadable_of_text n getter
  | dependent links =>
    exact Traced.except_forM_eq_ok.mpr fun l hl => ensureWorded_eq_ok.mpr (h l hl).1
  | use name ds =>
    exact Traced.except_forM_eq_ok.mpr fun d hd => Declaration.made_eq_ok h.1 (h.2 d hd)
  | _ => rfl

theorem IsProper.completes (h : t.IsProper R) : (Visit.declare t.made).Completes :=
  ⟨[], Traced.result_bind_eq_ok.mpr ⟨(), h.result_made, rfl⟩⟩

theorem IsProper.ends (h : t.IsProper R) : ∀ source p r, t = .attach source p →
    source.result = .ok (some r) → r.Ends (Issue.StandsAt fun _ => True) R := by
  rintro source p r rfl hr
  obtain ⟨⟨s, hs, hassembled⟩, -⟩ := h
  obtain rfl := Option.some.inj (Except.ok.inj (hr.symm.trans hs))
  exact hassembled.ends trivial

end Step

theorem Data.failsOnly_field_blamed (n : String) (owner : Data) :
    FailsOnly (field (.text n) owner) (Fault.Blamed R) := by
  have hattribute : FailsOnly (owner.readAttribute n) (Fault.Blamed R) := by
    unfold readAttribute
    split
    · exact .ok _
    · unfold lacking
      split
      · exact .error (.kindWithout _ _)
      · exact .error (.noAttribute _ _)
  cases owner with
  | mapping es => exact .ok _
  | view es => exact .ok _
  | _ => exact hattribute

theorem ReadsProperly.failsOnly {name : Data} {getter : Option Getter}
    (h : ReadsProperly R name getter) (owner : Data) :
    FailsOnly (Step.readField name getter owner).result (Fault.Blamed R) := by
  obtain ⟨⟨n, rfl⟩, hgetter⟩ := h
  cases getter with
  | none => exact Data.failsOnly_field_blamed n owner
  | some g => exact (hgetter g rfl owner).mono fun _ => .raised

theorem Site.failsOnly_firstRefusal {path : Path} {v : Data} {links : List Link}
    (h : ∀ l ∈ links, ∀ v, FailsOnly (l.predicate v).result R) :
    FailsOnly (firstRefusal path v links).result R := by
  induction links with
  | nil => exact .ok _
  | cons l rest ih =>
    obtain ⟨hl, hrest⟩ := List.forall_mem_cons.mp h
    refine FailsOnly.result_bind (hl v) fun b _ => ?_
    cases b with
    | true => exact ih hrest
    | false => exact .ok _

theorem Step.IsProper.failsOnly_sites {t : Step} (h : t.IsProper R) {path : Path} {g v : Data} :
    ∀ s ∈ t.sites path g v, FailsOnly s.findings.result R := by
  intro s hs
  cases t with
  | rule message p code group =>
    obtain ⟨⟨m, -, rfl⟩, q, rfl, hq⟩ := h
    obtain rfl := List.mem_singleton.mp hs
    refine FailsOnly.result_bind (hq v) fun b _ => ?_
    cases b <;> exact .ok _
  | attach source p =>
    obtain ⟨⟨r, hr, hassembled⟩, -⟩ := h
    rw [sites, hr] at hs
    obtain rfl := List.mem_singleton.mp hs
    exact FailsOnly.result_bind ((hassembled.ends trivial).faults v) fun _ _ => .ok _
  | dependent links =>
    unfold sites at hs
    dsimp only at hs
    split at hs
    · cases hs
    · obtain rfl := List.mem_singleton.mp hs
      exact Site.failsOnly_firstRefusal fun l hl => (h l hl).2
  | _ => cases hs

/-- The visit finds issues with messages, and ends with a fault that is blamed on what was handed
in, or on what was read or listed. -/
structure Visit.EndsProperly (R : Fault → Prop) (x : Visit) : Prop where
  worded : x.Only Issue.IsWorded
  blamed : FailsOnly x.run.result (Fault.Blamed R)

/-- The computation ends with issues that have messages, or with a fault that is blamed on what was
handed in, or on what was read or listed. No constructor has refused by itself. -/
structure Run.EndsProperly {α : Type} (R : Fault → Prop) (issues : α → List Issue) (m : Run α) :
    Prop where
  worded (x : α) : m.result = .ok x → ∀ i ∈ issues x, i.IsWorded
  blamed {f : Fault} : m.result = .error f → f.Blamed R
  unrefused {f : Fault} : m.result = .error f → f.IsGuard → R f

/-- Visits that end properly make up a computation that does. -/
theorem endsProperly_of_runAll {xs : List Visit} (h : ∀ x ∈ xs, x.EndsProperly R) {α : Type}
    {issues : α → List Issue} {f : List Issue → α} (hf : ∀ is, issues (f is) = is) :
    Run.EndsProperly R issues (do pure (f (← runAll xs))) := by
  have hblamed : FailsOnly (runAll xs >>= fun is => pure (f is)).result (Fault.Blamed R) := by
    refine FailsOnly.result_bind ?_ fun _ _ => .ok _
    induction xs with
    | nil => exact .ok _
    | cons x rest ih =>
      obtain ⟨hx, hrest⟩ := List.forall_mem_cons.mp h
      rw [runAll_cons]
      exact FailsOnly.result_bind hx.blamed fun _ _ =>
        FailsOnly.result_bind (ih hrest) fun _ _ => .ok _
  refine ⟨fun x hx => ?_, fun hg => hblamed _ hg, fun hg => (hblamed _ hg).of_isGuard⟩
  obtain ⟨is, his, rfl⟩ := Traced.result_bind_pure_eq_ok.mp hx
  rw [hf]
  exact only_runAll (fun x hx => (h x hx).worded) his

theorem endsProperly_read {owner : Option Data} {found : Run Data}
    (h : FailsOnly found.result (Fault.Blamed R)) : (Visit.read owner found).EndsProperly R :=
  ⟨only_read owner found, FailsOnly.result_bind h fun _ _ => .ok _⟩

theorem invariant_endsProperly :
    Visit.Invariant (fun _ => True) (Visit.EndsProperly R) (fun _ => True) where
  root := trivial
  index _ _ _ _ := trivial
  list owner :=
    ⟨only_list owner, FailsOnly.result_bind (Data.failsOnly_items .notIterable owner)
      fun _ _ => .ok _⟩
  under {path x} _ h := by
    refine ⟨h.worded.under fun _ hi => hi, ?_⟩
    rw [run_under]
    exact FailsOnly.result_bind h.blamed fun _ _ => .ok _
  assumed := id

theorem Declaration.IsProper.reads {d : Declaration} {name : Data} {getter : Option Getter}
    (h : d.IsProper R) (hfield : d.field? = some (name, getter)) : ReadsProperly R name getter := by
  cases d <;> cases hfield <;> exact h

theorem Declaration.IsProper.keeps {d : Declaration} (h : d.IsProper R) :
    d.Keeps (Visit.EndsProperly R) (fun _ => True) where
  read hfield owner := endsProperly_read ((h.reads hfield).failsOnly owner)
  path _ _ := trivial

namespace Step

variable {t : Step} {block : List Step}

theorem IsProper.reads {name : Data} {getter : Option Getter} (h : t.IsProper R)
    (hfield : t.field? = some (name, getter)) : ReadsProperly R name getter := by
  cases t <;> cases hfield <;> exact h

theorem IsProper.keeps (h : t.IsProper R) (g : Data) :
    t.Keeps (fun _ => True) (Visit.EndsProperly R) (fun _ => True) g where
  declare := by
    refine ⟨only_declare t.made, FailsOnly.result_bind ?_ fun _ _ => .ok _⟩
    rw [h.result_made]
    exact .ok _
  check _ _ hs := by
    refine ⟨fun is his i hi => ?_, (h.failsOnly_sites _ hs).mono fun _ => .raised⟩
    exact (standsAt_sites h.ends trivial h.completes _ hs is his i hi).2
  read hfield owner := endsProperly_read ((h.reads hfield).failsOnly owner)
  child _ _ := trivial
  use ht d hd := by
    subst ht
    exact (h.2 d hd).keeps

def AllProper (R : Fault → Prop) (block : List Step) : Prop := ∀ t, Occurs t block → t.IsProper R

namespace AllProper

variable {rest : List Step}

theorem mono (h : AllProper R block) (hsub : rest ⊆ block) : AllProper R rest :=
  fun t ht => h t (ht.mono hsub)

theorem head (h : AllProper R (t :: rest)) : t.IsProper R := h t (.here List.mem_cons_self)

theorem inside (h : AllProper R (t :: rest)) : AllProper R t.block :=
  fun u hu => h u (.inside List.mem_cons_self hu)

theorem used {name : Data} {ds : List Declaration} (h : AllProper R (.use name ds :: rest)) :
    ∀ d ∈ ds, AllProper R d.block := fun _ hd u hu => h u (.used List.mem_cons_self hd hu)

theorem keepAll (h : AllProper R block) (label : Data) :
    KeepAll (fun _ => True) (Visit.EndsProperly R) (fun _ => True) label block := by
  intro t g ht
  rcases ht.occurs with hu | ⟨message, p, code, tag, rfl, hu⟩
  · exact (h t hu).keeps g
  · have hproper : (Step.ruleIfPresent message p code tag).IsProper R := h _ hu
    exact IsProper.keeps (t := .rule message p code tag) hproper g

theorem check (h : AllProper R block) (path : Path) (label v : Data) :
    Run.EndsProperly R Validated.issues (Scope.check (applyAll block) path label v) := by
  rw [Scope.check_eq_runAll]
  refine endsProperly_of_runAll ?_ (Validated.issues_check _)
  exact (h.keepAll label).around trivial
    (forall_innerAll invariant_endsProperly block (h.keepAll label) trivial) fun _ _ => trivial

/-- So does its evaluation, when the value is read properly. -/
theorem evaluation (h : AllProper R block) (path : Path) (label : Data) {read : Run Data}
    (hread : FailsOnly read.result R) :
    Run.EndsProperly R Validated.issues (Step.evaluation block path label read) := by
  rw [evaluation_eq_runAll]
  refine endsProperly_of_runAll ?_ (Validated.issues_check _)
  exact forall_visitsRead invariant_endsProperly (h.keepAll label) trivial
    (endsProperly_read (hread.mono fun _ => .raised)) fun _ _ => trivial

end AllProper

end Step

def Declaration.AllProper (R : Fault → Prop) (ds : List Declaration) : Prop :=
  ∀ d ∈ ds, d.IsProper R ∧ Step.AllProper R d.block

theorem Declaration.AllProper.exists_built {name : Data} {ds : List Declaration}
    (h : AllProper R ds) (hname : name.isSpellable) :
    ∃ w, (Validator.ofDeclarations name ds).result = .ok w :=
  Validator.exists_built
    (Traced.except_forM_eq_ok.mpr fun d hd => made_eq_ok hname (h d hd).1)

/-- A validator with proper declarations ends properly. -/
theorem Declaration.AllProper.validate {name : Data} {ds : List Declaration} {w : Validator}
    (h : AllProper R ds) (hbuilt : (Validator.ofDeclarations name ds).result = .ok w) (v : Data) :
    Run.EndsProperly R Verdict.issues (w.validate v) := by
  rw [Validator.validate_eq, Validator.issues_eq_runAll hbuilt]
  refine endsProperly_of_runAll ?_ (Verdict.issues_of v)
  exact forall_visitsAll invariant_endsProperly ds (fun d hd => (h d hd).1.keeps)
    (fun d hd => (h d hd).2.keepAll .null) fun _ _ => trivial

end Assay
