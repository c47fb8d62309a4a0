import Assay.Proofs.Assembly
import Assay.Proofs.Labels.Governing
import Assay.Proofs.Path.Rendering

/-! # Verdicts in transport

A verdict is sent as a plain mapping, and its issues are made again from what
was sent. Where the names of fields and the paths of rules are written as paths
are, every path that a program reports can be read from its text, so that the
issues come back as they were.
-/

namespace Assay

open Visit

/-- The path can be written and is read back from its text. -/
def Path.IsReadable (p : Path) : Prop := p.IsProper ∧ p.IsClean

def Path.IsParsed (p : Path) : Prop := ∃ t, Path.ofText t = .ok p

/-- A text that is neither empty nor holds a dot or a bracket. -/
def Data.IsFieldName (name : Data) : Prop := (Path.ofName name).IsReadable

theorem Data.isFieldName_text {n : String} (hne : n ≠ "")
    (hclean : ∀ c ∈ n.toList, c ≠ '.' ∧ c ≠ '[' ∧ c ≠ ']') : (text n).IsFieldName := by
  refine ⟨?_, ?_⟩ <;> intro s hs <;> obtain rfl := List.mem_singleton.mp hs
  · trivial
  · exact ⟨hne, hclean⟩

namespace Path

variable {p q : Path}

theorem IsParsed.isReadable (h : p.IsParsed) : p.IsReadable := by
  obtain ⟨t, ht⟩ := h
  exact isProper_and_isClean_of_ofText ht

theorem isReadable_empty : (∅ : Path).IsReadable := ⟨nofun, nofun⟩

theorem isParsed_empty : (∅ : Path).IsParsed := by
  obtain ⟨s, -, hs⟩ := ofText_text isReadable_empty.1 isReadable_empty.2
  exact ⟨s, hs⟩

theorem IsReadable.join (hp : p.IsReadable) (hq : q.IsReadable) : (p.join q).IsReadable :=
  ⟨List.forall_mem_append.mpr ⟨hp.1, hq.1⟩, List.forall_mem_append.mpr ⟨hp.2, hq.2⟩⟩

theorem IsReadable.child {name : Data} (hp : p.IsReadable) (hname : name.IsFieldName) :
    (p.child name).IsReadable := hp.join hname

theorem IsReadable.index {i : Nat} (hp : p.IsReadable) (hi : i < 10 ^ Text.digitLimit) :
    (p.index i).IsReadable := by
  refine hp.join ⟨?_, ?_⟩
  · exact fun s hs => by obtain rfl := List.mem_singleton.mp hs; exact hi
  · exact fun s hs => by obtain rfl := List.mem_singleton.mp hs; trivial

theorem fieldPath_of_isFieldName {name : Data} (h : name.IsFieldName) :
    Validator.fieldPath name = .ok (ofName name) := by
  have hproper : (Segment.name name).IsProper := h.1 _ (List.mem_singleton_self _)
  unfold Segment.IsProper at hproper
  split at hproper
  · next n heq => cases heq; rfl
  · next heq => cases heq
  · exact hproper.elim

end Path

theorem Data.eq_null_of_isNull {v : Data} (h : v.isNull) : v = .null := by
  cases v with
  | null => rfl
  | _ => cases h

/-- What is left out of the record of an issue is null again when the record is read. -/
theorem Issue.ofData_toData {i : Issue} (hpath : i.path.IsReadable) (hworded : i.IsWorded) :
    ∃ d, i.toData = .ok d ∧ Issue.ofData d = .ok i := by
  obtain ⟨path, message, code, group⟩ := i
  obtain ⟨s, hs, hread⟩ := Path.codes_ofText hpath.1 hpath.2
  have hmake : Issue.make path message code group = .ok ⟨path, message, code, group⟩ :=
    if_pos hworded
  have hrecord : ∀ es, Data.lookup? (.text "path") es = some (.text s) →
      Data.lookup? (.text "message") es = some message →
      (Data.lookup? (.text "code") es).getD .null = code →
      (Data.lookup? (.text "group") es).getD .null = group →
      Issue.ofData (.mapping es) = .ok ⟨path, message, code, group⟩ := by
    intro es hp hm hc hg
    simp only [Issue.ofData, hp, hm, hc, hg, Option.getD_some]
    change (Path.ofText s >>= _) = _
    rw [hread]
    exact hmake
  have hes : Issue.toData ⟨path, message, code, group⟩ =
      .ok (.mapping ([(.text "path", .text s), (.text "message", message)] ++
        (if code.isNull then [] else [(.text "code", code)]) ++
        (if group.isNull then [] else [(.text "group", group)]))) := by
    rw [Issue.toData, hs, ← Data.ofCodes_toNat s]
    rfl
  refine ⟨_, hes, hrecord _ rfl rfl ?_ ?_⟩
  · cases hc : code.isNull with
    | false => cases group.isNull <;> rfl
    | true => rw [Data.eq_null_of_isNull hc]; cases group.isNull <;> rfl
  · cases hg : group.isNull with
    | false => cases code.isNull <;> rfl
    | true => rw [Data.eq_null_of_isNull hg]; cases code.isNull <;> rfl

/-- A verdict on issues that are read back is sent and received as it is. -/
theorem Verdict.transport {α : Type} (x : Verdict α)
    (h : ∀ i ∈ x.issues, i.StandsAt Path.IsReadable) : ∃ b es,
      x.toData = .ok (.mapping [(.text "valid", .bool b), (.text "errors", .list es)]) ∧
      (b = true ↔ es = []) ∧ es.mapM Issue.ofData = .ok x.issues := by
  have hall : ∀ is : List Issue, (∀ i ∈ is, i.StandsAt Path.IsReadable) →
      ∃ es, is.mapM Issue.toData = .ok es ∧ es.length = is.length ∧
        es.mapM Issue.ofData = .ok is := by
    intro is his
    induction is with
    | nil => exact ⟨[], rfl, rfl, rfl⟩
    | cons i rest ih =>
      obtain ⟨hi, hrest⟩ := List.forall_mem_cons.mp his
      obtain ⟨d, hd, hback⟩ := Issue.ofData_toData hi.1 hi.2
      obtain ⟨es, hes, hlength, hrestored⟩ := ih hrest
      refine ⟨d :: es, ?_, congrArg (· + 1) hlength, ?_⟩
      · rw [List.mapM_cons, hd, hes]
        rfl
      · rw [List.mapM_cons, hback, hrestored]
        rfl
  obtain ⟨es, hes, hlength, hback⟩ := hall x.issues h
  have hempty : es = [] ↔ x.issues = [] := by
    rw [← List.length_eq_zero_iff, hlength, List.length_eq_zero_iff]
  refine ⟨x.isAccepted, es, by rw [toData, hes]; rfl, ?_, hback⟩
  rw [hempty]
  cases x with
  | accepted a => exact iff_of_true rfl rfl
  | rejected is hne => exact iff_of_false Bool.false_ne_true hne

/-- The declaration names its field as paths are written. -/
def Declaration.IsParseable : Declaration → Prop
  | .root _ => True
  | .field name _ _ | .fieldItems name _ _ => name.IsFieldName

/-- The step names its field as paths are written, or attaches a rule whose paths have been read
from texts, or uses a validator whose declarations name their fields so. -/
def Step.IsParseable : Step → Prop
  | .field name _ _ | .fieldItems name _ _ => name.IsFieldName
  | .attach source _ => ∀ r, source.result = .ok (some r) →
    r.Assembled (fun _ => True) Path.IsParsed
  | .use _ ds => ∀ d ∈ ds, d.IsParseable
  | _ => True

def Visit.width : Visit → Nat
  | .list owner =>
    match owner.items with
    | .ok vs => vs.length
    | .error _ => 0
  | _ => 0

/-- The visit completes, and lists no more items than there are positions that can be written. -/
def Visit.IsShort (x : Visit) : Prop := x.Completes ∧ x.width ≤ 10 ^ Text.digitLimit

theorem invariant_standsAt_isReadable :
    Visit.Invariant Visit.IsShort (Only (Issue.StandsAt Path.IsReadable)) Path.IsReadable where
  root := Path.isReadable_empty
  index hpath hshort hvs hi := by
    have hwidth := hshort.2
    simp only [Visit.width, hvs] at hwidth
    exact hpath.index (Nat.lt_of_lt_of_le hi hwidth)
  list := only_list
  under hpath h := h.under fun i hi => ⟨hpath.join hi.1, hi.2⟩
  assumed {path x} h := by
    obtain ⟨⟨is, his⟩, hwidth⟩ := h
    rw [run_under] at his
    obtain ⟨js, hjs, -⟩ := Traced.result_bind_eq_ok.mp his
    refine ⟨⟨js, hjs⟩, ?_⟩
    cases x <;> exact hwidth

namespace Declaration

variable {d : Declaration}

theorem IsParseable.isFieldName {name : Data} {getter : Option Getter} (h : d.IsParseable)
    (hfield : d.field? = some (name, getter)) : name.IsFieldName := by
  cases d <;> cases hfield <;> exact h

theorem IsParseable.keeps (h : d.IsParseable) :
    d.Keeps (Only (Issue.StandsAt Path.IsReadable)) Path.IsReadable where
  read _ _ := only_read _ _
  path hfield hp := by
    have hname := h.isFieldName hfield
    rw [Path.fieldPath_of_isFieldName hname] at hp
    cases hp
    exact hname

end Declaration

namespace Step

variable {t : Step} {label : Data} {block : List Step}

theorem IsParseable.isFieldName {name : Data} {getter : Option Getter} (h : t.IsParseable)
    (hfield : t.field? = some (name, getter)) : name.IsFieldName := by
  cases t <;> cases hfield <;> exact h

theorem IsParseable.ends (h : t.IsParseable) : ∀ source p r, t = .attach source p →
    source.result = .ok (some r) → r.Ends (Issue.StandsAt Path.IsReadable) fun _ => True := by
  rintro source p r rfl hr
  exact ((h r hr).ends Path.isParsed_empty).mono fun i hi => ⟨hi.1.isReadable, hi.2⟩

theorem IsParseable.keeps (h : t.IsParseable) (g : Data) :
    t.Keeps Visit.IsShort (Only (Issue.StandsAt Path.IsReadable)) Path.IsReadable g where
  declare := only_declare t.made
  check hpath hmade := standsAt_sites h.ends hpath hmade.1 _
  read _ _ := only_read _ _
  child hfield hpath := hpath.child (h.isFieldName hfield)
  use ht d hd := by
    subst ht
    exact (h d hd).keeps

theorem keepAll_of_isParseable (h : ∀ t, Occurs t block → t.IsParseable) :
    KeepAll Visit.IsShort (Only (Issue.StandsAt Path.IsReadable)) Path.IsReadable label block := by
  intro t g ht
  rcases ht.occurs with ht | ⟨message, p, code, tag, rfl, -⟩
  · exact (h t ht).keeps g
  · exact IsParseable.keeps (t := .rule message p code tag) trivial g

end Step

/-- What a validator finds can be sent and received. The names of its fields are written as paths
are, and so are the paths of its rules; the lists that it walks through have no positions that are
too long to be written. Then each verdict is sent as a flag and records, of which there are none
exactly when the flag is set, and its issues are made again from the records as they were. -/
theorem Validator.transport_verdict {name : Data} {ds : List Declaration} {w : Validator}
    (hbuilt : (ofDeclarations name ds).result = .ok w) (hnames : ∀ d ∈ ds, d.IsParseable)
    (hsteps : ∀ d ∈ ds, ∀ t, Step.Occurs t d.block → t.IsParseable) {target : Data}
    (hlists : ∀ y ∈ Declaration.visitsAll ds target, y.width ≤ 10 ^ Text.digitLimit)
    {x : Verdict Data} (hx : (w.validate target).result = .ok x) : ∃ b es,
      x.toData = .ok (.mapping [(.text "valid", .bool b), (.text "errors", .list es)]) ∧
      (b = true ↔ es = []) ∧ es.mapM Issue.ofData = .ok x.issues := by
  obtain ⟨is, his, rfl⟩ := result_validate_eq_ok.mp hx
  rw [issues_eq_runAll hbuilt] at his
  have hcompletes := (runAll_eq_ok.mp his).1
  have hshort : ∀ y ∈ Declaration.visitsAll ds target, y.IsShort := fun y hy =>
    ⟨hcompletes y hy, hlists y hy⟩
  have honly := Declaration.forall_visitsAll invariant_standsAt_isReadable ds
    (fun d hd => (hnames d hd).keeps)
    (fun d hd => Step.keepAll_of_isParseable (hsteps d hd)) hshort
  refine Verdict.transport _ ?_
  rw [Verdict.issues_of]
  exact only_runAll honly his

def Rule.sampleAddressed : Rule :=
  (ofIssue ⟨∅, .text "is late", .null, .text "dates"⟩ fun _ => pure false).located
    ⟨[.name (.text "due"), .index 3]⟩

theorem Rule.assembled_sampleAddressed :
    sampleAddressed.Assembled (fun _ => True) Path.IsParsed := by
  have hspells : Path.Notation.Spells "due[3]" [.name ['d', 'u', 'e'], .index ['3']] :=
    ⟨by decide, by decide⟩
  have hmade : ofPredicate ∅ (.text "is late") (fun _ => pure false) .null (.text "dates") =
      .ok (ofIssue ⟨∅, .text "is late", .null, .text "dates"⟩ fun _ => pure false) := rfl
  exact .located (.predicate Path.isParsed_empty (fun _ => .ok _) hmade) ⟨_, hspells.ofText_eq⟩

def Declaration.sampleOrders : List Declaration :=
  [.fieldItems (.text "orders") none
    [.use (.text "Order")
      [.field (.text "items") none
        [.rule (.text "is empty") (some fun v => pure v.isTrue) (.text "empty") .null],
      .root [.attach (pure (some Rule.sampleAddressed)) none]]]]

def Data.sampleOrders : Data :=
  .mapping [(.text "orders", .list [.mapping [(.text "items", .list [])]])]

theorem Validator.transport_sampleOrders : ∃ w x b es,
    (ofDeclarations (.text "Orders") Declaration.sampleOrders).result = .ok w ∧
    (w.validate Data.sampleOrders).result = .ok x ∧
    x.issues.map (fun i => (i.code, i.group)) =
      [(.text "empty", .null), (.null, .text "dates")] ∧
    x.toData = .ok (.mapping [(.text "valid", .bool b), (.text "errors", .list es)]) ∧
    (b = true ↔ es = []) ∧ es.mapM Issue.ofData = .ok x.issues := by
  obtain ⟨w, hw⟩ :
      ∃ w, (ofDeclarations (.text "Orders") Declaration.sampleOrders).result = .ok w := ⟨_, rfl⟩
  obtain ⟨x, hx, hissues⟩ : ∃ x, (w.validate Data.sampleOrders).result = .ok x ∧
      x.issues.map (fun i => (i.code, i.group)) =
        [(.text "empty", .null), (.null, .text "dates")] := by
    cases hw
    exact ⟨_, rfl, rfl⟩
  have hnames : ∀ d ∈ Declaration.sampleOrders, d.IsParseable := by
    intro d hd
    obtain rfl := List.mem_singleton.mp hd
    exact Data.isFieldName_text (by decide) (by simp)
  have hsteps : ∀ d ∈ Declaration.sampleOrders, ∀ t, Step.Occurs t d.block → t.IsParseable := by
    intro d hd t ht
    obtain rfl := List.mem_singleton.mp hd
    rcases Step.occurs_cons.mp ht with rfl | ht | ⟨name, ds, d, huse, hd, ht⟩ | ht
    · exact List.forall_mem_cons.mpr
        ⟨Data.isFieldName_text (by decide) (by simp), List.forall_mem_singleton.mpr trivial⟩
    · exact (Step.not_occurs_nil ht).elim
    · cases huse
      rcases List.mem_pair.mp hd with rfl | rfl
      · simp [Declaration.block, Step.occurs_cons, Step.block] at ht
        subst ht
        trivial
      · simp [Declaration.block, Step.occurs_cons, Step.block] at ht
        subst ht
        intro r hr
        cases hr
        exact Rule.assembled_sampleAddressed
    · exact (Step.not_occurs_nil ht).elim
  have hlists : ∀ y ∈ Declaration.visitsAll Declaration.sampleOrders Data.sampleOrders,
      y.width ≤ 10 ^ Text.digitLimit := by
    have hone : ∀ y ∈ Declaration.visitsAll Declaration.sampleOrders Data.sampleOrders,
        y.width ≤ 1 := by decide
    exact fun y hy => (hone y hy).trans (Nat.one_le_pow _ _ (by decide))
  obtain ⟨b, es, hsent, hempty, hback⟩ := transport_verdict hw hnames hsteps hlists hx
  exact ⟨w, x, b, es, hw, hx, hissues, hsent, hempty, hback⟩

end Assay
