import Assay.Proofs.Evaluation
import Assay.Proofs.Occurrence

/-! # Addressing

Steps put the path of a scope together apart from the value that they read. In
a program that reads by names and positions alone the two agree: the path of an
issue, followed from the validated value, ends at a value that a declared rule
has refused with the message and the code of the issue.
-/

namespace Assay

open Visit

namespace Data

/-- The value under a name of a mapping, which is null when it is absent, or at a position of a
list. -/
def enter (v : Data) (s : Segment) : Option Data :=
  match v, s with
  | mapping es, .name n | view es, .name n => some ((lookup? n es).getD null)
  | list vs, .index i => vs[i]?
  | _, _ => none

/-- The value that a path leads to. -/
def follow (v : Data) (p : Path) : Option Data := p.segments.foldlM enter v

theorem follow_join {v w : Data} {p : Path} (h : v.follow p = some w) (q : Path) :
    v.follow (p.join q) = w.follow q := by
  unfold follow at h ⊢
  rw [Path.join, List.foldlM_append, h]
  rfl

theorem follow_child {v w : Data} {p : Path} (h : v.follow p = some w) (label : Data) :
    v.follow (p.child label) = w.enter (.name label) := by
  rw [Path.child_eq_join, follow_join h]
  exact bind_pure _

theorem follow_index {v w : Data} {p : Path} (h : v.follow p = some w) (i : Nat) :
    v.follow (p.index i) = w.enter (.index i) := by
  rw [Path.index_eq_join, follow_join h]
  exact bind_pure _

def isMapping : Data → Bool
  | mapping _ | view _ => true
  | _ => false

def isList : Data → Bool
  | list _ => true
  | _ => false

theorem field_of_isMapping {v : Data} (h : v.isMapping) (n : String) :
    ∃ w, field (text n) v = .ok w ∧ v.enter (.name (text n)) = some w := by
  cases v with
  | mapping es => exact ⟨_, rfl, rfl⟩
  | view es => exact ⟨_, rfl, rfl⟩
  | _ => cases h

theorem eq_list_of_isList {v : Data} (h : v.isList) : ∃ vs, v = list vs := by
  cases v with
  | list vs => exact ⟨vs, rfl⟩
  | _ => cases h

end Data

namespace Declaration

/-- Read by a text, without a getter. -/
def IsOrdinary : Declaration → Prop
  | .root _ => True
  | .field name getter _ | .fieldItems name getter _ => (∃ n, name = .text n) ∧ getter = none

end Declaration

namespace Step

/-- Read by a text, without a getter, and from elsewhere only rules made from a predicate. -/
def IsOrdinary : Step → Prop
  | .field name getter _ | .fieldItems name getter _ => (∃ n, name = .text n) ∧ getter = none
  | .attach source _ => ∃ r message p code tag,
    source.result = .ok (some r) ∧ Rule.make message p code tag = .ok r
  | .use _ ds => ∀ d ∈ ds, d.IsOrdinary
  | _ => True

/-- The rules that a step declares, each with its message, its predicate and its code. -/
inductive Declares : Step → Link → Prop
  | rule {message : Data} : message.isText → ∀ (p : Predicate) (code tag : Data),
    Declares (.rule message (some p) code tag) ⟨message, p, code⟩
  | ruleIfPresent {message : Data} : message.isText → ∀ (p : Predicate) (code tag : Data),
    Declares (.ruleIfPresent message (some p) code tag) ⟨message, p, code⟩
  | link {links : List Link} {l : Link} : l ∈ links → Declares (.dependent links) l
  | made {source : Run (Option Rule)} {f : Option Predicate} {r : Rule} {message code tag : Data}
    {p : Predicate} : source.result = .ok (some r) → Rule.make message p code tag = .ok r →
    Declares (.attach source f) ⟨message, p, code⟩

/-- The steps of the block, at any depth, are ordinary and declare rules of the collection. -/
def Ordinary (rules : Link → Prop) (block : List Step) : Prop :=
  ∀ t, Occurs t block → t.IsOrdinary ∧ ∀ l, t.Declares l → rules l

variable {rules : Link → Prop} {block rest : List Step} {t : Step}

theorem Ordinary.mono (h : Ordinary rules block) (hsub : rest ⊆ block) : Ordinary rules rest :=
  fun t ht => h t (ht.mono hsub)

theorem Ordinary.inside (h : Ordinary rules block) (ht : t ∈ block) : Ordinary rules t.block :=
  fun u hu => h u (.inside ht hu)

theorem Ordinary.used (h : Ordinary rules block) {name : Data} {ds : List Declaration}
    (ht : .use name ds ∈ block) {d : Declaration} (hd : d ∈ ds) : Ordinary rules d.block :=
  fun u hu => h u (.used ht hd hu)

end Step

namespace Visit

/-- Names are read from mappings, and items are listed of lists. -/
def fits : Visit → Bool
  | read (some owner) _ => owner.isMapping
  | list owner => owner.isList
  | read none _ | declare _ | check _ => true

/-- One of the rules refuses the value at the path of the issue, with its message and its code. -/
def Addressed (rules : Link → Prop) (whole : Data) (i : Issue) : Prop :=
  ∃ v, whole.follow i.path = some v ∧
    ∃ l, rules l ∧ l.message = i.message ∧ l.code = i.code ∧ (l.predicate v).result = .ok false

/-- Whatever the visit finds is addressed from the whole value. -/
def Sound (rules : Link → Prop) (whole : Data) (x : Visit) : Prop :=
  ∀ is, x.run.result = .ok is → ∀ i ∈ is, Addressed rules whole i

variable {rules : Link → Prop} {whole v : Data} {path : Path} {x : Visit}

theorem Sound.under (h : Sound rules v x) (hf : whole.follow path = some v) :
    Sound rules whole (x.under path) := by
  refine Only.under h ?_
  rintro j ⟨w, hw, l, hl, hm, hc, hp⟩
  exact ⟨w, (Data.follow_join hf j.path).trans hw, l, hl, hm, hc, hp⟩

theorem fits_under : (x.under path).fits = x.fits := by
  cases x <;> rfl

theorem sound_ofRead {n : String} {visits : Data → List Visit} (hf : whole.follow path = some v)
    (hfit : ∀ x ∈ ofRead (some v) (Step.readField (.text n) none v) visits, x.fits)
    (h : ∀ w, whole.follow (path.child (.text n)) = some w → (∀ x ∈ visits w, x.fits) →
      ∀ x ∈ visits w, Sound rules whole x) :
    ∀ x ∈ ofRead (some v) (Step.readField (.text n) none v) visits, Sound rules whole x := by
  intro x hx
  have hv : v.isMapping := hfit _ (mem_ofRead.mpr (.inl rfl))
  obtain ⟨w, hw, he⟩ := Data.field_of_isMapping hv n
  have hr : (Step.readField (.text n) none v).result = .ok w := by
    rw [Step.readField, hw]
    rfl
  rcases mem_ofRead.mp hx with rfl | ⟨u, hu, hx⟩
  · exact only_read _ _
  · obtain rfl : w = u := Except.ok.inj (hr.symm.trans hu)
    refine h w ?_ (fun y hy => hfit y (mem_ofRead.mpr (.inr ⟨w, hu, hy⟩))) x hx
    rw [Data.follow_child hf, he]

theorem sound_ofItems {visits : Nat → Data → List Visit} (hf : whole.follow path = some v)
    (hfit : ∀ x ∈ ofItems v visits, x.fits)
    (h : ∀ i u, whole.follow (path.index i) = some u → (∀ x ∈ visits i u, x.fits) →
      ∀ x ∈ visits i u, Sound rules whole x) :
    ∀ x ∈ ofItems v visits, Sound rules whole x := by
  intro x hx
  have hv : v.isList := hfit _ (mem_ofItems.mpr (.inl rfl))
  obtain ⟨vs, rfl⟩ := Data.eq_list_of_isList hv
  rcases mem_ofItems.mp hx with rfl | ⟨us, hus, i, u, hu, hx⟩
  · exact only_list _
  · cases hus
    refine h i u ?_ (fun y hy => hfit y (mem_ofItems.mpr (.inr ⟨vs, rfl, i, u, hu, hy⟩))) x hx
    rw [Data.follow_index hf]
    exact hu

end Visit

namespace Site

variable {rules : Link → Prop} {whole v : Data} {path : Path}

theorem sound_ofPredicate (hf : whole.follow path = some v) {message code : Data} {p : Predicate}
    (hl : rules ⟨message, p, code⟩) (label tag : Data) :
    (Visit.check (ofPredicate path label v message code tag p)).Sound rules whole := by
  intro is his i hi
  obtain ⟨hp, rfl⟩ := of_mem_ofPredicate his hi
  exact ⟨v, hf, _, hl, rfl, rfl, hp⟩

theorem sound_uncallable (label : Data) (kind : String) :
    (Visit.check (ofRule path label v (.uncallable kind))).Sound rules whole := by
  intro is his
  cases his

theorem sound_made (hf : whole.follow path = some v) {message code tag : Data} {p : Predicate}
    {r : Rule} (hr : Rule.make message p code tag = .ok r) (hl : rules ⟨message, p, code⟩)
    (label : Data) : (Visit.check (ofRule path label v r)).Sound rules whole := by
  obtain rfl := Rule.eq_ofIssue_of_make hr
  intro is his i hi
  obtain ⟨x, hx, j, hj, rfl⟩ := of_mem_ofRule his hi
  obtain ⟨hp, rfl⟩ := Rule.of_mem_ofIssue hx hj
  exact ⟨v, hf, _, hl, rfl, rfl, hp⟩

theorem sound_ofLinks (hf : whole.follow path = some v) {links : List Link}
    (hl : ∀ l ∈ links, rules l) : (Visit.check (ofLinks path v links)).Sound rules whole := by
  intro is his i hi
  obtain ⟨l, hmem, hp, rfl⟩ := of_mem_ofLinks his hi
  exact ⟨v, hf, l, hl l hmem, rfl, rfl, hp⟩

end Site

namespace Step

variable {rules : Link → Prop} {whole v : Data} {path : Path} {block : List Step} {t : Step}

theorem sound_sites (ht : t.IsOrdinary) (hl : ∀ l, t.Declares l → rules l)
    (hf : whole.follow path = some v) (label : Data) :
    ∀ s ∈ t.sites path label v, (Visit.check s).Sound rules whole := by
  intro s hs
  cases sited_of_mem hs with
  | rule p code tag htext => exact Site.sound_ofPredicate hf (hl _ (.rule htext ..)) label _
  | uncallable => exact Site.sound_uncallable label _
  | attached p hr =>
    obtain ⟨r, message, p, code, tag, hr', hm⟩ := ht
    cases hr.symm.trans hr'
    exact Site.sound_made hf hm (hl _ (.made hr' hm)) label
  | links links => exact Site.sound_ofLinks hf fun l h => hl l (.link h)

theorem ordinary_rule {message code tag : Data} {p : Option Predicate}
    (h : ∀ l, (ruleIfPresent message p code tag).Declares l → rules l) :
    Ordinary rules [.rule message p code tag] := by
  intro u hu
  rcases occurs_cons.mp hu with rfl | hu | ⟨_, _, _, hu, -⟩ | hu
  · refine ⟨trivial, fun l hl => h l ?_⟩
    cases hl with
    | rule htext => exact .ruleIfPresent htext ..
  · cases not_occurs_nil hu
  · cases hu
  · cases not_occurs_nil hu

/-- The visits of an ordinary block are sound as soon as the inner ones are. -/
theorem sound_around (h : Ordinary rules block) (hf : whole.follow path = some v) (label : Data)
    {inner : List Visit} (hinner : ∀ x ∈ inner, x.Sound rules whole) :
    ∀ x ∈ around block path label v inner, x.Sound rules whole := by
  intro x hx
  rcases List.mem_append.mp hx with hx | hx
  · obtain ⟨t, -, rfl⟩ := List.mem_map.mp hx
    exact only_declare t.made
  rcases List.mem_append.mp hx with hx | hx
  · obtain ⟨s, hs, rfl⟩ := List.mem_map.mp hx
    obtain ⟨t, ht, hs⟩ := List.mem_flatMap.mp hs
    obtain ⟨ho, hl⟩ := h t (.here ht)
    exact sound_sites ho hl hf label s hs
  · exact hinner x hx

theorem fits_inner {inner : List Visit} {label : Data}
    (h : ∀ x ∈ around block path label v inner, x.fits) : ∀ x ∈ inner, x.fits :=
  fun x hx => h x (List.mem_append_right _ (List.mem_append_right _ hx))

end Step

mutual

theorem Step.sound_inner {rules : Link → Prop} {whole v : Data} {path : Path} (t : Step)
    (h : Step.Ordinary rules [t]) (hf : whole.follow path = some v) (label : Data)
    (hfit : ∀ x ∈ t.inner path label v, x.fits) :
    ∀ x ∈ t.inner path label v, x.Sound rules whole := by
  have ht : t ∈ [t] := List.mem_singleton_self t
  obtain ⟨ho, hl⟩ := h t (.here ht)
  have hsub := h.inside ht
  cases t with
  | field name getter block =>
    obtain ⟨⟨n, rfl⟩, rfl⟩ := ho
    refine sound_ofRead hf hfit fun w hw hfit => ?_
    exact Step.sound_around hsub hw .null
      (Step.sound_innerAll block hsub hw .null (Step.fits_inner hfit))
  | fieldItems name getter block =>
    obtain ⟨⟨n, rfl⟩, rfl⟩ := ho
    refine sound_ofRead hf hfit fun w hw hfit => sound_ofItems hw hfit fun i u hu hfit => ?_
    exact Step.sound_around hsub hu .null
      (Step.sound_innerAll block hsub hu .null (Step.fits_inner hfit))
  | items block =>
    unfold Step.inner at hfit ⊢
    refine sound_ofItems hf hfit fun i u hu hfit => ?_
    exact Step.sound_around hsub hu .null
      (Step.sound_innerAll block hsub hu .null (Step.fits_inner hfit))
  | unlessNull block =>
    unfold Step.inner at hfit ⊢
    split at hfit
    · next hv => simp [hv]
    · next hv =>
      rw [if_neg hv]
      exact Step.sound_around hsub hf label
        (Step.sound_innerAll block hsub hf label (Step.fits_inner hfit))
  | group tag block =>
    exact Step.sound_around hsub hf tag
      (Step.sound_innerAll block hsub hf tag (Step.fits_inner hfit))
  | ruleIfPresent message p code tag =>
    unfold Step.inner
    split
    · simp
    · exact Step.sound_around (Step.ordinary_rule hl) hf label fun x hx => nomatch hx
  | use name ds =>
    -- a validator starts again at the empty path, for which the whole is the current value
    have hds := Declaration.sound_visitsAll ds ho (fun d hd => h.used ht hd) v fun x hx =>
      fits_under ▸ (hfit _ (List.mem_map_of_mem hx))
    intro x hx
    obtain ⟨y, hy, rfl⟩ := List.mem_map.mp hx
    exact (hds y hy).under hf
  | rule message p code tag => exact fun x hx => nomatch hx
  | attach source p => exact fun x hx => nomatch hx
  | dependent links => exact fun x hx => nomatch hx
termination_by structural t

theorem Step.sound_innerAll {rules : Link → Prop} {whole v : Data} {path : Path}
    (block : List Step) (h : Step.Ordinary rules block) (hf : whole.follow path = some v)
    (label : Data) (hfit : ∀ x ∈ Step.innerAll block path label v, x.fits) :
    ∀ x ∈ Step.innerAll block path label v, x.Sound rules whole := by
  cases block with
  | nil => exact fun x hx => nomatch hx
  | cons t rest =>
    obtain ⟨ht, hrest⟩ := List.forall_mem_append.mp hfit
    refine List.forall_mem_append.mpr ⟨?_, ?_⟩
    · exact Step.sound_inner t (h.mono (List.cons_subset_cons t (List.nil_subset rest))) hf label ht
    · exact Step.sound_innerAll rest (h.mono (List.subset_cons_self t rest)) hf label hrest
termination_by structural block

theorem Declaration.sound_visits {rules : Link → Prop} (d : Declaration) (hd : d.IsOrdinary)
    (h : Step.Ordinary rules d.block) (v : Data) (hfit : ∀ x ∈ d.visits v, x.fits) :
    ∀ x ∈ d.visits v, x.Sound rules v := by
  have hv : v.follow ∅ = some v := rfl
  cases d with
  | root block =>
    exact Step.sound_around h hv .null
      (Step.sound_innerAll block h hv .null (Step.fits_inner hfit))
  | field name getter block =>
    obtain ⟨⟨n, rfl⟩, rfl⟩ := hd
    refine sound_ofRead hv hfit fun w hw hfit => ?_
    exact Step.sound_around h hw .null
      (Step.sound_innerAll block h hw .null (Step.fits_inner hfit))
  | fieldItems name getter block =>
    obtain ⟨⟨n, rfl⟩, rfl⟩ := hd
    refine sound_ofRead hv hfit fun w hw hfit => sound_ofItems hw hfit fun i u hu hfit => ?_
    exact Step.sound_around h hu .null
      (Step.sound_innerAll block h hu .null (Step.fits_inner hfit))
termination_by structural d

theorem Declaration.sound_visitsAll {rules : Link → Prop} (ds : List Declaration)
    (hds : ∀ d ∈ ds, d.IsOrdinary) (h : ∀ d ∈ ds, Step.Ordinary rules d.block) (v : Data)
    (hfit : ∀ x ∈ Declaration.visitsAll ds v, x.fits) :
    ∀ x ∈ Declaration.visitsAll ds v, x.Sound rules v := by
  cases ds with
  | nil => exact fun x hx => nomatch hx
  | cons d rest =>
    obtain ⟨hd, hrest⟩ := List.forall_mem_cons.mp hds
    obtain ⟨hb, hbrest⟩ := List.forall_mem_cons.mp h
    obtain ⟨hfd, hfrest⟩ := List.forall_mem_append.mp hfit
    refine List.forall_mem_append.mpr ⟨?_, ?_⟩
    · exact Declaration.sound_visits d hd hb v hfd
    · exact Declaration.sound_visitsAll rest hrest hbrest v hfrest
termination_by structural ds

end

namespace Validator

/-- The rules that the declarations bring, at any depth. -/
def Declares (ds : List Declaration) (l : Link) : Prop :=
  ∃ d ∈ ds, ∃ t, Step.Occurs t d.block ∧ t.Declares l

structure Ordinary (ds : List Declaration) : Prop where
  declarations : ∀ d ∈ ds, d.IsOrdinary
  steps : ∀ d ∈ ds, ∀ t, Step.Occurs t d.block → t.IsOrdinary

/-- The path of every issue leads from the validated value to one that a declared rule with its
message and its code refuses. -/
theorem issues_addressed {name target : Data} {ds : List Declaration} {w : Validator}
    {verdict : Verdict Data} (hbuilt : (ofDeclarations name ds).result = .ok w)
    (hds : Ordinary ds) (hfit : ∀ x ∈ Declaration.visitsAll ds target, x.fits)
    (hrun : (w.validate target).result = .ok verdict) :
    ∀ i ∈ verdict.issues, ∃ v, target.follow i.path = some v ∧
      ∃ l, Declares ds l ∧ l.message = i.message ∧ l.code = i.code ∧
        (l.predicate v).result = .ok false := by
  have hblocks : ∀ d ∈ ds, Step.Ordinary (Declares ds) d.block := fun d hd t ht =>
    ⟨hds.steps d hd t ht, fun l hl => ⟨d, hd, t, ht, hl⟩⟩
  have hsound := Declaration.sound_visitsAll ds hds.declarations hblocks target hfit
  obtain ⟨is, his, hv⟩ := Traced.result_bind_eq_ok.mp hrun
  cases hv
  rw [issues_eq_runAll hbuilt] at his
  obtain ⟨hc, rfl⟩ := runAll_eq_ok.mp his
  intro i hi
  rw [Verdict.issues_of] at hi
  obtain ⟨x, hx, hi⟩ := List.mem_flatMap.mp hi
  exact hsound x hx x.issues (hc x hx).result_eq i hi

def sampleRows : List Declaration :=
  [.fieldItems (.text "rows") none [.field (.text "name") none
    [.rule (.text "required") (some fun v => pure v.isTrue) (.text "missing") .null]]]

def sampleTable : Data :=
  .mapping [(.text "rows", .list [.mapping [(.text "name", .text "a")], .mapping []])]

def sampleIssue : Issue where
  path := ⟨[.name (.text "rows"), .index 1, .name (.text "name")]⟩
  message := .text "required"
  code := .text "missing"
  group := .null

theorem ordinary_sampleRows : Ordinary sampleRows where
  declarations := by simp [sampleRows, Declaration.IsOrdinary]
  steps := by
    intro d hd t ht
    obtain rfl := List.mem_singleton.mp hd
    simp [Declaration.block, Step.occurs_cons, Step.block] at ht
    rcases ht with rfl | rfl
    · exact ⟨⟨_, rfl⟩, rfl⟩
    · trivial

theorem fits_sampleRows : ∀ x ∈ Declaration.visitsAll sampleRows sampleTable, x.fits := by
  decide

theorem issue_of_sampleTable_addressed :
    ∃ v, sampleTable.follow sampleIssue.path = some v ∧
      ∃ l, Declares sampleRows l ∧ l.message = sampleIssue.message ∧ l.code = sampleIssue.code ∧
        (l.predicate v).result = .ok false := by
  obtain ⟨w, hbuilt, hrun⟩ : ∃ w, (ofDeclarations (.text "Table") sampleRows).result = .ok w ∧
      (w.validate sampleTable).result = .ok (.rejected [sampleIssue] (List.cons_ne_nil _ _)) :=
    ⟨_, rfl, rfl⟩
  exact issues_addressed hbuilt ordinary_sampleRows fits_sampleRows hrun sampleIssue
    (List.mem_singleton_self sampleIssue)

end Validator

end Assay
