import Assay.Proofs.Labels.Regrouping
import Assay.Proofs.Occurrence

/-! # Governing labels

The label of a block reaches the rules of the block itself and those behind a
test for null. Every other scope starts without a label, or with its own. What
each step does on a scope with the label that governs it, at the path at which
it is carried out, is thereby known for the whole traversal of a program.
-/

namespace Assay

open Visit

namespace Step

/-- The label of the scope that the step opens, in a scope with the given label. -/
def labelInside (t : Step) (label : Data) : Data :=
  match t with
  | .unlessNull _ => label
  | .group tag _ => tag
  | _ => .null

/-- In a block for a scope with the given label, the step is carried out on a scope with the label
`g`. A rule that is skipped on null is the rule on a scope behind a test for null. -/
inductive Governed (t : Step) (g : Data) : Data → List Step → Prop
  | here {block : List Step} : t ∈ block → Governed t g g block
  | ifPresent {block : List Step} {message code tag : Data} {p : Option Predicate} :
    t = .rule message p code tag → .ruleIfPresent message p code tag ∈ block → Governed t g g block
  | inside {label : Data} {block : List Step} {u : Step} :
    u ∈ block → Governed t g (u.labelInside label) u.block → Governed t g label block
  | used {label name : Data} {block : List Step} {ds : List Declaration} {d : Declaration} :
    .use name ds ∈ block → d ∈ ds → Governed t g .null d.block → Governed t g label block

theorem Governed.mono {t : Step} {g label : Data} {block rest : List Step}
    (h : Governed t g label block) (hsub : block ⊆ rest) : Governed t g label rest := by
  cases h with
  | here ht => exact .here (hsub ht)
  | ifPresent ht hu => exact .ifPresent ht (hsub hu)
  | inside hu ht => exact .inside (hsub hu) ht
  | used hu hd ht => exact .used (hsub hu) hd ht

/-- What is carried out stands in the block, or is the rule of a step that skips it on null. -/
theorem Governed.occurs {t : Step} {g label : Data} {block : List Step}
    (h : Governed t g label block) : Occurs t block ∨ ∃ message p code tag,
      t = .rule message p code tag ∧ Occurs (.ruleIfPresent message p code tag) block := by
  induction h with
  | here ht => exact .inl (.here ht)
  | ifPresent ht hu => exact .inr ⟨_, _, _, _, ht, .here hu⟩
  | inside hu _ ih =>
    rcases ih with ih | ⟨message, p, code, tag, ht, ih⟩
    · exact .inl (.inside hu ih)
    · exact .inr ⟨message, p, code, tag, ht, .inside hu ih⟩
  | used hu hd _ ih =>
    rcases ih with ih | ⟨message, p, code, tag, ht, ih⟩
    · exact .inl (.used hu hd ih)
    · exact .inr ⟨message, p, code, tag, ht, .used hu hd ih⟩

def field? : Step → Option (Data × Option Getter)
  | .field name getter _ | .fieldItems name getter _ => some (name, getter)
  | _ => none

end Step

def Declaration.field? : Declaration → Option (Data × Option Getter)
  | .root _ => none
  | .field name getter _ | .fieldItems name getter _ => some (name, getter)

/-- The properties `P` of visits and `G` of paths can be carried through a traversal all visits of
which satisfy `L`. -/
structure Visit.Invariant (L P : Visit → Prop) (G : Path → Prop) : Prop where
  root : G ∅
  index {path : Path} {owner : Data} {vs : List Data} {i : Nat} : G path → L (.list owner) →
    owner.items = .ok vs → i < vs.length → G (path.index i)
  list (owner : Data) : P (.list owner)
  under {path : Path} {x : Visit} : G path → P x → P (x.under path)
  assumed {path : Path} {x : Visit} : L (x.under path) → L x

/-- What the declaration itself reads is as `P` says, and its path is as `G` says. -/
structure Declaration.Keeps (P : Visit → Prop) (G : Path → Prop) (d : Declaration) : Prop where
  read {name : Data} {getter : Option Getter} : d.field? = some (name, getter) →
    ∀ owner, P (.read (some owner) (Step.readField name getter owner))
  path {name : Data} {getter : Option Getter} {p : Path} : d.field? = some (name, getter) →
    Validator.fieldPath name = .ok p → G p

/-- What the step itself does on a scope with the label `g` is as `P` says, and what is below it
stands at a path that is as `G` says. -/
structure Step.Keeps (L P : Visit → Prop) (G : Path → Prop) (g : Data) (t : Step) : Prop where
  declare : P (.declare t.made)
  check {path : Path} {v : Data} {s : Site} : G path → L (.declare t.made) →
    s ∈ t.sites path g v → P (.check s)
  read {name : Data} {getter : Option Getter} : t.field? = some (name, getter) →
    ∀ owner, P (.read (some owner) (readField name getter owner))
  child {name : Data} {getter : Option Getter} {path : Path} :
    t.field? = some (name, getter) → G path → G (path.child name)
  use {name : Data} {ds : List Declaration} : t = .use name ds → ∀ d ∈ ds, d.Keeps P G

namespace Step

/-- All steps that are carried out for the block keep the properties. -/
def KeepAll (L P : Visit → Prop) (G : Path → Prop) (label : Data) (block : List Step) : Prop :=
  ∀ t g, Governed t g label block → t.Keeps L P G g

namespace KeepAll

variable {L P : Visit → Prop} {G : Path → Prop} {label : Data} {block rest : List Step} {t : Step}

theorem mono (h : KeepAll L P G label block) (hsub : rest ⊆ block) : KeepAll L P G label rest :=
  fun t g ht => h t g (ht.mono hsub)

theorem inside (h : KeepAll L P G label block) (ht : t ∈ block) :
    KeepAll L P G (t.labelInside label) t.block :=
  fun u g hu => h u g (.inside ht hu)

theorem used (h : KeepAll L P G label block) {name : Data} {ds : List Declaration}
    (ht : .use name ds ∈ block) {d : Declaration} (hd : d ∈ ds) : KeepAll L P G .null d.block :=
  fun u g hu => h u g (.used ht hd hu)

theorem ifPresent {message code tag : Data} {p : Option Predicate}
    (h : KeepAll L P G label [.ruleIfPresent message p code tag]) :
    KeepAll L P G label [.rule message p code tag] := by
  intro t g ht
  cases ht with
  | here ht => exact h t _ (.ifPresent (List.mem_singleton.mp ht) List.mem_cons_self)
  | ifPresent _ hu => simp at hu
  | inside hu ht =>
    obtain rfl := List.mem_singleton.mp hu
    rcases ht with ht | ⟨-, ht⟩ | ⟨ht, -⟩ | ⟨ht, -, -⟩ <;> cases ht
  | used hu => simp at hu

theorem around (h : KeepAll L P G label block) {path : Path} (hpath : G path) {v : Data}
    {inner : List Visit} (hinner : (∀ x ∈ inner, L x) → ∀ x ∈ inner, P x)
    (hL : ∀ x ∈ around block path label v inner, L x) :
    ∀ x ∈ around block path label v inner, P x := by
  obtain ⟨hdeclares, hrest⟩ := List.forall_mem_append.mp hL
  obtain ⟨-, hL⟩ := List.forall_mem_append.mp hrest
  refine List.forall_mem_append.mpr ⟨?_, List.forall_mem_append.mpr ⟨?_, hinner hL⟩⟩
  · intro x hx
    obtain ⟨t, ht, rfl⟩ := List.mem_map.mp hx
    exact (h t label (.here ht)).declare
  · intro x hx
    obtain ⟨s, hs, rfl⟩ := List.mem_map.mp hx
    obtain ⟨t, ht, hs⟩ := List.mem_flatMap.mp hs
    exact (h t label (.here ht)).check hpath (hdeclares _ (List.mem_map_of_mem ht)) hs

end KeepAll

end Step

namespace Visit

variable {L P : Visit → Prop} {G : Path → Prop}

theorem forall_ofRead {owner : Option Data} {found : Run Data} {visits : Data → List Visit}
    (hread : P (.read owner found))
    (h : ∀ v, (∀ x ∈ visits v, L x) → ∀ x ∈ visits v, P x)
    (hL : ∀ x ∈ ofRead owner found visits, L x) : ∀ x ∈ ofRead owner found visits, P x := by
  intro x hx
  rcases mem_ofRead.mp hx with rfl | ⟨v, hv, hx⟩
  · exact hread
  · exact h v (fun y hy => hL y (mem_ofRead.mpr (.inr ⟨v, hv, hy⟩))) x hx

theorem forall_ofItems {owner : Data} {visits : Nat → Data → List Visit}
    (hI : Invariant L P G) {path : Path} (hpath : G path)
    (h : ∀ i v, G (path.index i) → (∀ x ∈ visits i v, L x) → ∀ x ∈ visits i v, P x)
    (hL : ∀ x ∈ ofItems owner visits, L x) : ∀ x ∈ ofItems owner visits, P x := by
  intro x hx
  rcases mem_ofItems.mp hx with rfl | ⟨vs, hvs, i, v, hi, hx⟩
  · exact hI.list owner
  · have hlist : L (.list owner) := hL _ (mem_ofItems.mpr (.inl rfl))
    have hlt := (List.getElem?_eq_some_iff.mp hi).1
    exact h i v (hI.index hpath hlist hvs hlt)
      (fun y hy => hL y (mem_ofItems.mpr (.inr ⟨vs, hvs, i, v, hi, hy⟩))) x hx

end Visit

section

variable {L P : Visit → Prop} {G : Path → Prop}

mutual

theorem Step.forall_inner (hI : Visit.Invariant L P G) (t : Step) {label : Data}
    (h : Step.KeepAll L P G label [t]) {path : Path} (hpath : G path) {v : Data}
    (hL : ∀ x ∈ t.inner path label v, L x) : ∀ x ∈ t.inner path label v, P x := by
  have ht : t ∈ [t] := List.mem_singleton_self t
  have hsub := h.inside ht
  have hkeeps := h t label (.here ht)
  cases t with
  | field name getter block =>
    have hchild := hkeeps.child rfl hpath
    exact forall_ofRead (hkeeps.read rfl v) (fun w =>
      hsub.around hchild (Step.forall_innerAll hI block hsub hchild)) hL
  | fieldItems name getter block =>
    refine forall_ofRead (hkeeps.read rfl v) (fun w => ?_) hL
    exact forall_ofItems hI (hkeeps.child rfl hpath) fun i u hitem =>
      hsub.around hitem (Step.forall_innerAll hI block hsub hitem)
  | items block =>
    unfold Step.inner at hL ⊢
    exact forall_ofItems hI hpath (fun i u hitem =>
      hsub.around hitem (Step.forall_innerAll hI block hsub hitem)) hL
  | unlessNull block =>
    revert hL
    unfold Step.inner
    split
    · exact fun _ x hx => nomatch hx
    · exact hsub.around hpath (Step.forall_innerAll hI block hsub hpath)
  | group tag block =>
    exact hsub.around hpath (Step.forall_innerAll hI block hsub hpath) hL
  | ruleIfPresent message p code tag =>
    revert hL
    unfold Step.inner
    split
    · exact fun _ x hx => nomatch hx
    · exact h.ifPresent.around hpath fun _ x hx => nomatch hx
  | use name ds =>
    have hds := Declaration.forall_visitsAll hI ds (hkeeps.use rfl) (fun d hd => h.used ht hd)
      (v := v) fun x hx => hI.assumed (hL _ (List.mem_map_of_mem hx))
    intro x hx
    obtain ⟨y, hy, rfl⟩ := List.mem_map.mp hx
    exact hI.under hpath (hds y hy)
  | rule message p code tag => exact fun x hx => nomatch hx
  | attach source p => exact fun x hx => nomatch hx
  | dependent links => exact fun x hx => nomatch hx
termination_by structural t

theorem Step.forall_innerAll (hI : Visit.Invariant L P G) (block : List Step) {label : Data}
    (h : Step.KeepAll L P G label block) {path : Path} (hpath : G path) {v : Data}
    (hL : ∀ x ∈ Step.innerAll block path label v, L x) :
    ∀ x ∈ Step.innerAll block path label v, P x := by
  cases block with
  | nil => exact fun x hx => nomatch hx
  | cons t rest =>
    obtain ⟨hfirst, hrest⟩ := List.forall_mem_append.mp hL
    refine List.forall_mem_append.mpr ⟨?_, ?_⟩
    · exact Step.forall_inner hI t (h.mono (List.cons_subset_cons t (List.nil_subset rest))) hpath
        hfirst
    · exact Step.forall_innerAll hI rest (h.mono (List.subset_cons_self t rest)) hpath hrest
termination_by structural block

theorem Declaration.forall_visits (hI : Visit.Invariant L P G) (d : Declaration)
    (hd : d.Keeps P G) (h : Step.KeepAll L P G .null d.block) {v : Data}
    (hL : ∀ x ∈ d.visits v, L x) : ∀ x ∈ d.visits v, P x := by
  cases d with
  | root block => exact h.around hI.root (Step.forall_innerAll hI block h hI.root) hL
  | field name getter block =>
    revert hL
    unfold Declaration.visits
    split
    · next path hp =>
      have hpath := hd.path rfl hp
      exact forall_ofRead (hd.read rfl v) fun w =>
        h.around hpath (Step.forall_innerAll hI block h hpath)
    · exact fun _ x hx => nomatch hx
  | fieldItems name getter block =>
    revert hL
    unfold Declaration.visits
    split
    · next path hp =>
      refine forall_ofRead (hd.read rfl v) fun w => ?_
      exact forall_ofItems hI (hd.path rfl hp) fun i u hitem =>
        h.around hitem (Step.forall_innerAll hI block h hitem)
    · exact fun _ x hx => nomatch hx
termination_by structural d

theorem Declaration.forall_visitsAll (hI : Visit.Invariant L P G) (ds : List Declaration)
    (hds : ∀ d ∈ ds, d.Keeps P G) (h : ∀ d ∈ ds, Step.KeepAll L P G .null d.block) {v : Data}
    (hL : ∀ x ∈ Declaration.visitsAll ds v, L x) : ∀ x ∈ Declaration.visitsAll ds v, P x := by
  cases ds with
  | nil => exact fun x hx => nomatch hx
  | cons d rest =>
    obtain ⟨hd, hrest⟩ := List.forall_mem_cons.mp h
    obtain ⟨hkeeps, hkeepsRest⟩ := List.forall_mem_cons.mp hds
    obtain ⟨hfirst, hL⟩ := List.forall_mem_append.mp hL
    refine List.forall_mem_append.mpr ⟨?_, ?_⟩
    · exact Declaration.forall_visits hI d hkeeps hd hfirst
    · exact Declaration.forall_visitsAll hI rest hkeepsRest hrest hL
termination_by structural ds

end

theorem Step.forall_visitsRead (hI : Visit.Invariant L P G) {block : List Step} {label : Data}
    (h : Step.KeepAll L P G label block) {path : Path} (hpath : G path) {read : Run Data}
    (hread : P (.read none read)) (hL : ∀ x ∈ Step.visitsRead block path label read, L x) :
    ∀ x ∈ Step.visitsRead block path label read, P x := by
  obtain ⟨hdeclares, hrest⟩ := List.forall_mem_append.mp hL
  refine List.forall_mem_append.mpr ⟨?_, ?_⟩
  · intro x hx
    obtain ⟨t, ht, rfl⟩ := List.mem_map.mp hx
    exact (h t label (.here ht)).declare
  · refine forall_ofRead hread (fun v hv => ?_) hrest
    have hall := h.around hpath (v := v) (Step.forall_innerAll hI block h hpath)
      (List.forall_mem_append.mpr ⟨hdeclares, hv⟩)
    exact fun x hx => hall x (List.mem_append_right _ hx)

end

namespace Step

/-- All issues that the steps of the block find have the property, wherever they are carried
out. -/
def FindsOnly (Q : Issue → Prop) (label : Data) (block : List Step) : Prop :=
  ∀ t g, Governed t g label block → ∀ path v, ∀ s ∈ t.sites path g v, (Visit.check s).Only Q

end Step

/-- The property of an issue does not depend on where it is reported. -/
def Issue.Placeless (Q : Issue → Prop) : Prop := ∀ path i, Q i → Q (Scope.reparent path i)

section

variable {Q : Issue → Prop}

theorem Issue.Placeless.invariant (hQ : Placeless Q) :
    Visit.Invariant (fun _ => True) (Only Q) (fun _ => True) where
  root := trivial
  index _ _ _ _ := trivial
  list := only_list
  under _ h := h.under (hQ _)
  assumed := id

theorem Step.FindsOnly.keepAll {label : Data} {block : List Step} (h : FindsOnly Q label block) :
    KeepAll (fun _ => True) (Only Q) (fun _ => True) label block := fun t g ht =>
  { declare := only_declare t.made
    check := fun _ _ hs => h t g ht _ _ _ hs
    read := fun _ _ => only_read _ _
    child := fun _ _ => trivial
    use := fun _ _ _ => { read := fun _ _ => only_read _ _, path := fun _ _ => trivial } }

theorem Step.FindsOnly.of_evaluation {label : Data} {block : List Step}
    (h : FindsOnly Q label block) (hQ : Issue.Placeless Q) {path : Path} {read : Run Data}
    {x : Validated Data} (hx : (evaluation block path label read).result = .ok x) :
    ∀ i ∈ x.issues, Q i := by
  rw [evaluation_eq_runAll] at hx
  obtain ⟨is, his, hx⟩ := Traced.result_bind_eq_ok.mp hx
  cases hx
  rw [Validated.issues_check]
  exact only_runAll (forall_visitsRead hQ.invariant h.keepAll trivial (only_read none read)
    fun _ _ => trivial) his

end

end Assay
