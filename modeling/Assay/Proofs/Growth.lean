import Assay.Proofs.Growth.Parts

/-! # Growth

A program grows by one more step in one of its blocks, one more declaration of
one of its validators, or one more link behind one of its chains. A validator
that has grown finds everything that it found before, in the same order, on
every value that it still completes on.
-/

namespace Assay

open Visit

mutual

/-- The second step is the first one, grown in one place within it. -/
inductive Step.Grown : Step → Step → Prop
  | field (name : Data) (getter : Option Getter) {xs ys : List Step} :
    Step.GrownAll xs ys → Step.Grown (.field name getter xs) (.field name getter ys)
  | fieldItems (name : Data) (getter : Option Getter) {xs ys : List Step} :
    Step.GrownAll xs ys → Step.Grown (.fieldItems name getter xs) (.fieldItems name getter ys)
  | items {xs ys : List Step} : Step.GrownAll xs ys → Step.Grown (.items xs) (.items ys)
  | unlessNull {xs ys : List Step} :
    Step.GrownAll xs ys → Step.Grown (.unlessNull xs) (.unlessNull ys)
  | group (tag : Data) {xs ys : List Step} :
    Step.GrownAll xs ys → Step.Grown (.group tag xs) (.group tag ys)
  | dependent (links : List Link) (l : Link) :
    Step.Grown (.dependent links) (.dependent (links ++ [l]))
  | use (name : Data) {ds es : List Declaration} :
    Declaration.GrownAll ds es → Step.Grown (.use name ds) (.use name es)

/-- The second block is the first one with one more step, or with one of its steps grown. -/
inductive Step.GrownAll : List Step → List Step → Prop
  | insert (before : List Step) (t : Step) (after : List Step) :
    Step.GrownAll (before ++ after) (before ++ t :: after)
  | inside (before after : List Step) {t u : Step} :
    Step.Grown t u → Step.GrownAll (before ++ t :: after) (before ++ u :: after)

inductive Declaration.Grown : Declaration → Declaration → Prop
  | root {xs ys : List Step} : Step.GrownAll xs ys → Declaration.Grown (.root xs) (.root ys)
  | field (name : Data) (getter : Option Getter) {xs ys : List Step} :
    Step.GrownAll xs ys → Declaration.Grown (.field name getter xs) (.field name getter ys)
  | fieldItems (name : Data) (getter : Option Getter) {xs ys : List Step} :
    Step.GrownAll xs ys →
      Declaration.Grown (.fieldItems name getter xs) (.fieldItems name getter ys)

/-- The second list has one more declaration, or one of the declarations has grown. -/
inductive Declaration.GrownAll : List Declaration → List Declaration → Prop
  | insert (before : List Declaration) (d : Declaration) (after : List Declaration) :
    Declaration.GrownAll (before ++ after) (before ++ d :: after)
  | inside (before after : List Declaration) {d e : Declaration} :
    Declaration.Grown d e → Declaration.GrownAll (before ++ d :: after) (before ++ e :: after)

end

namespace Step

theorem part_ofLinks (path : Path) (v : Data) (links : List Link) (l : Link) :
    Visit.Part [.check (.ofLinks path v links)] [.check (.ofLinks path v (links ++ [l]))] := by
  intro js hjs
  rw [runAll_singleton] at hjs ⊢
  change (Site.firstRefusal path v (links ++ [l])).result = .ok js at hjs
  change ∃ is, (Site.firstRefusal path v links).result = .ok is ∧ is.Sublist js
  induction links with
  | nil => exact ⟨[], rfl, js.nil_sublist⟩
  | cons k rest ih =>
    rw [List.cons_append, Site.firstRefusal] at hjs
    obtain ⟨b, hb, hjs⟩ := Traced.result_bind_eq_ok.mp hjs
    rw [Site.firstRefusal, Traced.bind_of_ok hb]
    cases b with
    | true => exact ih hjs
    | false => exact ⟨js, hjs, .refl js⟩

theorem part_dependent (links : List Link) (l : Link) :
    Part [.dependent links] [.dependent (links ++ [l])] where
  made := .declare fun hmade => by
    change forM (links ++ [l]) (fun l => ensureWorded l.message) = .ok () at hmade
    rw [List.forM_append] at hmade
    obtain ⟨_, hlinks, -⟩ := Traced.except_bind_eq_ok.mp hmade
    exact hlinks
  sites path label v := by
    simp only [List.flatMap_singleton, sites]
    cases links with
    | nil => exact .nil _
    | cons k rest => exact part_ofLinks path v (k :: rest) l
  inner _ _ _ := .refl []

theorem part_use (name : Data) {ds es : List Declaration} (h : Declaration.Part ds es) :
    Part [.use name ds] [.use name es] where
  made := .declare (h.made name)
  sites _ _ _ := .refl []
  inner path label v := by
    rw [innerAll_singleton, innerAll_singleton]
    exact (h.visits v).under path

end Step

namespace Declaration

theorem part_root {xs ys : List Step} (h : Step.Part xs ys) : Part [.root xs] [.root ys] :=
  .singleton (fun _ => rfl) fun v => h.visits ∅ .null v

theorem part_field (name : Data) (getter : Option Getter) {xs ys : List Step}
    (h : Step.Part xs ys) : Part [.field name getter xs] [.field name getter ys] :=
  .singleton (fun _ => rfl) fun v => by
    unfold visits
    split
    · exact runCongruence_part.runAll_ofRead fun w => h.visits _ .null w
    · exact .refl []

theorem part_fieldItems (name : Data) (getter : Option Getter) {xs ys : List Step}
    (h : Step.Part xs ys) : Part [.fieldItems name getter xs] [.fieldItems name getter ys] :=
  .singleton (fun _ => rfl) fun v => by
    unfold visits
    split
    · exact runCongruence_part.runAll_ofRead fun _ =>
        runCongruence_part.runAll_ofItems fun i u => h.visits _ .null u
    · exact .refl []

end Declaration

-- by induction on the way to the place of growth, one constructor after the other
mutual

theorem Step.Grown.part {t u : Step} (h : Step.Grown t u) : Step.Part [t] [u] :=
  match h with
  | .field name getter h => h.part.field name getter
  | .fieldItems name getter h => h.part.fieldItems name getter
  | .items h => h.part.items
  | .unlessNull h => h.part.unlessNull
  | .group tag h => h.part.group tag
  | .dependent links l => Step.part_dependent links l
  | .use name h => Step.part_use name h.part

theorem Step.GrownAll.part {xs ys : List Step} (h : Step.GrownAll xs ys) : Step.Part xs ys :=
  match h with
  | .insert before t after =>
    (Step.Part.refl before).append ((Step.Part.nil [t]).append (.refl after))
  | .inside before after h => (Step.Part.refl before).append (h.part.append (.refl after))

theorem Declaration.Grown.part {d e : Declaration} (h : Declaration.Grown d e) :
    Declaration.Part [d] [e] :=
  match h with
  | .root h => Declaration.part_root h.part
  | .field name getter h => Declaration.part_field name getter h.part
  | .fieldItems name getter h => Declaration.part_fieldItems name getter h.part

theorem Declaration.GrownAll.part {ds es : List Declaration} (h : Declaration.GrownAll ds es) :
    Declaration.Part ds es :=
  match h with
  | .insert before d after =>
    (Declaration.Part.refl before).append ((Declaration.Part.nil [d]).append (.refl after))
  | .inside before after h => (Declaration.Part.refl before).append (h.part.append (.refl after))

end

theorem Verdict.isAccepted_of (v : Data) (is : List Issue) :
    (Verdict.of v is).isAccepted = is.isEmpty := by
  cases is <;> rfl

namespace Validator

variable {name target : Data} {ds es : List Declaration} {w w' : Validator}

theorem validate_eq_ok (hw : (ofDeclarations name ds).result = .ok w) {verdict : Verdict Data} :
    (w.validate target).result = .ok verdict ↔
      ∃ is, (runAll (Declaration.visitsAll ds target)).result = .ok is ∧
        verdict = .of target is := by
  rw [result_validate_eq_ok, issues_eq_runAll hw]

/-- A validator that has grown finds no less. If it can be built, then so can the one that it has
grown from, which completes on every value on which the grown one does, and finds there a
subsequence of the issues; in particular it accepts all that the grown one accepts. -/
theorem validate_of_grown (h : Declaration.GrownAll ds es)
    (hw' : (ofDeclarations name es).result = .ok w') :
    ∃ w, (ofDeclarations name ds).result = .ok w ∧
      ∀ target verdict', (w'.validate target).result = .ok verdict' →
        ∃ verdict, (w.validate target).result = .ok verdict ∧
          verdict.issues.Sublist verdict'.issues ∧
            (verdict'.isAccepted → verdict.isAccepted) := by
  obtain ⟨w, hw⟩ := exists_built (h.part.made name (made_of_built hw'))
  refine ⟨w, hw, fun target verdict' hverdict' => ?_⟩
  obtain ⟨js, hjs, rfl⟩ := (validate_eq_ok hw').mp hverdict'
  obtain ⟨is, his, hsub⟩ := h.part.visits target js hjs
  refine ⟨.of target is, (validate_eq_ok hw).mpr ⟨is, his, rfl⟩, ?_, ?_⟩
  · rw [Verdict.issues_of, Verdict.issues_of]
    exact hsub
  · rw [Verdict.isAccepted_of, Verdict.isAccepted_of, List.isEmpty_iff, List.isEmpty_iff]
    rintro rfl
    exact List.sublist_nil.mp hsub

def sampleTags (links : List Link) : List Declaration :=
  [.field (.text "tags") none [.items [.use (.text "Tag") [.root [.dependent links]]]]]

def sampleLinks : List Link :=
  [⟨.text "must be visible", fun v => pure (Check.isVisible v), .null⟩]

def sampleExtraLink : Link :=
  ⟨.text "must be numeric", fun v => pure (Check.isNumerals v), .null⟩

def sampleTagged : Data := .mapping [(.text "tags", .list [.text "a", .text " "])]

theorem grown_sampleTags (links : List Link) (l : Link) :
    Declaration.GrownAll (sampleTags links) (sampleTags (links ++ [l])) :=
  .inside [] [] (.field _ _ (.inside [] [] (.items (.inside [] [] (.use _ (.inside [] []
    (.root (.inside [] [] (.dependent links l)))))))))

theorem sampleTagged_of_grown :
    ∃ w w', (ofDeclarations (.text "Post") (sampleTags sampleLinks)).result = .ok w ∧
      (ofDeclarations (.text "Post") (sampleTags (sampleLinks ++ [sampleExtraLink]))).result =
        .ok w' ∧
      ∃ verdict verdict', (w'.validate sampleTagged).result = .ok verdict' ∧
        verdict'.issues.map (·.message) = [.text "must be numeric", .text "must be visible"] ∧
        (w.validate sampleTagged).result = .ok verdict ∧
        verdict.issues.map (·.message) = [.text "must be visible"] ∧
        verdict.issues.Sublist verdict'.issues := by
  obtain ⟨w, hw, hvalidate⟩ := validate_of_grown (grown_sampleTags sampleLinks sampleExtraLink)
    (show (ofDeclarations (.text "Post") _).result = .ok _ from rfl)
  cases hw
  obtain ⟨verdict, hverdict, hsub, -⟩ := hvalidate sampleTagged _ rfl
  cases hverdict
  exact ⟨_, _, rfl, rfl, _, _, rfl, rfl, rfl, rfl, hsub⟩

end Validator

end Assay
