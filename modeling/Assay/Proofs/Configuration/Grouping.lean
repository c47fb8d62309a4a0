import Assay.Proofs.Configuration.Refinement
import Assay.Proofs.Labels.Regrouping
import Assay.Proofs.Traversal.Congruence

/-! # Labels of fields in configurations

Two configurations that differ in the labels of field definitions alone build
validators that refuse the same values. What they find is the same but for the
labels, and a field that gains a label finds what its chain finds first.
-/

namespace Assay

open Visit

/-- Either both runs end with a fault, or both complete, and find issues that are related. -/
structure RunAlike (S : List Issue → List Issue → Prop) (m n : Run (List Issue)) : Prop where
  forth : ∀ is, m.result = .ok is → ∃ js, n.result = .ok js ∧ S is js
  back : ∀ js, n.result = .ok js → ∃ is, m.result = .ok is

namespace RunAlike

variable {S : List Issue → List Issue → Prop} {m m' n n' : Run (List Issue)}

theorem refl (hS : ∀ is, S is is) (m : Run (List Issue)) : RunAlike S m m where
  forth is h := ⟨is, h, hS is⟩
  back is h := ⟨is, h⟩

theorem append (hS : ∀ {is is' js js'}, S is is' → S js js' → S (is ++ js) (is' ++ js'))
    (h : RunAlike S m m') (h' : RunAlike S n n') :
    RunAlike S (do let is ← m; let js ← n; pure (is ++ js))
      (do let is ← m'; let js ← n'; pure (is ++ js)) where
  forth is his := by
    obtain ⟨as, has, his⟩ := Traced.result_bind_eq_ok.mp his
    obtain ⟨bs, hbs, his⟩ := Traced.result_bind_eq_ok.mp his
    cases his
    obtain ⟨as', has', ha⟩ := h.forth as has
    obtain ⟨bs', hbs', hb⟩ := h'.forth bs hbs
    exact ⟨as' ++ bs', Traced.result_bind_eq_ok.mpr ⟨as', has',
      Traced.result_bind_eq_ok.mpr ⟨bs', hbs', rfl⟩⟩, hS ha hb⟩
  back js hjs := by
    obtain ⟨as, has, hjs⟩ := Traced.result_bind_eq_ok.mp hjs
    obtain ⟨bs, hbs, hjs⟩ := Traced.result_bind_eq_ok.mp hjs
    obtain ⟨as', has'⟩ := h.back as has
    obtain ⟨bs', hbs'⟩ := h'.back bs hbs
    exact ⟨as' ++ bs', Traced.result_bind_eq_ok.mpr ⟨as', has',
      Traced.result_bind_eq_ok.mpr ⟨bs', hbs', rfl⟩⟩⟩

theorem bind {α : Type} (x : Run α) {f g : α → Run (List Issue)}
    (h : ∀ a, RunAlike S (f a) (g a)) : RunAlike S (x >>= f) (x >>= g) where
  forth is his := by
    obtain ⟨a, ha, his⟩ := Traced.result_bind_eq_ok.mp his
    obtain ⟨js, hjs, hS⟩ := (h a).forth is his
    exact ⟨js, Traced.result_bind_eq_ok.mpr ⟨a, ha, hjs⟩, hS⟩
  back js hjs := by
    obtain ⟨a, ha, hjs⟩ := Traced.result_bind_eq_ok.mp hjs
    obtain ⟨is, his⟩ := (h a).back js hjs
    exact ⟨is, Traced.result_bind_eq_ok.mpr ⟨a, ha, his⟩⟩

/-- A relation between issues that is kept by joining lists is kept by traversals. -/
theorem runCongruence (hrefl : ∀ is, S is is)
    (happend : ∀ {is is' js js'}, S is is' → S js js' → S (is ++ js) (is' ++ js')) :
    RunCongruence (RunAlike S) where
  refl := refl hrefl
  append := append happend
  bind x _ _ h := .bind x h

end RunAlike

namespace Configuration

variable {registry : Registry} {P : List (Data × Data) → List (Data × Data) → Prop}
  {es es' : List (Data × Data)}

mutual

/-- Field definitions that differ in labels alone, their own and those of the fields below them. The
entries of each two definitions that take the place of each other are paired by `P`. -/
inductive Regrouped (P : List (Data × Data) → List (Data × Data) → Prop) : Data → Data → Prop
  | mapping {es es' : List (Data × Data)}
      (agree : ∀ key, key ≠ "group" → key ≠ "fields" → get es key = get es' key)
      (fields : RegroupedFields P (get es "fields") (get es' "fields")) (paired : P es es') :
      Regrouped P (.mapping es) (.mapping es')

inductive RegroupedFields (P : List (Data × Data) → List (Data × Data) → Prop) : Data → Data → Prop
  | null : RegroupedFields P .null .null
  | list {ds ds' : List Data} (definitions : RegroupedAll P ds ds') :
      RegroupedFields P (.list ds) (.list ds')

inductive RegroupedAll (P : List (Data × Data) → List (Data × Data) → Prop) :
    List Data → List Data → Prop
  | nil : RegroupedAll P [] []
  | cons {d d' : Data} {ds ds' : List Data} (head : Regrouped P d d')
      (tail : RegroupedAll P ds ds') : RegroupedAll P (d :: ds) (d' :: ds')

end

/-- Options that differ in the labels of field definitions alone. -/
structure RegroupedOptions (P : List (Data × Data) → List (Data × Data) → Prop)
    (options options' : Arguments) : Prop where
  agree : ∀ name, name ≠ "fields" → options.get? name = options'.get? name
  fields : RegroupedFields P (options.getD "fields" .null) (options'.getD "fields" .null)

/-- The field has a label in both definitions or in none, unless it has no rules or no chain. -/
def KeepsOrder (es es' : List (Data × Data)) : Prop :=
  (get es "group").isTrue = (get es' "group").isTrue ∨ Reading.listed (get es "rules") = [] ∨
    Reading.listed (get es "dependent") = []

/-- What a field with a label finds by its rules comes behind what its chain finds. -/
def inOrder (label : Data) (own chained : List Issue) : List Issue :=
  if label.isTrue then chained ++ own else own ++ chained

/-- What rules find, one after the other, at a path and under the label of a field. -/
def ruleFindings (path : Path) (label v : Data) (rs : List Rule) : Run (List Issue) :=
  runAll (rs.map fun r => .check (.ofRule path (scopeLabel label) v r))

/-- The second list is the first one, but that what the rules of paired definitions find is reported
under the label that the field has there, and stands where that label puts it. -/
inductive Rearranged (registry : Registry) (P : List (Data × Data) → List (Data × Data) → Prop) :
    List Issue → List Issue → Prop
  | refl (is : List Issue) : Rearranged registry P is is
  | append {is is' js js' : List Issue} : Rearranged registry P is is' →
      Rearranged registry P js js' → Rearranged registry P (is ++ js) (is' ++ js')
  | field {es es' : List (Data × Data)} {rs : List Rule} {chain : Option Rule} {owner v : Data}
      {path : Path} {is is' js : List Issue} (paired : P es es')
      (rules : rules registry owner (get es "rules") = .ok rs)
      (dependent : Configuration.chain registry owner (get es "dependent") = .ok chain)
      (own : (ruleFindings path (get es "group") v rs).result = .ok is)
      (own' : (ruleFindings path (get es' "group") v rs).result = .ok is')
      (chained : (ruleFindings path .null v chain.toList).result = .ok js) :
      Rearranged registry P (inOrder (get es "group") is js) (inOrder (get es' "group") is' js)

theorem ungrouped_stamp (path : Path) (label : Data) (i : Issue) :
    (Site.stamp path label i).ungrouped = (Site.stamp path .null i).ungrouped := rfl

/-- The label of the scope is written onto what the rules find, and decides nothing else. -/
theorem ruleFindings_eq (path : Path) (label v : Data) (rs : List Rule) :
    ruleFindings path label v rs =
      (do pure ((← Validator.issues rs v).map (Site.stamp path (scopeLabel label)))) := by
  unfold ruleFindings
  induction rs with
  | nil => rfl
  | cons r rest ih =>
    rw [List.map_cons, runAll_cons, ih, Validator.issues_cons]
    simp only [run, Site.ofRule, bind_assoc, pure_bind, List.map_append]

theorem ruleFindings_eq_ok {path : Path} {label v : Data} {rs : List Rule} {is : List Issue} :
    (ruleFindings path label v rs).result = .ok is ↔
      ∃ js, (Validator.issues rs v).result = .ok js ∧
        is = js.map (Site.stamp path (scopeLabel label)) := by
  rw [ruleFindings_eq]
  exact Traced.result_bind_pure_eq_ok

theorem ungrouped_ruleFindings {path : Path} {label label' v : Data} {rs : List Rule}
    {is is' : List Issue} (h : (ruleFindings path label v rs).result = .ok is)
    (h' : (ruleFindings path label' v rs).result = .ok is') :
    is.map Issue.ungrouped = is'.map Issue.ungrouped := by
  obtain ⟨js, hjs, rfl⟩ := ruleFindings_eq_ok.mp h
  obtain ⟨js', hjs', rfl⟩ := ruleFindings_eq_ok.mp h'
  obtain rfl := Except.ok.inj (hjs.symm.trans hjs')
  rw [List.map_map, List.map_map]
  exact List.map_congr_left fun i _ => ungrouped_stamp path _ i

namespace Rearranged

variable {is js : List Issue}

/-- Rearranged issues are the same up to the order, the labels apart. -/
theorem perm (h : Rearranged registry P is js) :
    (is.map Issue.ungrouped).Perm (js.map Issue.ungrouped) := by
  induction h with
  | refl is => exact .refl _
  | append _ _ ih ih' =>
    rw [List.map_append, List.map_append]
    exact ih.append ih'
  | field paired rules dependent own own' chained =>
    have hsame := ungrouped_ruleFindings own own'
    -- The two parts change places where exactly one of the definitions has a label.
    unfold inOrder
    split <;> split <;> simp only [List.map_append, hsame]
    · exact .refl _
    · exact List.perm_append_comm
    · exact List.perm_append_comm
    · exact .refl _

theorem nil_of_no_rules {path : Path} {label v owner : Data} {rs : List Rule}
    (hrules : rules registry owner (get es "rules") = .ok rs)
    (hnone : Reading.listed (get es "rules") = [])
    (his : (ruleFindings path label v rs).result = .ok is) : is = [] := by
  have hrs := rules_eq_ok hrules
  rw [hnone] at hrs
  cases hrs
  cases his
  rfl

theorem nil_of_no_chain {path : Path} {v owner : Data} {chain : Option Rule}
    (hchain : Configuration.chain registry owner (get es "dependent") = .ok chain)
    (hnone : Reading.listed (get es "dependent") = [])
    (his : (ruleFindings path .null v chain.toList).result = .ok is) : is = [] := by
  have hrs := chain_eq_ok hchain
  rw [hnone] at hrs
  cases hrs
  cases his
  rfl

/-- Where no label gains or loses its effect on the order, the order stays. -/
theorem map_ungrouped_eq (hP : ∀ es es', P es es' → KeepsOrder es es')
    (h : Rearranged registry P is js) : is.map Issue.ungrouped = js.map Issue.ungrouped := by
  induction h with
  | refl is => rfl
  | append _ _ ih ih' => rw [List.map_append, List.map_append, ih, ih']
  | field paired rules dependent own own' chained =>
    have hsame := ungrouped_ruleFindings own own'
    obtain hlabel | hnone | hnone := hP _ _ paired
    · unfold inOrder
      rw [hlabel]
      split <;> simp only [List.map_append, hsame]
    · obtain rfl := nil_of_no_rules rules hnone own
      obtain rfl := nil_of_no_rules rules hnone own'
      rw [inOrder, inOrder]
      split <;> split <;> simp only [List.nil_append, List.append_nil]
    · obtain rfl := nil_of_no_chain dependent hnone chained
      rw [inOrder, inOrder]
      split <;> split <;> simpa only [List.nil_append, List.append_nil] using hsame

end Rearranged

variable {R : Run (List Issue) → Run (List Issue) → Prop} {xs ys : List Step}
  {cs cs' : List (Data × List Step)}

/-- The blocks find alike things at every path, without a label. -/
def BlocksAlike (R : Run (List Issue) → Run (List Issue) → Prop) (xs ys : List Step) : Prop :=
  ∀ path v, R (runAll (Step.visits xs path .null v)) (runAll (Step.visits ys path .null v))

theorem BlocksAlike.optional (hR : RunCongruence R) (h : BlocksAlike R xs ys) (flag : Data) :
    BlocksAlike R (optional flag xs) (optional flag ys) := by
  intro path v
  unfold Configuration.optional
  split
  · rw [runAll_visits_singleton rfl rfl, runAll_visits_singleton rfl rfl]
    unfold Step.inner
    split
    · exact hR.refl _
    · exact h path v
  · exact h path v

theorem BlocksAlike.each (hR : RunCongruence R) (h : BlocksAlike R xs ys) (flag : Data) :
    BlocksAlike R (each flag xs) (each flag ys) := by
  intro path v
  unfold Configuration.each
  split
  · rw [runAll_visits_singleton rfl rfl, runAll_visits_singleton rfl rfl]
    unfold Step.inner
    exact hR.runAll_ofItems fun i u => h (path.index i) u
  · exact h path v

/-- Fields with the same names and blocks that find alike things. -/
def FieldsAlike (R : Run (List Issue) → Run (List Issue) → Prop)
    (cs cs' : List (Data × List Step)) : Prop :=
  List.Forall₂ (fun c c' => c.1 = c'.1 ∧ BlocksAlike R c.2 c'.2) cs cs'

theorem FieldsAlike.runAll_innerAll (hR : RunCongruence R) (h : FieldsAlike R cs cs')
    (path : Path) (label v : Data) :
    R (runAll (Step.innerAll (fieldSteps cs) path label v))
      (runAll (Step.innerAll (fieldSteps cs') path label v)) := by
  induction h with
  | nil => exact hR.refl _
  | @cons c c' cs cs' hc _ ih =>
    obtain ⟨hname, hblock⟩ := hc
    rw [fieldSteps, fieldSteps, List.map_cons, List.map_cons, Step.innerAll, Step.innerAll,
      ← fieldSteps, ← fieldSteps, ← hname]
    refine hR.runAll_append ?_ ih
    exact hR.runAll_ofRead fun w => hblock (path.child c.1) w

theorem FieldsAlike.runAll_visitsAll (hR : RunCongruence R) (h : FieldsAlike R cs cs')
    (v : Data) :
    R (runAll (Declaration.visitsAll (fieldDeclarations cs) v))
      (runAll (Declaration.visitsAll (fieldDeclarations cs') v)) := by
  induction h with
  | nil => exact hR.refl _
  | @cons c c' cs cs' hc _ ih =>
    obtain ⟨hname, hblock⟩ := hc
    rw [fieldDeclarations, fieldDeclarations, List.map_cons, List.map_cons, Declaration.visitsAll,
      Declaration.visitsAll, ← fieldDeclarations, ← fieldDeclarations, ← hname]
    refine hR.runAll_append ?_ ih
    unfold Declaration.visits
    cases Validator.fieldPath c.1 with
    | error e => exact hR.refl _
    | ok path => exact hR.runAll_ofRead fun w => hblock path w

theorem congruence_rearranged (registry : Registry)
    (P : List (Data × Data) → List (Data × Data) → Prop) :
    RunCongruence (RunAlike (Rearranged registry P)) :=
  RunAlike.runCongruence .refl .append

theorem runAll_chained_grouped_eq_ok {label : Data} {chain : Option Rule} {rs : List Rule}
    (hmade : ∀ c ∈ cs, ∃ s, c.1.spell = .ok s) {path : Path} {v : Data} {is : List Issue} :
    (runAll (Step.visits (chained chain (grouped label (element rs cs))) path .null v)).result =
        .ok is ↔
      ∃ own dependent below, (ruleFindings path label v rs).result = .ok own ∧
        (ruleFindings path .null v chain.toList).result = .ok dependent ∧
        (runAll (Step.innerAll (fieldSteps cs) path .null v)).result = .ok below ∧
        is = inOrder label own dependent ++ below := by
  rw [runAll_chained_grouped _ _ hmade]
  by_cases hl : label.isTrue
  · simp only [if_pos hl, inOrder, Traced.result_bind_eq_ok, Traced.result_pure, Except.ok.injEq]
    constructor
    · rintro ⟨dependent, hdependent, own, hown, below, hbelow, rfl⟩
      exact ⟨own, dependent, below, hown, hdependent, hbelow, rfl⟩
    · rintro ⟨own, dependent, below, hown, hdependent, hbelow, rfl⟩
      exact ⟨dependent, hdependent, own, hown, below, hbelow, rfl⟩
  · simp only [if_neg hl, inOrder, Traced.result_bind_eq_ok, Traced.result_pure, Except.ok.injEq]
    constructor
    · rintro ⟨own, hown, dependent, hdependent, below, hbelow, rfl⟩
      exact ⟨own, dependent, below, hown, hdependent, hbelow, rfl⟩
    · rintro ⟨own, dependent, below, hown, hdependent, hbelow, rfl⟩
      exact ⟨own, hown, dependent, hdependent, below, hbelow, rfl⟩

/-- A label moves what the rules find and writes itself onto it; the chain and the fields below find
the same. -/
theorem alike_chained_grouped {rs : List Rule} {chain : Option Rule} {owner : Data}
    (paired : P es es') (hrules : rules registry owner (get es "rules") = .ok rs)
    (hchain : Configuration.chain registry owner (get es "dependent") = .ok chain)
    (hmade : ∀ c ∈ cs, ∃ s, c.1.spell = .ok s) (hmade' : ∀ c ∈ cs', ∃ s, c.1.spell = .ok s)
    (hbelow : FieldsAlike (RunAlike (Rearranged registry P)) cs cs') :
    BlocksAlike (RunAlike (Rearranged registry P))
      (chained chain (grouped (get es "group") (element rs cs)))
      (chained chain (grouped (get es' "group") (element rs cs'))) := by
  intro path v
  have hinner := hbelow.runAll_innerAll (congruence_rearranged registry P) path .null v
  -- Whether the rules complete does not depend on the label.
  have hown : ∀ {label label' : Data} {is : List Issue},
      (ruleFindings path label v rs).result = .ok is →
      ∃ js, (ruleFindings path label' v rs).result = .ok js := by
    intro label label' is h
    obtain ⟨js, hjs, -⟩ := ruleFindings_eq_ok.mp h
    exact ⟨_, ruleFindings_eq_ok.mpr ⟨js, hjs, rfl⟩⟩
  constructor
  · intro is his
    obtain ⟨own, dependent, below, ho, hd, hb, rfl⟩ := (runAll_chained_grouped_eq_ok hmade).mp his
    obtain ⟨own', ho'⟩ := hown ho
    obtain ⟨below', hb', hrearranged⟩ := hinner.forth below hb
    exact ⟨_, (runAll_chained_grouped_eq_ok hmade').mpr
      ⟨own', dependent, below', ho', hd, hb', rfl⟩,
      .append (.field paired hrules hchain ho ho' hd) hrearranged⟩
  · intro js hjs
    obtain ⟨own, dependent, below, ho, hd, hb, rfl⟩ := (runAll_chained_grouped_eq_ok hmade').mp hjs
    obtain ⟨own', ho'⟩ := hown ho
    obtain ⟨below', hb'⟩ := hinner.back below hb
    exact ⟨_, (runAll_chained_grouped_eq_ok hmade).mpr
      ⟨own', dependent, below', ho', hd, hb', rfl⟩⟩

theorem spell_of_fieldList {v : Data} {owner : String} {fs : List (Data × List Step)}
    (h : (fieldList registry owner v).result = .ok fs) : ∀ f ∈ fs, ∃ s, f.1.spell = .ok s := by
  cases v with
  | null => cases h; simp
  | list ds => exact spell_of_fieldsFrom h
  | _ => cases h

/-- The definitions, wherever they stand, build blocks for the same field that find alike things. -/
def BuildAlike (registry : Registry) (P : List (Data × Data) → List (Data × Data) → Prop)
    (d d' : Data) : Prop :=
  ∀ ⦃i j f f'⦄, (field registry i d).result = .ok f → (field registry j d').result = .ok f' →
    f.1 = f'.1 ∧ BlocksAlike (RunAlike (Rearranged registry P)) f.2 f'.2

def BuildAlikeFields (registry : Registry) (P : List (Data × Data) → List (Data × Data) → Prop)
    (v v' : Data) : Prop :=
  ∀ ⦃owner owner' fs fs'⦄, (fieldList registry owner v).result = .ok fs →
    (fieldList registry owner' v').result = .ok fs' →
    FieldsAlike (RunAlike (Rearranged registry P)) fs fs'

def BuildAlikeAll (registry : Registry) (P : List (Data × Data) → List (Data × Data) → Prop)
    (ds ds' : List Data) : Prop :=
  ∀ ⦃i j fs fs'⦄, (fieldsFrom registry i ds).result = .ok fs →
    (fieldsFrom registry j ds').result = .ok fs' →
    FieldsAlike (RunAlike (Rearranged registry P)) fs fs'

theorem buildAlike_mapping
    (agree : ∀ key, key ≠ "group" → key ≠ "fields" → get es key = get es' key) (paired : P es es')
    (hfields : BuildAlikeFields registry P (get es "fields") (get es' "fields")) :
    BuildAlike registry P (.mapping es) (.mapping es') := by
  intro i j f f' hf hf'
  obtain ⟨own, dependent, shown, cs, -, hown, hdependent, hcs, rfl⟩ := field_eq_ok hf
  obtain ⟨own', dependent', shown', cs', -, hown', hdependent', hcs', rfl⟩ := field_eq_ok hf'
  have hname : get es "name" = get es' "name" := agree _ (by decide) (by decide)
  have hrules : get es "rules" = get es' "rules" := agree _ (by decide) (by decide)
  have hchain : get es "dependent" = get es' "dependent" := agree _ (by decide) (by decide)
  have heach : get es "each" = get es' "each" := agree _ (by decide) (by decide)
  have hoptional : get es "optional" = get es' "optional" := agree _ (by decide) (by decide)
  rw [← hname, ← hrules] at hown'
  rw [← hname, ← hchain] at hdependent'
  obtain rfl := Except.ok.inj (hown.symm.trans hown')
  obtain rfl := Except.ok.inj (hdependent.symm.trans hdependent')
  rw [childFields_eq] at hcs hcs'
  have hR := congruence_rearranged registry P
  have helement := alike_chained_grouped paired hown hdependent (spell_of_fieldList hcs)
    (spell_of_fieldList hcs') (hfields hcs hcs')
  refine ⟨hname, ?_⟩
  rw [Configuration.block, Configuration.block, ← heach, ← hoptional]
  exact (helement.each hR _).optional hR _

theorem buildAlikeFields_null : BuildAlikeFields registry P .null .null := by
  intro owner owner' fs fs' hfs hfs'
  cases hfs
  cases hfs'
  exact .nil

theorem buildAlikeAll_nil : BuildAlikeAll registry P [] [] := by
  intro i j fs fs' hfs hfs'
  cases hfs
  cases hfs'
  exact .nil

theorem buildAlikeAll_cons {d d' : Data} {ds ds' : List Data} (head : BuildAlike registry P d d')
    (tail : BuildAlikeAll registry P ds ds') :
    BuildAlikeAll registry P (d :: ds) (d' :: ds') := by
  intro i j fs fs' hfs hfs'
  obtain ⟨f, hf, hfs⟩ := Traced.result_bind_eq_ok.mp hfs
  obtain ⟨rest, hrest, hfs⟩ := Traced.result_bind_eq_ok.mp hfs
  obtain ⟨f', hf', hfs'⟩ := Traced.result_bind_eq_ok.mp hfs'
  obtain ⟨rest', hrest', hfs'⟩ := Traced.result_bind_eq_ok.mp hfs'
  cases hfs
  cases hfs'
  exact .cons (head hf hf') (tail hrest hrest')

mutual

/-- Definitions that differ in labels alone build blocks that find alike things. -/
theorem Regrouped.buildAlike {d d' : Data} (h : Regrouped P d d') : BuildAlike registry P d d' :=
  match h with
  | .mapping agree fields paired => buildAlike_mapping agree paired fields.buildAlike

theorem RegroupedFields.buildAlike {v v' : Data} (h : RegroupedFields P v v') :
    BuildAlikeFields registry P v v' :=
  match h with
  | .null => buildAlikeFields_null
  | .list definitions => fun _ _ _ _ hfs hfs' => definitions.buildAlike hfs hfs'

theorem RegroupedAll.buildAlike {ds ds' : List Data} (h : RegroupedAll P ds ds') :
    BuildAlikeAll registry P ds ds' :=
  match h with
  | .nil => buildAlikeAll_nil
  | .cons head tail => buildAlikeAll_cons head.buildAlike tail.buildAlike

end

theorem RegroupedFields.buildAlike_listed {v v' : Data} (h : RegroupedFields P v v') :
    BuildAlikeAll registry P (Reading.listed v) (Reading.listed v') := by
  cases h with
  | null => exact buildAlikeAll_nil
  | list definitions => exact definitions.buildAlike

theorem rule_unique {owner owner' e : Data} {r r' : Rule} (h : rule registry owner e = .ok r)
    (h' : rule registry owner' e = .ok r') : r = r' := by
  obtain ⟨es, base, rfl, hbase, -, hr⟩ := rule_eq_ok h
  obtain ⟨es', base', he, hbase', -, hr'⟩ := rule_eq_ok h'
  cases he
  obtain rfl := Option.some.inj (hbase.symm.trans hbase')
  exact Except.ok.inj (hr.symm.trans hr')

theorem rules_unique {owner owner' entries : Data} {rs rs' : List Rule}
    (h : rules registry owner entries = .ok rs) (h' : rules registry owner' entries = .ok rs') :
    rs = rs' := by
  replace h := rules_eq_ok h
  replace h' := rules_eq_ok h'
  generalize Reading.listed entries = listed at h h'
  induction listed generalizing rs rs' with
  | nil => cases h; cases h'; rfl
  | cons e rest ih =>
    rw [List.mapM_cons] at h h'
    obtain ⟨r, hr, h⟩ := Traced.except_bind_eq_ok.mp h
    obtain ⟨ts, hts, h⟩ := Traced.except_bind_eq_ok.mp h
    obtain ⟨r', hr', h'⟩ := Traced.except_bind_eq_ok.mp h'
    obtain ⟨ts', hts', h'⟩ := Traced.except_bind_eq_ok.mp h'
    cases h
    cases h'
    rw [rule_unique hr hr', ih hts hts']

theorem runAlike_issues {options options' : Arguments} {w w' : Validator}
    (h : RegroupedOptions P options options') (hw : (build registry options).result = .ok w)
    (hw' : (build registry options').result = .ok w') (target : Data) :
    RunAlike (Rearranged registry P) (Validator.issues w.checks target)
      (Validator.issues w'.checks target) := by
  obtain ⟨owner, rs, fs, hrs, hfs, hbuilt⟩ := build_eq_ok hw
  obtain ⟨owner', rs', fs', hrs', hfs', hbuilt'⟩ := build_eq_ok hw'
  have hroot : options.getD "root" .null = options'.getD "root" .null := by
    rw [Arguments.getD, Arguments.getD, h.agree "root" (by decide)]
  rw [← hroot] at hrs'
  obtain rfl := rules_unique hrs hrs'
  have hfields := h.fields.buildAlike_listed hfs hfs'
  have hR := congruence_rearranged registry P
  rw [Validator.issues_eq_runAll hbuilt, Validator.issues_eq_runAll hbuilt',
    Declaration.visitsAll_append, Declaration.visitsAll_append]
  exact hR.runAll_append (hR.refl _) (hfields.runAll_visitsAll hR target)

/-- Two configurations that differ in the labels of field definitions alone. Their validators
complete on the same values. What they find is the same up to the groups of what the rules of fields
find, and up to its place: the rules of a field come behind its chain where the field has a label,
and before it where it has none. Without a field for which this makes a difference, the paths,
messages and codes are equal in order. -/
theorem validate_regrouped {options options' : Arguments} {w w' : Validator}
    (h : RegroupedOptions P options options') (hw : (build registry options).result = .ok w)
    (hw' : (build registry options').result = .ok w') (target : Data) :
    (∀ x, (w.validate target).result = .ok x →
      ∃ y, (w'.validate target).result = .ok y ∧ Rearranged registry P x.issues y.issues ∧
        (x.issues.map Issue.ungrouped).Perm (y.issues.map Issue.ungrouped) ∧
        ((∀ es es', P es es' → KeepsOrder es es') →
          x.issues.map Issue.ungrouped = y.issues.map Issue.ungrouped)) ∧
      ∀ y, (w'.validate target).result = .ok y → ∃ x, (w.validate target).result = .ok x := by
  have halike := runAlike_issues h hw hw' target
  constructor
  · intro x hx
    obtain ⟨is, his, rfl⟩ := Validator.result_validate_eq_ok.mp hx
    obtain ⟨js, hjs, hrearranged⟩ := halike.forth is his
    refine ⟨_, Validator.result_validate_eq_ok.mpr ⟨js, hjs, rfl⟩, ?_⟩
    rw [Verdict.issues_of, Verdict.issues_of]
    exact ⟨hrearranged, hrearranged.perm, fun hP => hrearranged.map_ungrouped_eq hP⟩
  · intro y hy
    obtain ⟨js, hjs, rfl⟩ := Validator.result_validate_eq_ok.mp hy
    obtain ⟨is, his⟩ := halike.back js hjs
    exact ⟨_, Validator.result_validate_eq_ok.mpr ⟨is, his, rfl⟩⟩

theorem get_cons_text (name key : String) (v : Data) (rest : List (Data × Data)) :
    get ((.text name, v) :: rest) key = if name = key then v else get rest key := by
  rw [get_cons]
  exact if_congr beq_iff_eq rfl rfl

/-- A labelled field with a rule and a dependent entry, both of which refuse a blank text. -/
def codeEntries (label : Data) : List (Data × Data) :=
  [(.text "name", .text "code"), (.text "group", label),
    (.text "rules", .list [.mapping [(.text "type", .text "not_blank")]]),
    (.text "dependent", .list [.mapping [(.text "type", .text "numeric")]])]

def codeOptions (label : Data) : Arguments := [("fields", .list [.mapping (codeEntries label)])]

def codeTarget : Data := .mapping [(.text "code", .text " ")]

theorem regroupedOptions_code {label label' : Data}
    (h : P (codeEntries label) (codeEntries label')) :
    RegroupedOptions P (codeOptions label) (codeOptions label') where
  agree name hname := by
    have hne : (name == "fields") = false := beq_eq_false_iff_ne.mpr hname
    simp only [codeOptions, Arguments.get?, List.lookup_cons, List.lookup_nil, hne]
  fields := by
    refine .list (.cons (.mapping ?_ .null h) .nil)
    intro key hgroup hfields
    simp only [codeEntries, get_cons_text, if_neg hgroup.symm]

/-- Another label changes nothing but the group of what the rule finds. -/
theorem validate_codeTarget_relabelled : ∃ w w' x y,
    (build .builtin (codeOptions (.text "ids"))).result = .ok w ∧
      (build .builtin (codeOptions (.text "codes"))).result = .ok w' ∧
      (w.validate codeTarget).result = .ok x ∧ (w'.validate codeTarget).result = .ok y ∧
      x.issues.map (fun i => (i.code, i.group)) =
        [(.text "numeric", .null), (.text "not_blank", .text "ids")] ∧
      y.issues.map (fun i => (i.code, i.group)) =
        [(.text "numeric", .null), (.text "not_blank", .text "codes")] ∧
      x.issues.map Issue.ungrouped = y.issues.map Issue.ungrouped := by
  obtain ⟨w, hw⟩ : ∃ w, (build .builtin (codeOptions (.text "ids"))).result = .ok w := ⟨_, rfl⟩
  obtain ⟨w', hw'⟩ : ∃ w, (build .builtin (codeOptions (.text "codes"))).result = .ok w := ⟨_, rfl⟩
  have hrelabelled : RegroupedOptions KeepsOrder (codeOptions (.text "ids"))
      (codeOptions (.text "codes")) := regroupedOptions_code (.inl rfl)
  have hvalidate := validate_regrouped hrelabelled hw hw' codeTarget
  obtain ⟨x, hx, hxs⟩ : ∃ x, (w.validate codeTarget).result = .ok x ∧
      x.issues.map (fun i => (i.code, i.group)) =
        [(.text "numeric", .null), (.text "not_blank", .text "ids")] := by
    cases hw
    exact ⟨_, rfl, rfl⟩
  obtain ⟨y, hy, hys⟩ : ∃ y, (w'.validate codeTarget).result = .ok y ∧
      y.issues.map (fun i => (i.code, i.group)) =
        [(.text "numeric", .null), (.text "not_blank", .text "codes")] := by
    cases hw'
    exact ⟨_, rfl, rfl⟩
  obtain ⟨z, hz, -, -, hsame⟩ := hvalidate.1 x hx
  obtain rfl : y = z := Except.ok.inj (hy.symm.trans hz)
  exact ⟨w, w', x, y, hw, hw', hx, hy, hxs, hys, hsame fun _ _ h => h⟩

/-- A label where there was none puts what the chain finds first. -/
theorem validate_codeTarget_labelled : ∃ w w' x y,
    RegroupedOptions (fun _ _ => True) (codeOptions .null) (codeOptions (.text "ids")) ∧
      (build .builtin (codeOptions .null)).result = .ok w ∧
      (build .builtin (codeOptions (.text "ids"))).result = .ok w' ∧
      (w.validate codeTarget).result = .ok x ∧ (w'.validate codeTarget).result = .ok y ∧
      x.issues.map (fun i => (i.code, i.group)) =
        [(.text "not_blank", .null), (.text "numeric", .null)] ∧
      y.issues.map (fun i => (i.code, i.group)) =
        [(.text "numeric", .null), (.text "not_blank", .text "ids")] ∧
      x.issues.map Issue.ungrouped ≠ y.issues.map Issue.ungrouped := by
  refine ⟨_, _, _, _, regroupedOptions_code trivial, rfl, rfl, rfl, rfl, rfl, rfl, fun h => ?_⟩
  have hcodes : [Data.text "not_blank", .text "numeric"] = [.text "numeric", .text "not_blank"] :=
    congrArg (List.map Issue.code) h
  simp at hcodes

end Configuration

end Assay
