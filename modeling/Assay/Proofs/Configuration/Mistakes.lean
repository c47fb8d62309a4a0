import Assay.Proofs.Checks.Faults
import Assay.Proofs.Configuration.Fields
import Assay.Proofs.Registry
import Assay.Proofs.Sorting.Texts

/-! # Mistakes in configurations

Building the validator of a configuration fails for one of a few reasons, each
of which is tied to the place in the configuration that causes it: a name that
cannot be written or is no path, what should be a list or a mapping, a field
without a name, or a rule entry without a rule.
-/

namespace Assay

theorem FailsOnly.spell_text {Q : Fault → Prop} (s : String) : FailsOnly (Data.text s).spell Q :=
  FailsOnly.ok s

namespace Configuration

variable {α β : Type} {Q : Fault → Prop} {registry : Registry} {options : Arguments}
  {es : List (Data × Data)}

/-- The mapping with these entries is a field definition of the configuration, at any depth. -/
inductive Defines (options : Arguments) : List (Data × Data) → Prop
  | top {es : List (Data × Data)}
      (listed : .mapping es ∈ Reading.listed (options.getD "fields" .null)) : Defines options es
  | inner {es es' : List (Data × Data)} (defined : Defines options es)
      (listed : .mapping es' ∈ Reading.listed (get es "fields")) : Defines options es'

/-- The mapping with these entries is a rule entry of the configuration. -/
inductive Demands (options : Arguments) : List (Data × Data) → Prop
  | root {es : List (Data × Data)}
      (listed : .mapping es ∈ Reading.listed (options.getD "root" .null)) : Demands options es
  | rule {ds es : List (Data × Data)} (defined : Defines options ds)
      (listed : .mapping es ∈ Reading.listed (get ds "rules")) : Demands options es
  | dependent {ds es : List (Data × Data)} (defined : Defines options ds)
      (listed : .mapping es ∈ Reading.listed (get ds "dependent")) : Demands options es

inductive FieldList (options : Arguments) : Data → Prop
  | top : FieldList options (options.getD "fields" .null)
  | inner {es : List (Data × Data)} (defined : Defines options es) :
      FieldList options (get es "fields")

inductive EntryList (options : Arguments) : Data → Prop
  | root : EntryList options (options.getD "root" .null)
  | rules {es : List (Data × Data)} (defined : Defines options es) :
      EntryList options (get es "rules")
  | dependent {es : List (Data × Data)} (defined : Defines options es) :
      EntryList options (get es "dependent")

theorem FieldList.defines {v : Data} (h : FieldList options v)
    (listed : .mapping es ∈ Reading.listed v) : Defines options es := by
  cases h with
  | top => exact .top listed
  | inner defined => exact .inner defined listed

theorem EntryList.demands {v : Data} (h : EntryList options v)
    (listed : .mapping es ∈ Reading.listed v) : Demands options es := by
  cases h with
  | root => exact .root listed
  | rules defined => exact .rule defined listed
  | dependent defined => exact .dependent defined listed

def HasTextKeys (options : Arguments) : Prop :=
  ∀ es, Defines options es → ∀ e ∈ es, e.1.isText

def IsOptionalList (v : Data) : Prop := v = .null ∨ v = .list (Reading.listed v)

/-- The faults with which building a validator can end, and what they are due to. -/
inductive Mistake (registry : Registry) (options : Arguments) : Fault → Prop
  /-- The name of the validator cannot be written. -/
  | name {f : Fault} (fault : (options.getD "name" defaultName).spell = .error f) :
      Mistake registry options f
  | list {v : Data} {owner kind : String} (place : FieldList options v ∨ EntryList options v)
      (other : ¬ IsOptionalList v) : Mistake registry options (.notList owner kind)
  | entry {v owner e : Data} {f : Fault} (place : EntryList options v)
      (listed : e ∈ Reading.listed v) (fault : rule registry owner e = .error f) :
      Mistake registry options f
  | definition {v d : Data} {index : Nat} (place : FieldList options v)
      (listed : d ∈ Reading.listed v) (other : ∀ es, d ≠ .mapping es) :
      Mistake registry options (.fieldNotMapping index d)
  | unnamed {es : List (Data × Data)} {index : Nat} {keys : List Data}
      (defined : Defines options es) (unnamed : ¬ (get es "name").isTrue) :
      Mistake registry options (.fieldUnnamed index keys)
  /-- The name of a field cannot be written. -/
  | field {es : List (Data × Data)} {f : Fault} (defined : Defines options es)
      (named : (get es "name").isTrue) (fault : (get es "name").spell = .error f) :
      Mistake registry options f
  /-- The name of a field of the value itself is no segment of a path. -/
  | path {es : List (Data × Data)} {f : Fault}
      (listed : .mapping es ∈ Reading.listed (options.getD "fields" .null))
      (named : (get es "name").isTrue) (fault : Validator.fieldPath (get es "name") = .error f) :
      Mistake registry options f

theorem failsOnly_ofEntries (params : List (Data × Data)) :
    FailsOnly (Arguments.ofEntries params) Fault.IsRefusal := by
  refine .mapM fun e _ => ?_
  split
  · exact .ok _
  · exact .error (.inl rfl)

theorem failsOnly_construct {c : Check} {kind : String} {owner : Data}
    {params : List (Data × Data)}
    (h : ∀ as, Arguments.ofEntries params = .ok as → FailsOnly (c as) fun f => f.IsRefusal ∨ Q f) :
    FailsOnly (construct c kind owner params) fun f => f.family = .configuration ∨ Q f := by
  have hmade : FailsOnly (do c (← Arguments.ofEntries params)) fun f => f.IsRefusal ∨ Q f :=
    ((failsOnly_ofEntries params).mono fun _ => .inl).bind_of_ok h
  unfold construct
  split
  · exact .ok _
  · next f hf =>
    refine .ite (fun _ => .error (.inl rfl)) fun hcaught => .error (.inr ?_)
    refine (hmade f hf).resolve_left fun hrefusal => hcaught ?_
    simpa [Fault.IsRefusal] using hrefusal

theorem failsOnly_checkOf (registry : Registry) (kind : String) (owner : Data) :
    FailsOnly (checkOf registry kind owner) fun f => f.family = .configuration := by
  unfold checkOf
  split
  · exact .ok _
  · exact .error rfl

theorem failsOnly_forbidding (es : List (Data × Data)) (r : Rule) :
    FailsOnly (forbidding es r) Q := by
  unfold forbidding Rule.forbid Issue.make
  dsimp only
  cases hforbidden : (get es "forbidden").isTrue with
  | true => exact .ok _
  | false => exact .ok _

theorem failsOnly_rule {owner e : Data} (hQ : ∀ f : Fault, f.family = .configuration → Q f)
    (htype : ∀ es, e = .mapping es → FailsOnly (get es "type").spell Q)
    (hcheck : ∀ es kind c as, e = .mapping es → (get es "type").spell = .ok kind →
      registry.find? (.text (Text.lower kind)) = some c →
      Arguments.ofEntries (es.filter fun e => !e.1.isAmong entryKeys) = .ok as →
      FailsOnly (c as) fun f => f.IsRefusal ∨ Q f) : FailsOnly (rule registry owner e) Q := by
  unfold rule
  split
  · next es =>
    refine .ite (fun _ => ?_) fun _ => .error (hQ _ rfl)
    refine (htype es rfl).bind_of_ok fun kind hkind => ?_
    refine ((failsOnly_checkOf _ _ _).mono hQ).bind_of_ok fun c hc => ?_
    refine FailsOnly.bind ?_ fun r => failsOnly_forbidding es r
    refine (failsOnly_construct fun as has => ?_).mono fun f hf => hf.elim (hQ f) id
    exact hcheck es kind c as rfl hkind (checkOf_eq_ok hc) has
  · exact .error (hQ _ rfl)

theorem failsOnly_items {v : Data} {owner : String}
    (place : FieldList options v ∨ EntryList options v) :
    FailsOnly (items v owner) (Mistake registry options) := by
  unfold items
  split
  · exact .ok _
  · exact .ok _
  · next hnull hlist =>
    refine .error (.list place ?_)
    rintro (h | h)
    · exact hnull h
    · exact hlist _ h

theorem failsOnly_rules {owner entries : Data}
    (howner : FailsOnly owner.spell (Mistake registry options))
    (place : EntryList options entries) :
    FailsOnly (rules registry owner entries) (Mistake registry options) := by
  refine howner.bind fun shown => (failsOnly_items (.inr place)).bind_of_ok fun vs hvs => ?_
  refine .mapM fun e he f hf => .entry place ?_ hf
  rwa [← items_eq_ok hvs]

theorem failsOnly_chain {owner entries : Data}
    (howner : FailsOnly owner.spell (Mistake registry options))
    (place : EntryList options entries) :
    FailsOnly (chain registry owner entries) (Mistake registry options) := by
  refine howner.bind fun shown => (failsOnly_items (.inr place)).bind_of_ok fun vs hvs => ?_
  refine .foldlM _ fun c e he => FailsOnly.bind (fun f hf => .entry place ?_ hf) fun r => .ok _
  rwa [← items_eq_ok hvs]

theorem failsOnly_of_sort {vs : List Data} {g : List Data → Except Fault β}
    (hvs : ∀ v ∈ vs, v.isText) (hg : ∀ ws, (∀ w ∈ ws, w.isText) → FailsOnly (g ws) Q) :
    FailsOnly (Data.sort vs >>= g) Q := by
  rw [Data.sort_of_isText hvs]
  exact hg _ fun w hw => hvs w ((List.mem_insertionSort _).mp hw)

theorem isText_keys (h : ∀ e ∈ es, e.1.isText) : ∀ v ∈ es.map Prod.fst, v.isText := by
  intro v hv
  obtain ⟨e, he, rfl⟩ := List.mem_map.mp hv
  exact h e he

theorem failsOnly_fieldName (index : Nat) (h : ∀ e ∈ es, e.1.isText)
    (defined : Defines options es) :
    FailsOnly (fieldName index es) (Mistake registry options) := by
  unfold fieldName
  refine .ite (fun _ => .ok _) fun hname => ?_
  exact failsOnly_of_sort (isText_keys h) fun _ _ => .error (.unnamed defined hname)

/-- Keys without a meaning are texts, which can be put in order and written. -/
theorem failsOnly_reportUnknown {name : Data} (hname : FailsOnly name.spell Q)
    (h : ∀ e ∈ es, e.1.isText) : FailsOnly (reportUnknown name es).result Q := by
  have hunknown : ∀ v ∈ (es.map Prod.fst).filter fun k => !k.isAmong fieldKeys, v.isText :=
    fun v hv => isText_keys h v (List.mem_of_mem_filter hv)
  unfold reportUnknown
  dsimp only
  split
  · refine FailsOnly.result_bind hname fun shown _ => ?_
    rw [Traced.result_bind]
    refine failsOnly_of_sort hunknown fun ws hws => ?_
    refine FailsOnly.result_bind ?_ fun listed _ => .ok _
    have hspellable : (Data.list ws).isSpellable := Data.areSpellable_of_isText hws
    change FailsOnly (Data.list ws).write Q
    rw [Data.write, if_pos hspellable]
    exact .ok _
  · exact .ok _

mutual

theorem failsOnly_field (htexts : HasTextKeys options) (definition : Data) (index : Nat) {v : Data}
    (place : FieldList options v) (listed : definition ∈ Reading.listed v) :
    FailsOnly (field registry index definition).result (Mistake registry options) := by
  cases definition with
  | mapping es =>
    have hdefined := place.defines listed
    have hkeys := htexts es hdefined
    refine FailsOnly.result_bind (failsOnly_fieldName index hkeys hdefined) fun name hname => ?_
    obtain ⟨hnamed, rfl⟩ := fieldName_eq_ok hname
    have hspell : FailsOnly (get es "name").spell (Mistake registry options) :=
      fun f hf => .field hdefined hnamed hf
    refine FailsOnly.result_bind (failsOnly_reportUnknown hspell hkeys) fun _ _ => ?_
    refine FailsOnly.result_bind (failsOnly_rules hspell (.rules hdefined)) fun own _ => ?_
    refine FailsOnly.result_bind (failsOnly_chain hspell (.dependent hdefined))
      fun dependent _ => ?_
    refine FailsOnly.result_bind hspell fun shown _ => ?_
    refine FailsOnly.result_bind ?_ fun children _ => .ok _
    exact failsOnly_childFields htexts es _ (.inner hdefined)
  | _ => exact .error (.definition place listed nofun)
termination_by structural definition

theorem failsOnly_childFields (htexts : HasTextKeys options) (entries : List (Data × Data))
    (owner : String) (place : FieldList options (get entries "fields")) :
    FailsOnly (childFields registry owner entries).result (Mistake registry options) := by
  cases entries with
  | nil => exact .ok _
  | cons e rest =>
    obtain ⟨key, v⟩ := e
    rw [get_cons] at place
    unfold childFields
    split at place
    · next hkey =>
      rw [if_pos hkey]
      exact failsOnly_fieldList htexts v owner place
    · next hkey =>
      rw [if_neg hkey]
      exact failsOnly_childFields htexts rest owner place
termination_by structural entries

theorem failsOnly_fieldList (htexts : HasTextKeys options) (v : Data) (owner : String)
    (place : FieldList options v) :
    FailsOnly (fieldList registry owner v).result (Mistake registry options) := by
  cases v with
  | null => exact .ok _
  | list ds => exact failsOnly_fieldsFrom htexts ds 0 place fun _ hd => hd
  | _ => exact .error (.list (.inl place) (by rintro (h | h) <;> cases h))
termination_by structural v

theorem failsOnly_fieldsFrom (htexts : HasTextKeys options) (ds : List Data) (index : Nat)
    {v : Data} (place : FieldList options v) (h : ∀ d ∈ ds, d ∈ Reading.listed v) :
    FailsOnly (fieldsFrom registry index ds).result (Mistake registry options) := by
  cases ds with
  | nil => exact .ok _
  | cons d rest =>
    obtain ⟨hd, hrest⟩ := List.forall_mem_cons.mp h
    refine FailsOnly.result_bind (failsOnly_field htexts d index place hd) fun f _ => ?_
    exact FailsOnly.result_bind (failsOnly_fieldsFrom htexts rest _ place hrest) fun fs _ => .ok _
termination_by structural ds

end

theorem failsOnly_apply {d : Declaration} {w : Validator} (h : FailsOnly (d.made w.name) Q) :
    FailsOnly (d.apply w).result Q ∧ ∀ w', (d.apply w).result = .ok w' → w'.name = w.name := by
  obtain ⟨w', hw', happly⟩ := d.fills w
  rw [happly]
  refine ⟨h.bind fun _ => .ok _, fun x hx => ?_⟩
  obtain ⟨_, -, hx⟩ := Traced.except_bind_eq_ok.mp hx
  cases hx
  exact hw'.name

theorem failsOnly_ensureShown {owner label : Data} (howner : owner.isSpellable)
    (hlabel : FailsOnly label.spell Q) : FailsOnly (Declaration.ensureShown owner label) Q := by
  have hwrite : FailsOnly owner.write Q := by
    rw [Data.write, if_pos howner]
    exact .ok _
  unfold Declaration.ensureShown
  dsimp only
  split
  · exact hlabel.bind fun _ => hwrite.bind fun _ => .ok _
  · exact hwrite.bind fun _ => .ok _

theorem failsOnly_declareRoot {w : Validator} (hw : w.name.isSpellable) (rs : List Rule) :
    FailsOnly (declareRoot w rs).result Q ∧
      ∀ w', (declareRoot w rs).result = .ok w' → w'.name = w.name := by
  unfold declareRoot
  split
  · refine ⟨.ok _, fun w' h => ?_⟩
    cases h
    rfl
  · have hmade := failsOnly_ensureShown hw (Q := Q) (.spell_text "")
    exact failsOnly_apply (d := .root (rs.map attachment)) hmade

theorem failsOnly_declareFields (htexts : HasTextKeys options) {w : Validator}
    (hw : w.name.isSpellable) (ds : List Data) (index : Nat)
    (h : ∀ d ∈ ds, d ∈ Reading.listed (options.getD "fields" .null)) :
    FailsOnly (declareFields registry w index ds).result (Mistake registry options) := by
  induction ds generalizing w index with
  | nil => exact .ok _
  | cons d rest ih =>
    obtain ⟨hd, hrest⟩ := List.forall_mem_cons.mp h
    refine FailsOnly.result_bind (failsOnly_field htexts d index .top hd) fun f hf => ?_
    cases d with
    | mapping es =>
      have hnamed := isTrue_name_of_field hf
      obtain ⟨own, dependent, shown, children, -, -, -, -, rfl⟩ := field_eq_ok hf
      have hspell : FailsOnly (get es "name").spell (Mistake registry options) :=
        fun f hf => .field (.top hd) hnamed hf
      have hmade : FailsOnly ((Declaration.field (get es "name") none
          (block es own dependent children)).made w.name) (Mistake registry options) := by
        refine FailsOnly.bind (hspell.bind fun _ => .ok _) fun _ => ?_
        refine FailsOnly.bind (fun f hf => .path hd hnamed hf) fun _ => ?_
        exact failsOnly_ensureShown hw hspell
      obtain ⟨hdeclared, hname⟩ := failsOnly_apply hmade
      refine FailsOnly.result_bind hdeclared fun w' hw' => ?_
      exact ih (hname w' hw' ▸ hw) (index + 1) hrest
    | _ => cases hf

/-- Building a validator ends with one, or with a fault that is due to the configuration. -/
theorem failsOnly_build (registry : Registry) (hself : ∀ o ∈ options, o.1 ≠ "self")
    (htexts : HasTextKeys options) :
    FailsOnly (build registry options).result (Mistake registry options) := by
  have hnone : options.find? (fun o => o.1 == "self") = none :=
    List.find?_eq_none.mpr fun o ho => by simpa using hself o ho
  unfold build
  rw [hnone]
  refine FailsOnly.result_bind (fun f hf => .name hf) fun shown hshown => ?_
  refine FailsOnly.result_bind (.ok ()) fun _ _ => ?_
  refine FailsOnly.result_bind (failsOnly_rules (.spell_text _) .root) fun own _ => ?_
  -- Each declaration writes the name of the validator again, which has been written before.
  have hnamed : (options.getD "name" defaultName).isSpellable := (Data.spell_eq_ok.mp hshown).1
  obtain ⟨hroot, hname⟩ := failsOnly_declareRoot
    (w := .empty (options.getD "name" defaultName)) hnamed own
  refine FailsOnly.result_bind hroot fun w hw => ?_
  refine FailsOnly.result_bind (failsOnly_items (.inl .top)) fun ds hds => ?_
  refine failsOnly_declareFields htexts (hname w hw ▸ hnamed) ds 0 fun d hd => ?_
  rwa [← items_eq_ok hds]

end Configuration

end Assay
