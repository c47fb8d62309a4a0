import Assay.Proofs.Configuration.Faults

/-! # Acceptance of configurations

A configuration is accepted exactly when everything in it has the right form:
lists where lists are expected, mappings in them, a name for every field, and
for every rule entry a registered check that takes its parameters. Any other
configuration is refused as such, unless something in it cannot be written.
-/

namespace Assay

namespace Configuration

variable {registry : Registry} {options : Arguments} {es : List (Data × Data)} {w w' : Validator}

/-- The entry has a type that is, in lower case, the name of a registered check, and the check takes
the parameters of the entry. -/
def Makes (registry : Registry) (es : List (Data × Data)) : Prop :=
  (get es "type").isTrue ∧ ∃ kind c as r, (get es "type").spell = .ok kind ∧
    registry.find? (.text (Text.lower kind)) = some c ∧
    Arguments.ofEntries (es.filter fun e => !e.1.isAmong entryKeys) = .ok as ∧ c as = .ok r

/-- The value is null or a list, and every item is a mapping with the property. -/
def Lists (P : List (Data × Data) → Prop) (v : Data) : Prop :=
  IsOptionalList v ∧ ∀ e ∈ Reading.listed v, ∃ es, e = .mapping es ∧ P es

/-- What a configuration has to be for a validator to be built from it. -/
structure Acceptable (registry : Registry) (options : Arguments) : Prop where
  name : (options.getD "name" defaultName).isSpellable
  entries : ∀ v, EntryList options v → Lists (Makes registry) v
  definitions : ∀ v, FieldList options v → Lists (fun es => (get es "name").isTrue) v

/-- The name of the validator or the type of a rule entry cannot be written. -/
def HasUnwritable (options : Arguments) : Prop :=
  ¬ (options.getD "name" defaultName).isSpellable ∨
    ∃ es, Demands options es ∧ ¬ (get es "type").isSpellable

/-- The constructors of the registry give rules or refuse their arguments. -/
def Refuses (registry : Registry) : Prop :=
  ∀ key c, registry.find? key = some c → ∀ as, FailsOnly (c as) Fault.IsRefusal

/-- An entry that has the right form can be built. -/
theorem rule_of_makes (h : Makes registry es) (owner : Data) :
    ∃ r, rule registry owner (.mapping es) = .ok r := by
  obtain ⟨htype, kind, c, as, r, hkind, hc, has, hr⟩ := h
  have hcheck : checkOf registry (Text.lower kind) owner = .ok c := by rw [checkOf, hc]
  have hmade : (do c (← Arguments.ofEntries (es.filter fun e => !e.1.isAmong entryKeys))) = .ok r :=
    Traced.except_bind_eq_ok.mpr ⟨as, has, hr⟩
  have hconstruct : construct c (Text.lower kind) owner
      (es.filter fun e => !e.1.isAmong entryKeys) = .ok r := by rw [construct, hmade]
  cases hforbidding : forbidding es r with
  | ok r' =>
    refine ⟨r', ?_⟩
    unfold rule
    dsimp only
    rw [if_pos htype]
    exact Traced.except_bind_eq_ok.mpr ⟨kind, hkind, Traced.except_bind_eq_ok.mpr
      ⟨c, hcheck, Traced.except_bind_eq_ok.mpr ⟨r, hconstruct, hforbidding⟩⟩⟩
  | error f => exact (failsOnly_forbidding (Q := fun _ => False) es r f hforbidding).elim

theorem makes_of_rule {owner e : Data} {r : Rule} (h : rule registry owner e = .ok r) :
    ∃ es, e = .mapping es ∧ Makes registry es := by
  unfold rule at h
  split at h
  · next es =>
    split at h
    · next htype =>
      obtain ⟨kind, hkind, h⟩ := Traced.except_bind_eq_ok.mp h
      obtain ⟨c, hc, h⟩ := Traced.except_bind_eq_ok.mp h
      obtain ⟨base, hbase, -⟩ := Traced.except_bind_eq_ok.mp h
      obtain ⟨as, has, hr⟩ := construct_eq_ok hbase
      exact ⟨es, rfl, htype, kind, c, as, base, hkind, checkOf_eq_ok hc, has, hr⟩
    · cases h
  · cases h

theorem family_of_rule_eq_error (hregistry : Refuses registry) {owner e : Data} {f : Fault}
    (h : rule registry owner e = .error f) :
    f.family = .configuration ∨
      f = .numberTooLong ∧ ∃ es, e = .mapping es ∧ ¬ (get es "type").isSpellable := by
  refine failsOnly_rule (Q := fun f => f.family = .configuration ∨
    f = .numberTooLong ∧ ∃ es, e = .mapping es ∧ ¬ (get es "type").isSpellable)
    (fun f hf => .inl hf) (fun es hes f hf => .inr ?_) (fun es kind c as _ _ hc _ => ?_) f h
  · obtain ⟨rfl, hspellable⟩ := Data.spell_eq_error.mp hf
    exact ⟨rfl, es, hes, hspellable⟩
  · exact (hregistry _ c hc as).mono fun f hf => .inl hf

theorem Defines.exists_list (h : Defines options es) :
    ∃ v, FieldList options v ∧ .mapping es ∈ Reading.listed v := by
  cases h with
  | top listed => exact ⟨_, .top, listed⟩
  | inner defined listed => exact ⟨_, .inner defined, listed⟩

theorem Acceptable.named (h : Acceptable registry options) (defined : Defines options es) :
    (get es "name").isTrue := by
  obtain ⟨v, hv, listed⟩ := defined.exists_list
  obtain ⟨es', hes, hname⟩ := (h.definitions v hv).2 _ listed
  cases hes
  exact hname

/-- The names of fields are texts, or count as false. -/
def HasTextNames (options : Arguments) : Prop :=
  ∀ es, Defines options es → (get es "name").isText ∨ ¬ (get es "name").isTrue

theorem isText_name (h : HasTextNames options) (defined : Defines options es)
    (named : (get es "name").isTrue) : (get es "name").isText :=
  (h es defined).resolve_right (not_not_intro named)

theorem refused_of_mistake (hnames : HasTextNames options) (hregistry : Refuses registry)
    {f : Fault} (h : Mistake registry options f) :
    ¬ Acceptable registry options ∧
      (f.family = .configuration ∨ f = .numberTooLong ∧ HasUnwritable options) := by
  cases h with
  | name fault =>
    obtain ⟨rfl, hspellable⟩ := Data.spell_eq_error.mp fault
    exact ⟨fun hacc => hspellable hacc.name, .inr ⟨rfl, .inl hspellable⟩⟩
  | list place other =>
    refine ⟨fun hacc => other ?_, .inl rfl⟩
    exact place.elim (fun place => (hacc.definitions _ place).1) fun place =>
      (hacc.entries _ place).1
  | @entry v owner e f place listed fault =>
    refine ⟨fun hacc => ?_, ?_⟩
    · obtain ⟨es, rfl, hmakes⟩ := (hacc.entries v place).2 e listed
      obtain ⟨r, hr⟩ := rule_of_makes hmakes owner
      cases hr.symm.trans fault
    · refine (family_of_rule_eq_error hregistry fault).imp_right fun ⟨hf, es, hes, htype⟩ => ?_
      exact ⟨hf, .inr ⟨es, place.demands (hes ▸ listed), htype⟩⟩
  | @definition v d index place listed other =>
    refine ⟨fun hacc => ?_, .inl rfl⟩
    obtain ⟨es, hes, -⟩ := (hacc.definitions v place).2 d listed
    exact other es hes
  | unnamed defined unnamed => exact ⟨fun hacc => unnamed (hacc.named defined), .inl rfl⟩
  | field defined named fault =>
    obtain ⟨-, hspellable⟩ := Data.spell_eq_error.mp fault
    exact absurd (Data.isSpellable_of_isText (isText_name hnames defined named)) hspellable
  | path listed named fault =>
    have hp := Validator.fieldPath_of_isText (isText_name hnames (.top listed) named)
    cases hp.symm.trans fault

theorem isOptionalList_of_items {v : Data} {owner : String} {vs : List Data}
    (h : items v owner = .ok vs) : IsOptionalList v := by
  unfold items at h
  split at h
  · exact .inl rfl
  · exact .inr rfl
  · cases h

theorem lists_of_rules {owner v : Data} {rs : List Rule} (h : rules registry owner v = .ok rs) :
    Lists (Makes registry) v := by
  obtain ⟨shown, -, h⟩ := Traced.except_bind_eq_ok.mp h
  obtain ⟨vs, hvs, h⟩ := Traced.except_bind_eq_ok.mp h
  refine ⟨isOptionalList_of_items hvs, fun e he => ?_⟩
  rw [← items_eq_ok hvs] at he
  obtain ⟨r, hr⟩ := Traced.exists_of_except_mapM_eq_ok h e he
  exact makes_of_rule hr

theorem lists_of_chain {owner v : Data} {c : Option Rule} (h : chain registry owner v = .ok c) :
    Lists (Makes registry) v := by
  obtain ⟨shown, -, h⟩ := Traced.except_bind_eq_ok.mp h
  obtain ⟨vs, hvs, h⟩ := Traced.except_bind_eq_ok.mp h
  refine ⟨isOptionalList_of_items hvs, fun e he => ?_⟩
  rw [← items_eq_ok hvs] at he
  obtain ⟨c', c'', he⟩ := Traced.exists_of_except_foldlM_eq_ok h e he
  obtain ⟨r, hr, -⟩ := Traced.except_bind_eq_ok.mp he
  exact makes_of_rule hr

theorem field_of_fieldsFrom {ds : List Data} {index : Nat} {fs : List (Data × List Step)}
    (h : (fieldsFrom registry index ds).result = .ok fs) :
    ∀ d ∈ ds, ∃ i f, (field registry i d).result = .ok f := by
  induction ds generalizing index fs with
  | nil => simp
  | cons d rest ih =>
    obtain ⟨f, hf, h⟩ := Traced.result_bind_eq_ok.mp h
    obtain ⟨fs, hfs, -⟩ := Traced.result_bind_eq_ok.mp h
    exact List.forall_mem_cons.mpr ⟨⟨index, f, hf⟩, ih hfs⟩

theorem mapping_of_field {d : Data} {index : Nat} {f : Data × List Step}
    (h : (field registry index d).result = .ok f) :
    ∃ es, d = .mapping es ∧ (get es "name").isTrue := by
  cases d with
  | mapping es => exact ⟨es, rfl, isTrue_name_of_field h⟩
  | _ => cases h

theorem fieldList_eq_ok {owner : String} {v : Data} {fs : List (Data × List Step)}
    (h : (fieldList registry owner v).result = .ok fs) :
    IsOptionalList v ∧ ∀ d ∈ Reading.listed v, ∃ i f, (field registry i d).result = .ok f := by
  cases v with
  | null => exact ⟨.inl rfl, nofun⟩
  | list ds => exact ⟨.inr rfl, field_of_fieldsFrom h⟩
  | _ => cases h

theorem lists_of_fields {v : Data} (hlist : IsOptionalList v)
    (h : ∀ d ∈ Reading.listed v, ∃ i f, (field registry i d).result = .ok f) :
    Lists (fun es => (get es "name").isTrue) v := by
  refine ⟨hlist, fun d hd => ?_⟩
  obtain ⟨i, f, hf⟩ := h d hd
  exact mapping_of_field hf

theorem lists_of_field {index : Nat} {f : Data × List Step}
    (h : (field registry index (.mapping es)).result = .ok f) :
    Lists (Makes registry) (get es "rules") ∧ Lists (Makes registry) (get es "dependent") ∧
      Lists (fun es => (get es "name").isTrue) (get es "fields") := by
  obtain ⟨own, dependent, shown, children, -, hown, hdependent, hchildren, -⟩ := field_eq_ok h
  rw [childFields_eq] at hchildren
  obtain ⟨hlist, hfields⟩ := fieldList_eq_ok hchildren
  exact ⟨lists_of_rules hown, lists_of_chain hdependent, lists_of_fields hlist hfields⟩

/-- Where a validator is built, every field definition is built. -/
theorem field_of_defines (h : (build registry options).result = .ok w)
    (defined : Defines options es) :
    ∃ i f, (field registry i (.mapping es)).result = .ok f := by
  induction defined with
  | top listed =>
    obtain ⟨owner, rs, fs, -, hfs, -⟩ := build_eq_ok h
    exact field_of_fieldsFrom hfs _ listed
  | inner defined listed ih =>
    obtain ⟨i, f, hf⟩ := ih
    obtain ⟨own, dependent, shown, children, -, -, -, hchildren, -⟩ := field_eq_ok hf
    rw [childFields_eq] at hchildren
    exact (fieldList_eq_ok hchildren).2 _ listed

theorem acceptable_of_build (h : (build registry options).result = .ok w) :
    Acceptable registry options := by
  obtain ⟨shown, rs, w₀, ds, hname, hrs, -, hds, -⟩ := build_stages h
  refine ⟨(Data.spell_eq_ok.mp hname).1, fun v hv => ?_, fun v hv => ?_⟩
  · cases hv with
    | root => exact lists_of_rules hrs
    | rules defined =>
      obtain ⟨i, f, hf⟩ := field_of_defines h defined
      exact (lists_of_field hf).1
    | dependent defined =>
      obtain ⟨i, f, hf⟩ := field_of_defines h defined
      exact (lists_of_field hf).2.1
  · cases hv with
    | top =>
      obtain ⟨owner, rs, fs, -, hfs, -⟩ := build_eq_ok h
      exact lists_of_fields (isOptionalList_of_items hds) (field_of_fieldsFrom hfs)
    | inner defined =>
      obtain ⟨i, f, hf⟩ := field_of_defines h defined
      exact (lists_of_field hf).2.2

theorem labels_of_register {label : Data} {r : Rule}
    (h : (w.register label r).result = .ok w') : w'.labels = w.labels ++ [label] := by
  rw [Validator.result_register] at h
  obtain ⟨_, -, h⟩ := Traced.except_bind_eq_ok.mp h
  cases h
  rfl

theorem labels_of_declareRoot {rs : List Rule} (h : (declareRoot w rs).result = .ok w') :
    w'.labels = w.labels ++ (if rs.isEmpty then [] else [.text ""]) := by
  unfold declareRoot at h
  split at h
  · next hrs => cases h; rw [if_pos hrs, List.append_nil]
  · next hrs => rw [if_neg hrs]; exact labels_of_register h

theorem labels_of_declareFields {ds : List Data} {index : Nat}
    (h : (declareFields registry w index ds).result = .ok w') :
    w'.labels = w.labels ++ ds.map Reading.name := by
  induction ds generalizing w index with
  | nil => cases h; rw [List.map_nil, List.append_nil]
  | cons d rest ih =>
    obtain ⟨⟨name, steps⟩, hf, h⟩ := Traced.result_bind_eq_ok.mp h
    obtain ⟨x, hx, h⟩ := Traced.result_bind_eq_ok.mp h
    obtain ⟨_, -, hx⟩ := Traced.result_bind_eq_ok.mp hx
    obtain ⟨_, -, hx⟩ := Traced.result_bind_eq_ok.mp hx
    obtain ⟨hname, -⟩ := name_of_field hf
    rw [ih h, labels_of_register hx, List.map_cons, ← hname, List.append_assoc]
    rfl

theorem isEmpty_of_rules {owner v : Data} {rs : List Rule} (h : rules registry owner v = .ok rs) :
    rs.isEmpty = (Reading.listed v).isEmpty := by
  have hrs := rules_eq_ok h
  cases hv : Reading.listed v with
  | nil => rw [hv] at hrs; cases hrs; rfl
  | cons e rest =>
    rw [hv, List.mapM_cons] at hrs
    obtain ⟨r, -, hrs⟩ := Traced.except_bind_eq_ok.mp hrs
    obtain ⟨rs, -, hrs⟩ := Traced.except_bind_eq_ok.mp hrs
    cases hrs
    rfl

theorem labels_of_build (h : (build registry options).result = .ok w) :
    w.labels = (if (Reading.listed (options.getD "root" .null)).isEmpty then [] else [.text ""]) ++
      (Reading.listed (options.getD "fields" .null)).map Reading.name := by
  obtain ⟨shown, rs, w₀, ds, -, hrs, hw₀, hds, hw⟩ := build_stages h
  rw [labels_of_declareFields hw, labels_of_declareRoot hw₀, isEmpty_of_rules hrs, items_eq_ok hds]
  rfl

/-- For a registry whose constructors give rules or refuse their arguments, a configuration is made
into a validator exactly when everything in it, at every depth, has the right form. Otherwise it is
refused as a configuration, unless its name or the type of one of its entries is too long to be
written, which ends with a fault of its own. A validator has the label of the whole value if there
are entries for it, and then the names of the fields. -/
theorem build_accepts_iff (hself : ∀ o ∈ options, o.1 ≠ "self") (htexts : HasTextKeys options)
    (hnames : HasTextNames options) (hregistry : Refuses registry) :
    ((∃ w, (build registry options).result = .ok w) ↔ Acceptable registry options) ∧
    (∀ f, (build registry options).result = .error f →
      f.family = .configuration ∨ f = .numberTooLong ∧ HasUnwritable options) ∧
    ∀ w, (build registry options).result = .ok w → w.labels =
      (if (Reading.listed (options.getD "root" .null)).isEmpty then [] else [.text ""]) ++
        (Reading.listed (options.getD "fields" .null)).map Reading.name := by
  have hrefused : FailsOnly (build registry options).result fun f =>
      ¬ Acceptable registry options ∧
        (f.family = .configuration ∨ f = .numberTooLong ∧ HasUnwritable options) :=
    (failsOnly_build registry hself htexts).mono fun f => refused_of_mistake hnames hregistry
  refine ⟨⟨fun ⟨w, hw⟩ => acceptable_of_build hw, fun hacc => ?_⟩, fun f hf => (hrefused f hf).2,
    fun w hw => labels_of_build hw⟩
  cases hresult : (build registry options).result with
  | ok w => exact ⟨w, rfl⟩
  | error f => exact absurd hacc (hrefused f hresult).1

theorem refuses_refusing (key : String) : Refuses (refusing key) := by
  intro k c hc as
  obtain rfl : c = Check.custom (.text "must be even") .null fun _ => pure false := by
    unfold Registry.find? refusing at hc
    obtain ⟨e, he, rfl⟩ := Option.map_eq_some_iff.mp hc
    rw [List.mem_singleton.mp (List.mem_of_find?_eq_some he)]
  have hQ : ∀ f : Fault, f.IsRefusal → f.IsRefusal := fun _ => id
  exact (Check.failsOnly_expect hQ as _ _).bind fun _ => Check.failsOnly_make hQ _ _ _ _

def sampleYears (rules : Data) : List (Data × Data) :=
  [(.text "name", .text "years"), (.text "rules", rules)]

def sampleAge (rules : Data) : List (Data × Data) :=
  [(.text "name", .text "age"), (.text "fields", .list [.mapping (sampleYears rules)])]

def sampleNested (rules : Data) : Arguments :=
  [("root", .list [.mapping [(.text "type", .text "EVEN")]]),
    ("fields", .list [.mapping (sampleAge rules)])]

theorem eq_of_defines_sampleNested {rules : Data} (h : Defines (sampleNested rules) es) :
    es = sampleAge rules ∨ es = sampleYears rules := by
  induction h with
  | top listed =>
    have := List.mem_singleton.mp listed
    cases this
    exact .inl rfl
  | inner defined listed ih =>
    obtain rfl | rfl := ih
    · have := List.mem_singleton.mp listed
      cases this
      exact .inr rfl
    · cases listed

theorem build_sampleNested_accepts_iff :
    (∃ w, (build (refusing "even") (sampleNested .null)).result = .ok w ∧
      w.labels = [.text "", .text "age"] ∧ Acceptable (refusing "even") (sampleNested .null)) ∧
    ∃ f, (build (refusing "even") (sampleNested (.text "even"))).result = .error f ∧
      f.family = .configuration ∧ ¬ Acceptable (refusing "even") (sampleNested (.text "even")) := by
  have htexts : ∀ rules, HasTextKeys (sampleNested rules) := by
    intro rules es hes
    obtain rfl | rfl := eq_of_defines_sampleNested hes <;>
      simp [sampleAge, sampleYears, Data.isText]
  have hnames : ∀ rules, HasTextNames (sampleNested rules) := by
    intro rules es hes
    obtain rfl | rfl := eq_of_defines_sampleNested hes <;> exact .inl rfl
  obtain ⟨hiff, -, hlabels⟩ := build_accepts_iff (by simp [sampleNested]) (htexts .null)
    (hnames .null) (refuses_refusing "even")
  obtain ⟨hiff', hrefused, -⟩ := build_accepts_iff (by simp [sampleNested]) (htexts (.text "even"))
    (hnames (.text "even")) (refuses_refusing "even")
  refine ⟨⟨_, rfl, hlabels _ rfl, hiff.mp ⟨_, rfl⟩⟩, _, rfl, ?_, fun hacc => ?_⟩
  · exact (hrefused _ rfl).elim id fun h => nomatch h.1
  · obtain ⟨w, hw⟩ := hiff'.mpr hacc
    cases hw

theorem result_build_of_not_isSpellable {v : Data} (htrue : v.isTrue) (hv : ¬ v.isSpellable) :
    (build registry [("root", .list [.mapping [(.text "type", v)]])]).result =
      .error .numberTooLong := by
  have htype : get [(.text "type", v)] "type" = v := rfl
  have hspell : v.spell = .error .numberTooLong := if_neg hv
  rw [result_build_entry, rule]
  dsimp only
  rw [htype, if_pos htrue, hspell]
  rfl

/-- Options with one entry, whose type is a number with more digits than can be written. -/
def unwritableType : Arguments :=
  [("root", .list [.mapping [(.text "type", .int (16 ^ 3600 - 1))]])]

/-- A type that cannot be written is no mistake of the configuration, although no check is
registered under it, and everything else about the configuration is in order. -/
theorem build_unwritableType_not_configuration :
    Refuses (refusing "even") ∧ HasTextKeys unwritableType ∧ HasTextNames unwritableType ∧
      ∃ f, (build (refusing "even") unwritableType).result = .error f ∧
        f.family ≠ .configuration := by
  have hnone : ∀ es, ¬ Defines unwritableType es := by
    intro es h
    induction h with
    | top listed => cases listed
    | inner _ _ ih => exact ih
  refine ⟨refuses_refusing "even", fun es h => (hnone es h).elim, fun es h => (hnone es h).elim,
    .numberTooLong, ?_, nofun⟩
  exact result_build_of_not_isSpellable (by decide +kernel) (by decide +kernel)

end Configuration

end Assay
