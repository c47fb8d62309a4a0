import Assay.Proofs.Configuration.Refinement

/-! # Data that a configuration does not declare

A validator built from a configuration reads of a mapping what its definitions
name, and of a value without rules no more than its shape. Targets that agree in
that much are told apart neither by what is found on them nor by a fault.
-/

namespace Assay

open Visit

def Data.entries? : Data → Option (List (Data × Data))
  | .mapping es | .view es => some es
  | _ => none

theorem Data.isNull_of_entries {v : Data} {es : List (Data × Data)} (h : v.entries? = some es) :
    v.isNull = false := by
  cases v with
  | null => cases h
  | _ => rfl

theorem Data.field_of_entries {v : Data} {es : List (Data × Data)} (h : v.entries? = some es)
    (name : Data) : Data.field name v = (do
      name.hashable
      pure ((lookup? name es).getD .null)) := by
  cases v with
  | mapping fs => cases h; rfl
  | view fs => cases h; rfl
  | _ => cases h

namespace Configuration

variable {registry : Registry}

/-- The definition neither has rules nor a chain. -/
structure Ruleless (es : List (Data × Data)) : Prop where
  rules : Reading.listed (get es "rules") = []
  dependent : Reading.listed (get es "dependent") = []

mutual

/-- Values of a field that agree in what its definition looks at. -/
inductive Agree : Data → Data → Data → Prop
  | same (definition v : Data) : Agree definition v v
  | whole {es : List (Data × Data)} {v v' : Data} (ruleless : Ruleless es)
      (single : (get es "each").isTrue = false)
      (fields : AgreeWithin (Reading.listed (get es "fields")) v v') :
      Agree (.mapping es) v v'
  | items {es : List (Data × Data)} {vs vs' : List Data} (ruleless : Ruleless es)
      (each : (get es "each").isTrue) (length : vs.length = vs'.length)
      (fields : ∀ (i : Nat) (u u' : Data), vs[i]? = some u → vs'[i]? = some u' →
        AgreeWithin (Reading.listed (get es "fields")) u u') :
      Agree (.mapping es) (.list vs) (.list vs')

/-- Mappings that agree in what is read of them by the names of the definitions. -/
inductive AgreeWithin : List Data → Data → Data → Prop
  | same (ds : List Data) (v : Data) : AgreeWithin ds v v
  | mappings {ds : List Data} {v v' : Data} {es es' : List (Data × Data)}
      (entries : v.entries? = some es) (entries' : v'.entries? = some es')
      (fields : ∀ d ∈ ds, ∀ u u', Data.field (Reading.name d) v = .ok u →
        Data.field (Reading.name d) v' = .ok u' → Agree d u u') :
      AgreeWithin ds v v'

end

theorem AgreeWithin.isNull_eq {ds : List Data} {v v' : Data} (h : AgreeWithin ds v v') :
    v.isNull = v'.isNull := by
  cases h with
  | same => rfl
  | mappings entries entries' _ =>
    rw [Data.isNull_of_entries entries, Data.isNull_of_entries entries']

/-- A key that holds nothing may be left out, and so may one that no definition names. -/
theorem AgreeWithin.of_entry {ds : List Data} {key x v v' : Data}
    {before after : List (Data × Data)} (hv : v.entries? = some (before ++ (key, x) :: after))
    (hv' : v'.entries? = some (before ++ after))
    (h : ∀ d ∈ ds, (Reading.name d).eq key →
      x = .null ∧ ∀ e ∈ before ++ after, ¬ (Reading.name d).eq e.1) : AgreeWithin ds v v' := by
  refine .mappings hv hv' fun d hd u u' hu hu' => ?_
  rw [Data.field_of_entries hv] at hu
  rw [Data.field_of_entries hv'] at hu'
  have hsame : (Data.lookup? (Reading.name d) (before ++ (key, x) :: after)).getD .null =
      (Data.lookup? (Reading.name d) (before ++ after)).getD .null := by
    cases hkey : (Reading.name d).eq key with
    | true =>
      obtain ⟨rfl, hother⟩ := h d hd hkey
      have hnone : (before ++ after).find? (fun e => (Reading.name d).eq e.1) = none :=
        List.find?_eq_none.mpr hother
      have hbefore : before.find? (fun e => (Reading.name d).eq e.1) = none :=
        List.find?_eq_none.mpr fun e he => hother e (List.mem_append_left _ he)
      rw [Data.lookup?, Data.lookup?, hnone, List.find?_append, hbefore, List.find?_cons, hkey]
      rfl
    | false =>
      rw [Data.lookup?, Data.lookup?, List.find?_append, List.find?_append, List.find?_cons, hkey]
  obtain ⟨_, -, hu⟩ := Traced.except_bind_eq_ok.mp hu
  obtain ⟨_, -, hu'⟩ := Traced.except_bind_eq_ok.mp hu'
  cases hu
  cases hu'
  rw [hsame]
  exact .same _ _

theorem finds_ruleless {es : List (Data × Data)} {children : List (Data × List Step)}
    (hnamed : ∀ c ∈ children, ∃ s, c.1.spell = .ok s) :
    Finds (block es [] none children) fun path v =>
      Reading.value es path v fun p u =>
        runAll (Step.innerAll (fieldSteps children) p .null u) := by
  refine Finds.optional (Finds.each (fun path v => ?_) _) _
  rw [runAll_chained_grouped _ _ hnamed]
  split <;> simp

theorem elements_congr {reading : Path → Data → Run (List Issue)} {vs vs' : List Data}
    (hlength : vs.length = vs'.length)
    (h : ∀ (i : Nat) (u u' : Data), vs[i]? = some u → vs'[i]? = some u' →
      ∀ path, reading path u = reading path u') (path : Path) (position : Nat) :
    Reading.elements path position reading vs = Reading.elements path position reading vs' := by
  induction vs generalizing vs' position with
  | nil => cases List.eq_nil_of_length_eq_zero hlength.symm; rfl
  | cons v rest ih =>
    obtain ⟨v', rest', rfl⟩ := List.exists_cons_of_length_eq_add_one hlength.symm
    rw [Reading.elements, Reading.elements, h 0 v v' rfl rfl,
      ih (Nat.succ.inj hlength) fun i u u' hu hu' => h (i + 1) u u' hu hu']

theorem fieldsFrom_of_childFields {es : List (Data × Data)} {owner : String}
    {fs : List (Data × List Step)} (h : (childFields registry owner es).result = .ok fs) :
    (fieldsFrom registry 0 (Reading.listed (get es "fields"))).result = .ok fs := by
  rw [childFields_eq] at h
  cases hw : get es "fields" with
  | null => rw [hw] at h; exact h
  | list ds => rw [hw] at h; exact h
  | _ => rw [hw] at h; cases h

theorem finds_field_of_ruleless {es : List (Data × Data)} (hes : Ruleless es) {index : Nat}
    {f : Data × List Step} (hf : (field registry index (.mapping es)).result = .ok f) :
    ∃ fs, (fieldsFrom registry 0 (Reading.listed (get es "fields"))).result = .ok fs ∧
      Finds f.2 fun path v => Reading.value es path v fun p u =>
        runAll (Step.innerAll (fieldSteps fs) p .null u) := by
  obtain ⟨own, dependent, shown, children, -, hown, hchain, hchildren, rfl⟩ := field_eq_ok hf
  have hfs := fieldsFrom_of_childFields hchildren
  have hown := rules_eq_ok hown
  have hchain := chain_eq_ok hchain
  rw [hes.rules] at hown
  rw [hes.dependent] at hchain
  cases hown
  cases hchain
  exact ⟨children, hfs, finds_ruleless (spell_of_fieldsFrom hfs)⟩

/-- A field of the definition finds the same on both values. -/
def FindsSame (registry : Registry) (d v v' : Data) : Prop :=
  ∀ ⦃index f⦄, (field registry index d).result = .ok f → ∀ path,
    runAll (Step.visits f.2 path .null v) = runAll (Step.visits f.2 path .null v')

def FindSameWithin (registry : Registry) (ds : List Data) (v v' : Data) : Prop :=
  ∀ ⦃index fs⦄, (fieldsFrom registry index ds).result = .ok fs → ∀ path label,
    runAll (Step.innerAll (fieldSteps fs) path label v) =
      runAll (Step.innerAll (fieldSteps fs) path label v')

theorem findsSame_whole {es : List (Data × Data)} {v v' : Data} (hes : Ruleless es)
    (hsingle : (get es "each").isTrue = false) (hnull : v.isNull = v'.isNull)
    (h : FindSameWithin registry (Reading.listed (get es "fields")) v v') :
    FindsSame registry (.mapping es) v v' := by
  intro index f hf path
  obtain ⟨fs, hfs, hfinds⟩ := finds_field_of_ruleless hes hf
  rw [hfinds path, hfinds path]
  simp only [Reading.value, hsingle, Bool.false_eq_true, if_false, hnull, h hfs path .null]

theorem findsSame_items {es : List (Data × Data)} {vs vs' : List Data} (hes : Ruleless es)
    (heach : (get es "each").isTrue) (hlength : vs.length = vs'.length)
    (h : ∀ (i : Nat) (u u' : Data), vs[i]? = some u → vs'[i]? = some u' →
      FindSameWithin registry (Reading.listed (get es "fields")) u u') :
    FindsSame registry (.mapping es) (.list vs) (.list vs') := by
  intro index f hf path
  obtain ⟨fs, hfs, hfinds⟩ := finds_field_of_ruleless hes hf
  rw [hfinds path, hfinds path]
  simp only [Reading.value, heach, Data.isNull, Data.items, Bool.and_false, Bool.false_eq_true,
    if_true, if_false, Traced.ofExcept_ok, pure_bind]
  exact elements_congr hlength (fun i u u' hu hu' path => h i u u' hu hu' hfs path .null) path 0

theorem runAll_ofRead_congr {d v v' : Data} {es es' : List (Data × Data)}
    (hv : v.entries? = some es) (hv' : v'.entries? = some es')
    (h : ∀ u u', Data.field (Reading.name d) v = .ok u →
      Data.field (Reading.name d) v' = .ok u' → FindsSame registry d u u') {index : Nat}
    {f : Data × List Step} (hf : (field registry index d).result = .ok f) (path : Path) :
    runAll (ofRead (some v) (Traced.ofExcept (Data.field f.1 v)) (Step.visits f.2 path .null)) =
      runAll (ofRead (some v') (Traced.ofExcept (Data.field f.1 v'))
        (Step.visits f.2 path .null)) := by
  rw [runAll_ofRead, runAll_ofRead, (name_of_field hf).1]
  -- a key that cannot be looked up is refused by both mappings alike
  rw [Data.field_of_entries hv, Data.field_of_entries hv'] at h ⊢
  cases hkey : (Reading.name d).hashable with
  | error e => rfl
  | ok _ =>
    rw [hkey] at h
    exact h _ _ rfl rfl hf path

section

variable {ds : List Data} {v v' : Data} {es es' : List (Data × Data)}
  (hv : v.entries? = some es) (hv' : v'.entries? = some es')
  (h : ∀ d ∈ ds, ∀ u u', Data.field (Reading.name d) v = .ok u →
    Data.field (Reading.name d) v' = .ok u' → FindsSame registry d u u')

include hv hv' h

theorem findSameWithin_mappings : FindSameWithin registry ds v v' := by
  intro index fs hfs path label
  induction ds generalizing index fs with
  | nil => cases hfs; rfl
  | cons d rest ih =>
    obtain ⟨f, hf, hfs⟩ := Traced.result_bind_eq_ok.mp hfs
    obtain ⟨fs, hrest, hfs⟩ := Traced.result_bind_eq_ok.mp hfs
    cases hfs
    obtain ⟨hd, hds⟩ := List.forall_mem_cons.mp h
    rw [fieldSteps, List.map_cons, Step.innerAll, Step.innerAll, runAll_append, runAll_append,
      ← fieldSteps, ih hds hrest]
    exact congrArg (· >>= _) (runAll_ofRead_congr hv hv' hd hf (path.child f.1))

/-- So do declared fields, at the paths that they have in a validator. -/
theorem runAll_fieldDeclarations_congr {index : Nat} {fs : List (Data × List Step)}
    (hfs : (fieldsFrom registry index ds).result = .ok fs) :
    runAll (Declaration.visitsAll (fieldDeclarations fs) v) =
      runAll (Declaration.visitsAll (fieldDeclarations fs) v') := by
  induction ds generalizing index fs with
  | nil => cases hfs; rfl
  | cons d rest ih =>
    obtain ⟨f, hf, hfs⟩ := Traced.result_bind_eq_ok.mp hfs
    obtain ⟨fs, hrest, hfs⟩ := Traced.result_bind_eq_ok.mp hfs
    cases hfs
    obtain ⟨hd, hds⟩ := List.forall_mem_cons.mp h
    rw [fieldDeclarations, List.map_cons, Declaration.visitsAll, Declaration.visitsAll,
      runAll_append, runAll_append, ← fieldDeclarations, ih hds hrest]
    congr 1
    cases hpath : Validator.fieldPath f.1 with
    | error e => simp only [Declaration.visits, hpath]
    | ok path =>
      simp only [Declaration.visits, hpath]
      exact runAll_ofRead_congr hv hv' hd hf path

end

mutual

theorem Agree.findsSame {d v v' : Data} (h : Agree d v v') : FindsSame registry d v v' :=
  match h with
  | .same _ _ => fun _ _ _ _ => rfl
  | .whole ruleless single fields =>
    findsSame_whole ruleless single fields.isNull_eq fields.findSameWithin
  | .items ruleless each length fields =>
    findsSame_items ruleless each length fun i u u' hu hu' =>
      (fields i u u' hu hu').findSameWithin

theorem AgreeWithin.findSameWithin {ds : List Data} {v v' : Data} (h : AgreeWithin ds v v') :
    FindSameWithin registry ds v v' :=
  match h with
  | .same _ _ => fun _ _ _ _ _ => rfl
  | .mappings entries entries' fields =>
    findSameWithin_mappings entries entries' fun d hd u u' hu hu' =>
      (fields d hd u u' hu hu').findsSame

end

/-- The checks of a validator that is built from a configuration without rules for the whole value
find the same on targets that agree in what the configuration declares: the same issues in the same
order, or the same fault. Mappings agree, at any depth, when one of them has a key more that no
definition names, or that one does name and that holds null. -/
theorem validate_eq_of_agree {options : Arguments} {w : Validator}
    (h : (build registry options).result = .ok w)
    (hroot : Reading.listed (options.getD "root" .null) = []) :
    (∀ t t', AgreeWithin (Reading.listed (options.getD "fields" .null)) t t' →
      (do pure (← w.validate t).issues) = (do pure (← w.validate t').issues)) ∧
    ∀ (ds : List Data) (v v' key x : Data) (before after : List (Data × Data)),
      v.entries? = some (before ++ (key, x) :: after) → v'.entries? = some (before ++ after) →
      (∀ d ∈ ds, (Reading.name d).eq key →
        x = .null ∧ ∀ e ∈ before ++ after, ¬ (Reading.name d).eq e.1) →
      AgreeWithin ds v v' := by
  refine ⟨fun t t' hagree => ?_, fun _ _ _ _ _ _ _ => AgreeWithin.of_entry⟩
  obtain ⟨owner, rs, fs, hrs, hfs, hw⟩ := build_eq_ok h
  have hrs := rules_eq_ok hrs
  rw [hroot] at hrs
  cases hrs
  simp only [Validator.validate_eq, bind_assoc, pure_bind, Verdict.issues_of, bind_pure,
    Validator.issues_eq_runAll hw]
  change runAll (Declaration.visitsAll (fieldDeclarations fs) t) =
    runAll (Declaration.visitsAll (fieldDeclarations fs) t')
  cases hagree with
  | same => rfl
  | mappings entries entries' fields =>
    exact runAll_fieldDeclarations_congr entries entries'
      (fun d hd u u' hu hu' => (fields d hd u u' hu hu').findsSame) hfs

def userOptions : Arguments :=
  [("fields", .list
    [.mapping [(.text "name", .text "user"), (.text "fields", .list [.mapping
      [(.text "name", .text "name"),
        (.text "rules", .list [.mapping [(.text "type", .text "not_blank")]])]])],
    .mapping [(.text "name", .text "tags"), (.text "each", .bool true),
      (.text "fields", .list [.mapping
        [(.text "name", .text "key"),
          (.text "rules", .list [.mapping [(.text "type", .text "required")]])]])]])]

def userTarget (user tag : List (Data × Data)) : Data :=
  .mapping [(.text "user", .mapping user), (.text "tags", .list [.mapping tag])]

/-- The age of the user is not declared, and the key of the tag holds null or is absent. -/
theorem validate_userTarget_eq : ∃ w x, (build .builtin userOptions).result = .ok w ∧
    (w.validate (userTarget [(.text "name", .text " ")] [])).result = .ok x ∧
    x.issues.map Issue.code = [.text "not_blank", .text "required"] ∧
    (do pure (← w.validate (userTarget
      [(.text "name", .text " "), (.text "age", .int 7)] [(.text "key", .null)])).issues) =
      (do pure (← w.validate (userTarget [(.text "name", .text " ")] [])).issues) := by
  obtain ⟨w, hw⟩ : ∃ w, (build .builtin userOptions).result = .ok w := ⟨_, rfl⟩
  obtain ⟨hagree, hentry⟩ := validate_eq_of_agree hw rfl
  obtain ⟨x, hx, hcodes⟩ :
      ∃ x, (w.validate (userTarget [(.text "name", .text " ")] [])).result = .ok x ∧
        x.issues.map Issue.code = [.text "not_blank", .text "required"] := by
    cases hw
    exact ⟨_, rfl, rfl⟩
  refine ⟨w, x, hw, hx, hcodes, hagree _ _ (.mappings rfl rfl fun d hd u u' hu hu' => ?_)⟩
  rcases List.mem_pair.mp hd with rfl | rfl
  · obtain rfl := Except.ok.inj hu
    obtain rfl := Except.ok.inj hu'
    refine .whole ⟨rfl, rfl⟩ rfl (hentry _ _ _ (.text "age") (.int 7) [_] [] rfl rfl ?_)
    intro d hd hkey
    obtain rfl := List.mem_singleton.mp hd
    cases hkey
  · obtain rfl := Except.ok.inj hu
    obtain rfl := Except.ok.inj hu'
    refine .items ⟨rfl, rfl⟩ rfl rfl fun i u u' hi hi' => ?_
    obtain rfl : i = 0 := Nat.lt_one_iff.mp (List.getElem?_eq_some_iff.mp hi).1
    obtain rfl := Option.some.inj hi
    obtain rfl := Option.some.inj hi'
    exact hentry _ _ _ (.text "key") .null [] [] rfl rfl fun _ _ _ => ⟨rfl, by simp⟩

end Configuration

end Assay
