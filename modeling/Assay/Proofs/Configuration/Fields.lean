import Assay.Proofs.Configuration.Rules

/-! # Fields of a configuration

The block of a field definition is built in layers. Each layer finds what the
reading of the field says about it, and the children of the field are settled
by induction on the definition.
-/

namespace Assay.Configuration

open Visit

variable {registry : Registry} {block : List Step} {rs : List Rule}
  {children : List (Data × List Step)}

def fieldSteps (children : List (Data × List Step)) : List Step :=
  children.map fun c => .field c.1 none c.2

theorem forM_made_attachments (rs : List Rule) : forM (rs.map attachment) Step.made = pure () := by
  refine Step.forM_made_of_forall fun t ht => ?_
  obtain ⟨r, -, rfl⟩ := List.mem_map.mp ht
  rfl

theorem sites_attachments (rs : List Rule) (path : Path) (label v : Data) :
    ((rs.map attachment).flatMap fun t => t.sites path label v) =
      rs.map (.ofRule path label v) := by
  rw [List.flatMap_map]
  exact List.flatMap_pure_eq_map _ rs

theorem innerAll_attachments (rs : List Rule) (path : Path) (label v : Data) :
    Step.innerAll (rs.map attachment) path label v = [] := by
  induction rs with
  | nil => rfl
  | cons r rest ih => rw [List.map_cons, Step.innerAll, ih]; rfl

theorem forM_made_fieldSteps (h : ∀ c ∈ children, ∃ s, c.1.spell = .ok s) :
    forM (fieldSteps children) Step.made = pure () := by
  refine Step.forM_made_of_forall fun t ht => ?_
  obtain ⟨c, hc, rfl⟩ := List.mem_map.mp ht
  obtain ⟨s, hs⟩ := h c hc
  simp only [Step.made, Step.ensureReadable, hs]
  rfl

theorem sites_fieldSteps (children : List (Data × List Step)) (path : Path) (label v : Data) :
    ((fieldSteps children).flatMap fun t => t.sites path label v) = [] := by
  rw [fieldSteps, List.flatMap_map]
  exact List.flatMap_eq_nil_iff.mpr fun _ _ => rfl

theorem runAll_visits_of_made (h : forM block Step.made = pure ()) (path : Path) (label v : Data) :
    runAll (Step.visits block path label v) = (do
      let is ← runAll ((block.flatMap fun t => t.sites path label v).map .check)
      let js ← runAll (Step.innerAll block path label v)
      pure (is ++ js)) := by
  rw [Step.visits, Step.around, runAll_declares_append, runAll_append, h, pure_bind]

theorem runAll_visits_singleton {t : Step} (hmade : t.made = pure ()) {path : Path} {label v : Data}
    (hsites : t.sites path label v = []) :
    runAll (Step.visits [t] path label v) = runAll (t.inner path label v) := by
  have h : forM [t] Step.made = pure () := by rw [List.forM_cons, hmade]; rfl
  rw [runAll_visits_of_made h, List.flatMap_singleton, hsites, Step.innerAll_singleton]
  simp

/-- The block finds, without a label, what the reading says. -/
def Finds (block : List Step) (reading : Path → Data → Run (List Issue)) : Prop :=
  ∀ path v, runAll (Step.visits block path .null v) = reading path v

variable {reading : Path → Data → Run (List Issue)}

theorem Finds.optional (h : Finds block reading) (flag : Data) :
    Finds (optional flag block) fun path v =>
      if flag.isTrue && v.isNull then pure [] else reading path v := by
  intro path v
  unfold Configuration.optional
  cases flag.isTrue with
  | false => exact h path v
  | true =>
    rw [if_pos rfl, runAll_visits_singleton rfl rfl, Step.inner]
    dsimp only
    rw [Bool.true_and]
    split
    · rfl
    · exact h path v

theorem runAll_elements (h : Finds block reading) (path : Path) (position : Nat) (vs : List Data) :
    runAll ((vs.zipIdx position).flatMap fun e =>
      Step.visits block (path.index e.2) .null e.1) =
        Reading.elements path position reading vs := by
  induction vs generalizing position with
  | nil => rfl
  | cons v rest ih =>
    rw [List.zipIdx_cons, List.flatMap_cons, runAll_append, ih, h, Reading.elements]

theorem Finds.each (h : Finds block reading) (flag : Data) :
    Finds (each flag block) fun path v =>
      if flag.isTrue then do
        let vs ← Traced.ofExcept v.items
        Reading.elements path 0 reading vs
      else reading path v := by
  intro path v
  unfold Configuration.each
  cases flag.isTrue with
  | false => exact h path v
  | true =>
    rw [if_pos rfl, runAll_visits_singleton rfl rfl]
    change runAll (ofItems v fun i u => Step.visits block (path.index i) .null u) = _
    rw [runAll_ofItems]
    exact bind_congr fun vs => runAll_elements h path 0 vs

theorem forM_made_element (hmade : ∀ c ∈ children, ∃ s, c.1.spell = .ok s) :
    forM (element rs children) Step.made = pure () := by
  rw [element, List.forM_append, forM_made_attachments, ← fieldSteps, forM_made_fieldSteps hmade]
  rfl

theorem sites_element (path : Path) (label v : Data) :
    ((element rs children).flatMap fun t => t.sites path label v) =
      rs.map (.ofRule path label v) := by
  rw [element, ← fieldSteps, List.flatMap_append, sites_attachments, sites_fieldSteps,
    List.append_nil]

theorem innerAll_element (path : Path) (label v : Data) :
    Step.innerAll (element rs children) path label v =
      Step.innerAll (fieldSteps children) path label v := by
  rw [element, ← fieldSteps, Step.innerAll_append, innerAll_attachments, List.nil_append]

theorem innerAll_fieldSteps (children : List (Data × List Step)) (path : Path) (label v : Data) :
    Step.innerAll (fieldSteps children) path label v =
      Step.innerAll (fieldSteps children) path .null v := by
  induction children with
  | nil => rfl
  | cons c rest ih => rw [fieldSteps, List.map_cons, Step.innerAll, ← fieldSteps, ih]; rfl

theorem runAll_chained_grouped (label : Data) (chain : Option Rule)
    (hmade : ∀ c ∈ children, ∃ s, c.1.spell = .ok s) (path : Path) (v : Data) :
    runAll (Step.visits (chained chain (grouped label (element rs children))) path .null v) =
      if label.isTrue then do
        let is ← runAll (chain.toList.map fun r => .check (.ofRule path .null v r))
        let js ← runAll (rs.map fun r => .check (.ofRule path (scopeLabel label) v r))
        let ks ← runAll (Step.innerAll (fieldSteps children) path .null v)
        pure (is ++ js ++ ks)
      else (do
        let is ← runAll (rs.map fun r => .check (.ofRule path (scopeLabel label) v r))
        let js ← runAll (chain.toList.map fun r => .check (.ofRule path .null v r))
        let ks ← runAll (Step.innerAll (fieldSteps children) path .null v)
        pure (is ++ js ++ ks)) := by
  have hattached : (chain.map attachment).toList = chain.toList.map attachment := by
    cases chain <;> rfl
  unfold chained grouped
  simp only [scopeLabel, hattached]
  cases label.isTrue with
  | true =>
    -- the chain is checked by the scope itself, the rules only by the group below it
    have h : forM ([.group label (element rs children)] ++ chain.toList.map attachment) Step.made =
        pure () := by
      rw [List.forM_append, forM_made_attachments]
      rfl
    have hinner : (Step.group label (element rs children)).inner path .null v =
        Step.visits (element rs children) path label v := rfl
    rw [if_pos rfl, if_pos rfl, if_pos rfl, runAll_visits_of_made h, List.flatMap_append,
      sites_attachments, Step.innerAll_append, innerAll_attachments, List.append_nil,
      Step.innerAll_singleton, hinner, runAll_visits_of_made (forM_made_element hmade),
      sites_element, innerAll_element, innerAll_fieldSteps]
    simp only [List.flatMap_singleton, Step.sites, List.nil_append, List.map_map,
      Function.comp_def, bind_assoc, pure_bind, List.append_assoc]
  | false =>
    have h : forM (element rs children ++ chain.toList.map attachment) Step.made = pure () := by
      rw [List.forM_append, forM_made_attachments, forM_made_element hmade]
      rfl
    rw [if_neg Bool.false_ne_true, if_neg Bool.false_ne_true, if_neg Bool.false_ne_true,
      runAll_visits_of_made h, List.flatMap_append, sites_attachments, sites_element,
      Step.innerAll_append, innerAll_element, innerAll_attachments, List.append_nil]
    simp only [List.map_append, List.map_map, Function.comp_def, runAll_append, bind_assoc,
      pure_bind, List.append_assoc]

theorem finds_chained_grouped {es : List (Data × Data)} {chain : Option Rule}
    (hmade : ∀ c ∈ children, ∃ s, c.1.spell = .ok s)
    (hrules : ∀ path v,
      runAll (rs.map fun r => .check (.ofRule path (scopeLabel (get es "group")) v r)) =
        Reading.rules registry path (get es "group") v (Reading.listed (get es "rules")))
    (hchain : ∀ path v, runAll (chain.toList.map fun r => .check (.ofRule path .null v r)) =
      Reading.dependent registry path v (Reading.listed (get es "dependent")))
    (hchildren : ∀ path label v,
      runAll (Step.innerAll (fieldSteps children) path label v) = reading path v) :
    Finds (chained chain (grouped (get es "group") (element rs children))) fun path v =>
      Reading.element registry es path v (reading path v) := by
  intro path v
  rw [runAll_chained_grouped _ _ hmade, hrules, hchain, hchildren]
  rfl

theorem eq_text_comm (key : Data) (name : String) :
    key.eq (.text name) = (Data.text name).eq key := by
  cases key with
  | text s => exact Bool.beq_comm
  | _ => rfl

theorem get_cons (key v : Data) (rest : List (Data × Data)) (name : String) :
    get ((key, v) :: rest) name = if key.eq (.text name) then v else get rest name := by
  rw [get, Data.lookup?, List.find?_cons, eq_text_comm]
  cases (Data.text name).eq key <;> rfl

theorem childFields_eq (registry : Registry) (owner : String) (es : List (Data × Data)) :
    childFields registry owner es = fieldList registry owner (get es "fields") := by
  induction es with
  | nil => rfl
  | cons e rest ih =>
    obtain ⟨key, v⟩ := e
    rw [childFields, get_cons, ih]
    split <;> rfl

theorem items_eq_ok {v : Data} {owner : String} {vs : List Data} (h : items v owner = .ok vs) :
    vs = Reading.listed v := by
  unfold items at h
  split at h <;> cases h <;> rfl

theorem rules_eq_ok {owner entries : Data} (h : rules registry owner entries = .ok rs) :
    (Reading.listed entries).mapM (rule registry owner) = .ok rs := by
  obtain ⟨shown, -, h⟩ := Traced.except_bind_eq_ok.mp h
  obtain ⟨vs, hvs, h⟩ := Traced.except_bind_eq_ok.mp h
  rwa [items_eq_ok hvs] at h

theorem chain_eq_ok {owner entries : Data} {o : Option Rule}
    (h : chain registry owner entries = .ok o) :
    (Reading.listed entries).foldlM
      (fun c e => do pure (Rule.append c (← rule registry owner e))) none = .ok o := by
  obtain ⟨shown, -, h⟩ := Traced.except_bind_eq_ok.mp h
  obtain ⟨vs, hvs, h⟩ := Traced.except_bind_eq_ok.mp h
  rwa [items_eq_ok hvs] at h

theorem fieldName_eq_ok {es : List (Data × Data)} {index : Nat} {name : Data}
    (h : fieldName index es = .ok name) : name.isTrue ∧ name = get es "name" := by
  unfold fieldName at h
  dsimp only at h
  split at h
  · next hname => cases h; exact ⟨hname, rfl⟩
  · obtain ⟨_, -, h⟩ := Traced.except_bind_eq_ok.mp h
    cases h

theorem field_eq_ok {es : List (Data × Data)} {index : Nat} {f : Data × List Step}
    (h : (field registry index (.mapping es)).result = .ok f) :
    ∃ own dependent shown children, (get es "name").spell = .ok shown ∧
      rules registry (get es "name") (get es "rules") = .ok own ∧
      chain registry (get es "name") (get es "dependent") = .ok dependent ∧
      (childFields registry (shown ++ ".fields") es).result = .ok children ∧
      f = (get es "name", Configuration.block es own dependent children) := by
  obtain ⟨name, hname, h⟩ := Traced.result_bind_eq_ok.mp h
  obtain ⟨-, -, h⟩ := Traced.result_bind_eq_ok.mp h
  obtain ⟨own, hown, h⟩ := Traced.result_bind_eq_ok.mp h
  obtain ⟨dependent, hdependent, h⟩ := Traced.result_bind_eq_ok.mp h
  obtain ⟨shown, hshown, h⟩ := Traced.result_bind_eq_ok.mp h
  obtain ⟨children, hchildren, h⟩ := Traced.result_bind_eq_ok.mp h
  cases h
  obtain ⟨-, rfl⟩ := fieldName_eq_ok hname
  exact ⟨own, dependent, shown, children, hshown, hown, hdependent, hchildren, rfl⟩

theorem isTrue_name_of_field {es : List (Data × Data)} {index : Nat} {f : Data × List Step}
    (h : (field registry index (.mapping es)).result = .ok f) : (get es "name").isTrue := by
  obtain ⟨name, hname, -⟩ := Traced.result_bind_eq_ok.mp h
  obtain ⟨hnamed, rfl⟩ := fieldName_eq_ok hname
  exact hnamed

theorem name_of_field {d : Data} {index : Nat} {f : Data × List Step}
    (h : (field registry index d).result = .ok f) :
    f.1 = Reading.name d ∧ ∃ s, f.1.spell = .ok s := by
  cases d with
  | mapping es =>
    obtain ⟨own, dependent, shown, children, hshown, -, -, -, rfl⟩ := field_eq_ok h
    exact ⟨rfl, shown, hshown⟩
  | _ => cases h

theorem spell_of_fieldsFrom {ds : List Data} {index : Nat} {fs : List (Data × List Step)}
    (h : (fieldsFrom registry index ds).result = .ok fs) :
    ∀ f ∈ fs, ∃ s, f.1.spell = .ok s := by
  induction ds generalizing index fs with
  | nil => cases h; simp
  | cons d rest ih =>
    obtain ⟨f, hf, h⟩ := Traced.result_bind_eq_ok.mp h
    obtain ⟨fs, hfs, h⟩ := Traced.result_bind_eq_ok.mp h
    cases h
    exact List.forall_mem_cons.mpr ⟨(name_of_field hf).2, ih hfs⟩

/-- Fields, with names that can be written, that find what the reading says. -/
structure Settled (fs : List (Data × List Step)) (reading : Path → Data → Run (List Issue)) :
    Prop where
  named : ∀ f ∈ fs, ∃ s, f.1.spell = .ok s
  finds : ∀ path label v, runAll (Step.innerAll (fieldSteps fs) path label v) = reading path v

theorem settled_nil : Settled [] fun _ _ => pure [] where
  named := by simp
  finds _ _ _ := rfl

theorem finds_block {es : List (Data × Data)} {own : List Rule} {dependent : Option Rule}
    {owner : Data} (hreg : registry.Unplaced)
    (hown : rules registry owner (get es "rules") = .ok own)
    (hchain : chain registry owner (get es "dependent") = .ok dependent)
    (hchildren : Settled children (Reading.children registry es)) :
    Finds (Configuration.block es own dependent children) fun path v =>
      Reading.value es path v fun p u =>
        Reading.element registry es p u (Reading.children registry es p u) :=
  Finds.optional (Finds.each (finds_chained_grouped hchildren.named
    (fun path v => runAll_rules hreg (rules_eq_ok hown) path _ v)
    (fun path v => runAll_chain hreg (chain_eq_ok hchain) path v) hchildren.finds) _) _

mutual

theorem finds_field (hreg : registry.Unplaced) (definition : Data) {index : Nat}
    {f : Data × List Step} (h : (field registry index definition).result = .ok f) :
    f.1 = Reading.name definition ∧ (∃ s, f.1.spell = .ok s) ∧
      Finds f.2 (Reading.field registry definition) := by
  cases definition with
  | mapping es =>
    obtain ⟨own, dependent, shown, children, hshown, hown, hchain, hchildren, rfl⟩ := field_eq_ok h
    refine ⟨rfl, ⟨shown, hshown⟩, ?_⟩
    exact finds_block hreg hown hchain (settled_childFields hreg es hchildren)
  | _ => cases h
termination_by structural definition

theorem settled_childFields (hreg : registry.Unplaced) (entries : List (Data × Data))
    {owner : String} {fs : List (Data × List Step)}
    (h : (childFields registry owner entries).result = .ok fs) :
    Settled fs (Reading.children registry entries) := by
  cases entries with
  | nil => cases h; exact settled_nil
  | cons e rest =>
    obtain ⟨k, w⟩ := e
    have hreading : Reading.children registry ((k, w) :: rest) =
        if k.eq (.text "fields") then Reading.definitions registry w
        else Reading.children registry rest := by
      funext path v
      rw [Reading.children]
      split <;> rfl
    rw [hreading]
    unfold childFields at h
    split at h
    · next hk =>
      rw [if_pos hk]
      exact settled_fieldList hreg w h
    · next hk =>
      rw [if_neg hk]
      exact settled_childFields hreg rest h
termination_by structural entries

theorem settled_fieldList (hreg : registry.Unplaced) (w : Data) {owner : String}
    {fs : List (Data × List Step)} (h : (fieldList registry owner w).result = .ok fs) :
    Settled fs (Reading.definitions registry w) := by
  cases w with
  | null => cases h; exact settled_nil
  | list ds => exact (settled_fieldsFrom hreg ds h).2
  | _ => cases h
termination_by structural w

theorem settled_fieldsFrom (hreg : registry.Unplaced) (ds : List Data) {index : Nat}
    {fs : List (Data × List Step)} (h : (fieldsFrom registry index ds).result = .ok fs) :
    fs.map Prod.fst = ds.map Reading.name ∧ Settled fs (Reading.fields registry ds) := by
  cases ds with
  | nil => cases h; exact ⟨rfl, settled_nil⟩
  | cons d rest =>
    obtain ⟨f, hf, h⟩ := Traced.result_bind_eq_ok.mp h
    obtain ⟨fs, hfs, h⟩ := Traced.result_bind_eq_ok.mp h
    cases h
    obtain ⟨hname, hspell, hfinds⟩ := finds_field hreg d hf
    obtain ⟨hnames, hsettled⟩ := settled_fieldsFrom hreg rest hfs
    refine ⟨by rw [List.map_cons, List.map_cons, hname, hnames], ?_, ?_⟩
    · exact List.forall_mem_cons.mpr ⟨hspell, hsettled.named⟩
    · intro path label v
      rw [fieldSteps, List.map_cons, Step.innerAll, runAll_append, ← fieldSteps, hsettled.finds,
        Reading.fields, ← hname]
      change (runAll (ofRead (some v) (Traced.ofExcept (Data.field f.1 v)) fun w =>
        Step.visits f.2 (path.child f.1) .null w) >>= _) = _
      simp only [runAll_ofRead, hfinds (path.child f.1), bind_assoc]
termination_by structural ds

end

end Assay.Configuration
