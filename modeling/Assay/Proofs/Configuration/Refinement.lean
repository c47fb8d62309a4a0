import Assay.Proofs.Configuration.Fields

/-! # Configurations refine their readings

A validator that is built from a configuration declares the rules for the whole
value and the fields, in order. Validating with it is reading the configuration.
-/

namespace Assay.Configuration

open Visit

open Declaration (visitsAll_append)

variable {registry : Registry} {w w' : Validator} {ds : List Data}

def rootDeclarations (rs : List Rule) : List Declaration :=
  if rs.isEmpty then [] else [.root (rs.map attachment)]

def fieldDeclarations (fs : List (Data × List Step)) : List Declaration :=
  fs.map fun f => .field f.1 none f.2

theorem declareRoot_eq_ok {rs : List Rule} (h : (declareRoot w rs).result = .ok w') :
    (Declaration.applyAll (rootDeclarations rs) w).result = .ok w' := by
  unfold declareRoot at h
  unfold rootDeclarations
  split at h
  · next hrs => rw [if_pos hrs]; exact h
  · next hrs =>
    rw [if_neg hrs]
    exact Traced.result_bind_eq_ok.mpr ⟨w', h, rfl⟩

theorem declareFields_eq_ok {index : Nat}
    (h : (declareFields registry w index ds).result = .ok w') :
    ∃ fs, (fieldsFrom registry index ds).result = .ok fs ∧
      (Declaration.applyAll (fieldDeclarations fs) w).result = .ok w' := by
  induction ds generalizing w index with
  | nil => exact ⟨[], rfl, h⟩
  | cons d rest ih =>
    obtain ⟨⟨name, steps⟩, hf, h⟩ := Traced.result_bind_eq_ok.mp h
    obtain ⟨x, hx, h⟩ := Traced.result_bind_eq_ok.mp h
    obtain ⟨fs, hfs, hw⟩ := ih h
    refine ⟨(name, steps) :: fs, ?_, ?_⟩
    · exact Traced.result_bind_eq_ok.mpr
        ⟨_, hf, Traced.result_bind_eq_ok.mpr ⟨fs, hfs, rfl⟩⟩
    · exact Traced.result_bind_eq_ok.mpr ⟨x, hx, hw⟩

/-- A validator that can be built has a name that can be written, and is built in stages. -/
theorem build_stages {options : Arguments} (h : (build registry options).result = .ok w) :
    ∃ shown rs w₀ ds, (options.getD "name" defaultName).spell = .ok shown ∧
      rules registry (.text (shown ++ ".root")) (options.getD "root" .null) = .ok rs ∧
      (declareRoot (.empty (options.getD "name" defaultName)) rs).result = .ok w₀ ∧
      items (options.getD "fields" .null) "fields" = .ok ds ∧
      (declareFields registry w₀ 0 ds).result = .ok w := by
  unfold build at h
  dsimp only at h
  split at h
  · cases h
  obtain ⟨shown, hshown, h⟩ := Traced.result_bind_eq_ok.mp h
  obtain ⟨-, -, h⟩ := Traced.result_bind_eq_ok.mp h
  obtain ⟨rs, hrs, h⟩ := Traced.result_bind_eq_ok.mp h
  obtain ⟨w₀, hw₀, h⟩ := Traced.result_bind_eq_ok.mp h
  obtain ⟨ds, hds, h⟩ := Traced.result_bind_eq_ok.mp h
  exact ⟨shown, rs, w₀, ds, hshown, hrs, hw₀, hds, h⟩

/-- A validator that can be built has the declarations of its rules and of its fields. -/
theorem build_eq_ok {options : Arguments} (h : (build registry options).result = .ok w) :
    ∃ owner rs fs, rules registry owner (options.getD "root" .null) = .ok rs ∧
      (fieldsFrom registry 0 (Reading.listed (options.getD "fields" .null))).result = .ok fs ∧
      (Validator.ofDeclarations (options.getD "name" defaultName)
        (rootDeclarations rs ++ fieldDeclarations fs)).result = .ok w := by
  obtain ⟨shown, rs, w₀, ds, -, hrs, hw₀, hds, h⟩ := build_stages h
  obtain rfl : ds = Reading.listed _ := items_eq_ok hds
  obtain ⟨fs, hfs, hw⟩ := declareFields_eq_ok h
  refine ⟨.text (shown ++ ".root"), rs, fs, hrs, hfs, ?_⟩
  rw [Validator.ofDeclarations, Declaration.applyAll_append]
  exact Traced.result_bind_eq_ok.mpr ⟨w₀, declareRoot_eq_ok hw₀, hw⟩

theorem runAll_rootDeclarations (rs : List Rule) (target : Data) :
    runAll (Declaration.visitsAll (rootDeclarations rs) target) =
      runAll (rs.map fun r => .check (.ofRule ∅ .null target r)) := by
  cases rs with
  | nil => rfl
  | cons r rest =>
    change runAll (Step.visits ((r :: rest).map attachment) ∅ .null target ++ []) = _
    rw [List.append_nil, runAll_visits_of_made (forM_made_attachments _), sites_attachments,
      innerAll_attachments, List.map_map]
    simp only [runAll_nil, pure_bind, List.append_nil, bind_pure]
    rfl

theorem visitsAll_fieldDeclarations {fs : List (Data × List Step)}
    (h : ∀ f ∈ fs, ∃ n, f.1 = .text n) (target : Data) :
    Declaration.visitsAll (fieldDeclarations fs) target =
      Step.innerAll (fieldSteps fs) ∅ .null target := by
  induction fs with
  | nil => rfl
  | cons f rest ih =>
    obtain ⟨⟨n, hn⟩, hrest⟩ := List.forall_mem_cons.mp h
    obtain ⟨name, steps⟩ := f
    obtain rfl : name = .text n := hn
    rw [fieldDeclarations, List.map_cons, Declaration.visitsAll, ← fieldDeclarations, ih hrest]
    rfl

/-- Validating with a configuration is reading it: the entries for the whole value come first, and
then the fields in order. -/
theorem validate_eq_reading {options : Arguments}
    (hbuilt : (build registry options).result = .ok w) (hreg : registry.Unplaced)
    (hnames : ∀ d ∈ Reading.listed (options.getD "fields" .null), ∃ n, Reading.name d = .text n)
    (target : Data) :
    w.validate target = (do pure (.of target (← Reading.all registry options target))) := by
  obtain ⟨owner, rs, fs, hrs, hfs, hw⟩ := build_eq_ok hbuilt
  obtain ⟨hfst, hsettled⟩ := settled_fieldsFrom hreg _ hfs
  have hnamed : ∀ f ∈ fs, ∃ n, f.1 = .text n := by
    intro f hf
    have hmem : f.1 ∈ fs.map Prod.fst := List.mem_map_of_mem hf
    rw [hfst] at hmem
    obtain ⟨d, hd, hdf⟩ := List.mem_map.mp hmem
    rw [← hdf]
    exact hnames d hd
  have hroot : runAll (rs.map fun r => .check (.ofRule ∅ .null target r)) =
      Reading.rules registry ∅ .null target (Reading.listed (options.getD "root" .null)) :=
    runAll_rules hreg (rules_eq_ok hrs) ∅ .null target
  rw [Validator.validate_eq, Validator.issues_eq_runAll hw, visitsAll_append, runAll_append,
    runAll_rootDeclarations, hroot, visitsAll_fieldDeclarations hnamed, hsettled.finds]
  rfl

def sampleOptions : Arguments :=
  [("root", .list [.mapping [(.text "type", .text "not_empty")]]),
    ("fields", .list [.mapping
      [(.text "name", .text "tags"), (.text "group", .text "labels"), (.text "each", .bool true),
        (.text "rules", .list [.mapping [(.text "type", .text "Not_Blank")]]),
        (.text "dependent", .list [.mapping
          [(.text "type", .text "numeric"), (.text "forbidden", .text "is a number")]])]])]

def sampleTarget : Data := .mapping [(.text "tags", .list [.text "7", .text " "])]

theorem validate_sampleTarget_eq_reading : ∃ w, (build .builtin sampleOptions).result = .ok w ∧
    w.validate sampleTarget =
      (do pure (.of sampleTarget (← Reading.all .builtin sampleOptions sampleTarget))) := by
  obtain ⟨w, hw⟩ : ∃ w, (build .builtin sampleOptions).result = .ok w := ⟨_, rfl⟩
  refine ⟨w, hw, validate_eq_reading hw Registry.unplaced_builtin ?_ sampleTarget⟩
  intro d hd
  obtain rfl := List.mem_singleton.mp hd
  exact ⟨"tags", rfl⟩

end Assay.Configuration
