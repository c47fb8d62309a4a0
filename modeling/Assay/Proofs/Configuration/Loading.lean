import Assay.Configuration.File
import Assay.Proofs.Configuration.Locations
import Assay.Proofs.Run

/-! # Loading configurations

The configuration in a file is the mapping that its format reads from it, and any
other value is refused. Only in YAML do values that count as false stand for the
empty configuration, whether the document is empty or not, so that the two
formats part on just those values.
-/

namespace Assay.Configuration

variable {formats : Formats} {file content text : String} {d v : Data} {f : Fault}
  {es : List (Data × Data)}

/-- The suffix of the file is one of YAML, in any case of its letters. -/
def IsYaml (file : String) : Prop :=
  Text.lower (Location.ofText file).suffix = ".yaml" ∨
    Text.lower (Location.ofText file).suffix = ".yml"

def IsJson (file : String) : Prop := Text.lower (Location.ofText file).suffix = ".json"

/-- The fault of a file that holds something else than a mapping. -/
def noMapping (file : String) (d : Data) : Fault :=
  .notConfiguration (Location.ofText file).text d.shortKind

/-- The text that a format is given to read. -/
def handed (content : String) : String := .ofList (unifyLines content.toList)

theorem readValue_of_isYaml (h : IsYaml file) :
    readValue formats (.ofText file) text = (do pure (orEmpty (← formats.yaml text))) := by
  unfold readValue
  rcases h with h | h <;> rw [h] <;> rfl

theorem readValue_of_isJson (h : IsJson file) :
    readValue formats (.ofText file) text = formats.json text := by
  unfold readValue
  rw [h]
  rfl

/-- A file is loaded alike by all texts that lead to it. -/
theorem load_text (formats : Formats) (file : String) (content : Option String) :
    load formats (Location.ofText file).text content = load formats file content := by
  unfold load
  rw [Location.ofText_text]

/-- What is loaded is the mapping that is read. -/
theorem load_eq_ok_iff (h : readValue formats (.ofText file) (handed content) = .ok v) :
    load formats file (some content) = .ok es ↔ v = .mapping es := by
  change (readValue formats (.ofText file) (handed content) >>= _) = _ ↔ _
  rw [h]
  cases v with
  | mapping ds => exact ⟨fun h => by cases h; rfl, fun h => by cases h; rfl⟩
  | _ => exact iff_of_false nofun nofun

theorem load_eq_error_iff (h : readValue formats (.ofText file) (handed content) = .ok v) :
    load formats file (some content) = .error f ↔
      (∀ es, v ≠ .mapping es) ∧ f = noMapping file v := by
  change (readValue formats (.ofText file) (handed content) >>= _) = _ ↔ _
  rw [h]
  cases v with
  | mapping ds => exact iff_of_false nofun fun h => h.1 ds rfl
  | _ => exact ⟨fun h => by cases h; exact ⟨by simp, rfl⟩, fun h => by rw [h.2]; rfl⟩

theorem orEmpty_eq_mapping_iff :
    orEmpty d = .mapping es ↔ d = .mapping es ∨ d.isTrue = false ∧ es = [] := by
  unfold orEmpty
  cases h : d.isTrue with
  | true => simp
  | false =>
    rw [if_neg Bool.false_ne_true, Data.mapping.injEq]
    constructor
    · rintro rfl
      exact .inr ⟨rfl, rfl⟩
    · rintro (rfl | ⟨-, rfl⟩)
      · simpa [Data.isTrue] using h.symm
      · rfl

theorem load_of_isJson (hfile : IsJson file) (hd : formats.json (handed content) = .ok d) :
    (∀ es, load formats file (some content) = .ok es ↔ d = .mapping es) ∧
    ∀ f, load formats file (some content) = .error f ↔
      (∀ es, d ≠ .mapping es) ∧ f = noMapping file d := by
  have hread : readValue formats (.ofText file) (handed content) = .ok d :=
    (readValue_of_isJson hfile).trans hd
  exact ⟨fun es => load_eq_ok_iff hread, fun f => load_eq_error_iff hread⟩

theorem load_of_isYaml (hfile : IsYaml file) (hd : formats.yaml (handed content) = .ok d) :
    (∀ es, load formats file (some content) = .ok es ↔
      d = .mapping es ∨ d.isTrue = false ∧ es = []) ∧
    ∀ f, load formats file (some content) = .error f ↔
      d.isTrue ∧ (∀ es, d ≠ .mapping es) ∧ f = noMapping file d := by
  have hread : readValue formats (.ofText file) (handed content) = .ok (orEmpty d) := by
    rw [readValue_of_isYaml hfile, hd]
    rfl
  refine ⟨fun es => (load_eq_ok_iff hread).trans orEmpty_eq_mapping_iff, fun f => ?_⟩
  rw [load_eq_error_iff hread]
  cases htrue : d.isTrue with
  | true => rw [orEmpty, if_pos htrue, and_iff_right rfl]
  | false =>
    -- a value that counts as false has become the empty mapping, which is not refused
    have hempty : orEmpty d = .mapping [] := orEmpty_eq_mapping_iff.mpr (.inr ⟨htrue, rfl⟩)
    exact iff_of_false (fun h => h.1 [] hempty) fun h => Bool.false_ne_true h.1

/-- A file gives the configuration that its format reads from it, and is refused when its format
reads anything else. In YAML, and only there, each value that counts as false is the empty
configuration. The formats therefore agree on the values that are mappings or count as true, and on
no others. -/
theorem load_of_reading (formats : Formats) (content : String) (d : Data) :
    (∀ file, IsJson file → formats.json (handed content) = .ok d →
      (∀ es, load formats file (some content) = .ok es ↔ d = .mapping es) ∧
      ∀ f, load formats file (some content) = .error f ↔
        (∀ es, d ≠ .mapping es) ∧ f = noMapping file d) ∧
    (∀ file, IsYaml file → formats.yaml (handed content) = .ok d →
      (∀ es, load formats file (some content) = .ok es ↔
        d = .mapping es ∨ d.isTrue = false ∧ es = []) ∧
      ∀ f, load formats file (some content) = .error f ↔
        d.isTrue ∧ (∀ es, d ≠ .mapping es) ∧ f = noMapping file d) ∧
    ∀ file file' content', IsYaml file → formats.yaml (handed content) = .ok d →
      IsJson file' → formats.json (handed content') = .ok d →
      ((∀ es, load formats file (some content) = .ok es ↔
        load formats file' (some content') = .ok es) ↔ d.isTrue ∨ ∃ es, d = .mapping es) := by
  refine ⟨fun file => load_of_isJson, fun file => load_of_isYaml, ?_⟩
  intro file file' content' hfile hd hfile' hd'
  simp only [(load_of_isYaml hfile hd).1, (load_of_isJson hfile' hd').1]
  constructor
  · intro hagree
    cases htrue : d.isTrue with
    | true => exact .inl rfl
    | false => exact .inr ⟨[], (hagree []).mp (.inr ⟨htrue, rfl⟩)⟩
  · rintro (htrue | ⟨ds, rfl⟩) es
    · simp [htrue]
    · constructor
      · rintro (h | ⟨hfalse, rfl⟩)
        · exact h
        · simpa [Data.isTrue] using hfalse
      · exact .inl

/-- The number zero is refused in one format and is the empty configuration in the other. -/
theorem load_of_reading_zero :
    load standardFormats "./conf//zero.Json" (some "0") =
        .error (.notConfiguration "conf/zero.Json" "int") ∧
      load standardFormats "zero.YML/" (some "0") = .ok [] := by
  obtain ⟨hjson, hyaml, -⟩ := load_of_reading standardFormats "0" (.int 0)
  refine ⟨((hjson "./conf//zero.Json" rfl rfl).2 _).mpr ⟨nofun, rfl⟩, ?_⟩
  exact ((hyaml "zero.YML/" (.inr rfl) rfl).1 []).mpr (.inr ⟨rfl, rfl⟩)

/-- An empty list is no mapping, and its document is not empty. It is refused in one format only. -/
theorem load_of_emptyList : standardFormats.yaml (handed "[]") = .ok (.list []) ∧
    load standardFormats "c.yaml" (some "[]") = .ok [] ∧
    standardFormats.json (handed "[]") = .ok (.list []) ∧
    load standardFormats "c.json" (some "[]") = .error (.notConfiguration "c.json" "list") :=
  ⟨rfl, rfl, rfl, rfl⟩

end Assay.Configuration
