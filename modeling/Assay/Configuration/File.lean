import Assay.Configuration
import Assay.Configuration.Location
import Assay.Json
import Assay.Yaml.Value

/-! # Configuration files

A configuration is read from the text of a file in the format that the suffix of the file tells. In
YAML an empty document stands for the empty configuration.
-/

namespace Assay.Configuration

/-- The readers of the two formats. -/
structure Formats where
  yaml : String → Except Fault Data
  json : String → Except Fault Data

def standardFormats : Formats := ⟨Yaml.ofText, Json.ofText⟩

/-- Line ends of every kind as line feeds. -/
def unifyLines : List Char → List Char
  | '\r' :: '\n' :: cs => '\n' :: unifyLines cs
  | c :: cs => (if c == '\r' then '\n' else c) :: unifyLines cs
  | [] => []

/-- Values that count as false stand for the empty mapping. -/
def orEmpty (v : Data) : Data := if v.isTrue then v else .mapping []

/-- The value in a file, read in the format of its suffix. -/
def readValue (formats : Formats) (place : Location) (content : String) : Except Fault Data :=
  let kind := Text.lower place.suffix
  if kind == ".yaml" || kind == ".yml" then do pure (orEmpty (← formats.yaml content))
  else if kind == ".json" then formats.json content
  else .error (.fileKindUnknown kind place.text)

/-- The configuration in a file, which must be a mapping. A file that is missing has no content. -/
def load (formats : Formats) (file : String) (content : Option String) :
    Except Fault (List (Data × Data)) := do
  let place := Location.ofText file
  match content with
  | none => throw (.missingFile place.text)
  | some text =>
    match ← readValue formats place (.ofList (unifyLines text.toList)) with
    | .mapping es => pure es
    | v => throw (.notConfiguration place.text v.shortKind)

def loadValidator (formats : Formats) (registry : Registry) (file : String)
    (content : Option String) : Build Validator := do
  let entries ← (load formats file content : Build (List (Data × Data)))
  Build.report .debug s!"Loaded validator configuration from {file}"
  ofEntries registry entries

end Assay.Configuration
