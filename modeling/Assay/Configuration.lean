import Assay.Scope.Step
import Assay.Data.Order

/-! # Configurations

A validator described by plain data: rule entries for the whole value, and definitions of fields
with rule entries, a chain of dependent entries, a label, and fields of their own. Mistakes in the
data are faults; keys of a field definition that have no meaning are reported and ignored.
-/

namespace Assay.Configuration

/-- The keys of a rule entry that are not handed on to its check. -/
def entryKeys : List Data := [.text "type", .text "forbidden", .text "forbidden_code"]

def fieldKeys : List Data :=
  [.text "name", .text "rules", .text "dependent", .text "group", .text "optional", .text "each",
   .text "fields", .text "description"]

/-- The value under a key, null when there is none. -/
def get (entries : List (Data × Data)) (key : String) : Data :=
  (Data.lookup? (.text key) entries).getD .null

def items (v : Data) (owner : String) : Except Fault (List Data) :=
  match v with
  | .null => .ok []
  | .list vs => .ok vs
  | v => .error (.notList owner v.shortKind)

/-- Run a check constructor, whose complaints about its arguments become those of the
configuration. -/
def construct (c : Check) (kind : String) (owner : Data) (params : List (Data × Data)) :
    Except Fault Rule :=
  match (do c (← Arguments.ofEntries params)) with
  | .ok r => .ok r
  | .error f =>
    if f.family == .type || f.family == .value then
      .error (.checkRefused kind owner (.mapping params) f.message)
    else .error f

def checkOf (registry : Registry) (kind : String) (owner : Data) : Except Fault Check :=
  match registry.find? (.text kind) with
  | some c => .ok c
  | none => .error (.checkUnknown kind owner registry.keys)

def forbidding (entries : List (Data × Data)) (r : Rule) : Except Fault Rule :=
  let forbidden := get entries "forbidden"
  if forbidden.isTrue then r.forbid forbidden (get entries "forbidden_code") .null else .ok r

def rule (registry : Registry) (owner entry : Data) : Except Fault Rule :=
  match entry with
  | .mapping es =>
    if (get es "type").isTrue then do
      let kind := Text.lower (← (get es "type").spell)
      let params := es.filter fun e => !e.1.isAmong entryKeys
      let c ← checkOf registry kind owner
      forbidding es (← construct c kind owner params)
    else .error (.entryMalformed owner entry)
  | entry => .error (.entryMalformed owner entry)

def rules (registry : Registry) (owner entries : Data) : Except Fault (List Rule) := do
  (← items entries ((← owner.spell) ++ ".rules")).mapM (rule registry owner)

/-- The chain of a list of dependent entries; there is none without entries. -/
def chain (registry : Registry) (owner entries : Data) : Except Fault (Option Rule) := do
  (← items entries ((← owner.spell) ++ ".dependent")).foldlM
    (fun c e => do pure (Rule.append c (← rule registry owner e))) none

def attachment (r : Rule) : Step := .attach (pure (some r)) none

/-- The steps that check the value of a field, or one of its items. -/
def element (rules : List Rule) (children : List (Data × List Step)) : List Step :=
  rules.map attachment ++ children.map fun c => .field c.1 none c.2

def grouped (label : Data) (block : List Step) : List Step :=
  if label.isTrue then [.group label block] else block

def chained (chain : Option Rule) (block : List Step) : List Step :=
  block ++ (chain.map attachment).toList

def each (flag : Data) (block : List Step) : List Step :=
  if flag.isTrue then [.items block] else block

def optional (flag : Data) (block : List Step) : List Step :=
  if flag.isTrue then [.unlessNull block] else block

/-- The steps of a field definition, from the inside out. -/
def block (entries : List (Data × Data)) (rules : List Rule) (chain : Option Rule)
    (children : List (Data × List Step)) : List Step :=
  optional (get entries "optional") (each (get entries "each")
    (chained chain (grouped (get entries "group") (element rules children))))

def fieldName (index : Nat) (entries : List (Data × Data)) : Except Fault Data := do
  let name := get entries "name"
  if name.isTrue then pure name
  else throw (.fieldUnnamed index (← Data.sort (entries.map Prod.fst)))

def reportUnknown (name : Data) (entries : List (Data × Data)) : Build Unit := do
  let unknown := (entries.map Prod.fst).filter fun k => !k.isAmong fieldKeys
  if !unknown.isEmpty then
    let shown ← (name.spell : Build String)
    let sorted ← (Data.sort unknown : Build (List Data))
    let listed ← ((Data.list sorted).write : Build String)
    Build.report .warning s!"Ignoring unknown keys for field '{shown}': {listed}"

mutual

def field (registry : Registry) (index : Nat) (definition : Data) : Build (Data × List Step) :=
  match definition with
  | .mapping es => do
    let name ← (fieldName index es : Build Data)
    reportUnknown name es
    let own ← (rules registry name (get es "rules") : Build (List Rule))
    let dependent ← (chain registry name (get es "dependent") : Build (Option Rule))
    let shown ← (name.spell : Build String)
    let children ← childFields registry (shown ++ ".fields") es
    pure (name, block es own dependent children)
  | v => throw (.fieldNotMapping index v)
termination_by structural definition

def childFields (registry : Registry) (owner : String) (entries : List (Data × Data)) :
    Build (List (Data × List Step)) :=
  match entries with
  | [] => pure []
  | (k, v) :: rest =>
    if k.eq (.text "fields") then fieldList registry owner v
    else childFields registry owner rest
termination_by structural entries

def fieldList (registry : Registry) (owner : String) (v : Data) :
    Build (List (Data × List Step)) :=
  match v with
  | .null => pure []
  | .list vs => fieldsFrom registry 0 vs
  | v => throw (.notList owner v.shortKind)
termination_by structural v

def fieldsFrom (registry : Registry) (index : Nat) (definitions : List Data) :
    Build (List (Data × List Step)) :=
  match definitions with
  | [] => pure []
  | d :: rest => do
    let f ← field registry index d
    pure (f :: (← fieldsFrom registry (index + 1) rest))
termination_by structural definitions

end

def declareRoot (w : Validator) (rules : List Rule) : Build Validator :=
  if rules.isEmpty then pure w
  else w.declareRoot (fun s => Step.applyAll (rules.map attachment) s)

def declareFields (registry : Registry) (w : Validator) (index : Nat) :
    List Data → Build Validator
  | [] => pure w
  | d :: rest => do
    let (name, steps) ← field registry index d
    let w ← w.declareField name none (fun s => Step.applyAll steps s)
    declareFields registry w (index + 1) rest

def defaultName : Data := .text "unnamed_validator"

/-- The validator of a configuration given as named options. -/
def build (registry : Registry) (options : Arguments) : Build Validator := do
  match options.find? fun o => o.1 == "self" with
  | some o => throw (.repeatedArgument "ValidatorFactory.create" o.1)
  | none => pure ()
  let name := options.getD "name" defaultName
  let shown ← (name.spell : Build String)
  Build.report .info s!"Creating validator: {shown}"
  let owner := Data.text (shown ++ ".root")
  let own ← (rules registry owner (options.getD "root" .null) : Build (List Rule))
  let w ← declareRoot (.empty name) own
  let definitions ← (items (options.getD "fields" .null) "fields" : Build (List Data))
  declareFields registry w 0 definitions

def ofEntries (registry : Registry) (entries : List (Data × Data)) : Build Validator := do
  let options ← (Arguments.ofEntries entries : Build Arguments)
  build registry options

end Assay.Configuration
