import Assay.Configuration

/-! # Readings of configurations

What a configuration means, read off its plain data and the value alone. The
reading knows neither steps nor scopes: an entry is its check, a field is the
entries of each of its elements in a fixed order, and its own fields follow.
-/

namespace Assay.Configuration.Reading

/-- The rule of the check that an entry names, made from the parameters of the entry. -/
def check? (registry : Registry) (entries : List (Data × Data)) : Option Rule := do
  let kind ← (get entries "type").spell.toOption
  let c ← registry.find? (.text (Text.lower kind))
  let as ← (Arguments.ofEntries (entries.filter fun e => !e.1.isAmong entryKeys)).toOption
  (c as).toOption

/-- The label of an issue under the label of a field, which is none unless it counts as true. -/
def tag (label own : Data) : Data := if label.isTrue then label else own

/-- What a rule entry finds: the issues of its check or, when it forbids what the check accepts, an
issue in place of none. -/
def entry (registry : Registry) (path : Path) (label v entry : Data) : Run (List Issue) :=
  match entry with
  | .mapping es =>
    match check? registry es with
    | some r => do
      let x ← r.run v
      if (get es "forbidden").isTrue then
        pure (if x.isValid then
          [⟨path, get es "forbidden", get es "forbidden_code", tag label .null⟩] else [])
      else pure (x.issues.map fun i => ⟨path, i.message, i.code, tag label i.group⟩)
    | none => pure []
  | _ => pure []

def rules (registry : Registry) (path : Path) (label v : Data) : List Data → Run (List Issue)
  | [] => pure []
  | e :: rest => do
    let is ← entry registry path label v e
    let js ← rules registry path label v rest
    pure (is ++ js)

/-- What the first entry finds that finds anything; the entries behind it are not asked. -/
def dependent (registry : Registry) (path : Path) (v : Data) : List Data → Run (List Issue)
  | [] => pure []
  | e :: rest => do
    let is ← entry registry path .null v e
    if is.isEmpty then dependent registry path v rest else pure is

def listed : Data → List Data
  | .list vs => vs
  | _ => []

/-- What the entries of a field and the fields below it find on an element. The dependent entries
are never labelled, and come before the rules of a labelled field. -/
def element (registry : Registry) (entries : List (Data × Data)) (path : Path) (v : Data)
    (children : Run (List Issue)) : Run (List Issue) := do
  let label := get entries "group"
  let own := rules registry path label v (listed (get entries "rules"))
  let chain := dependent registry path v (listed (get entries "dependent"))
  if label.isTrue then
    let is ← chain
    let js ← own
    let ks ← children
    pure (is ++ js ++ ks)
  else
    let is ← own
    let js ← chain
    let ks ← children
    pure (is ++ js ++ ks)

def elements (path : Path) (position : Nat) (reading : Path → Data → Run (List Issue)) :
    List Data → Run (List Issue)
  | [] => pure []
  | v :: rest => do
    let is ← reading (path.index position) v
    let js ← elements path (position + 1) reading rest
    pure (is ++ js)

/-- What a field finds on its value: nothing on null when it is optional, what is found on every
item when it is read item by item, and what is found on the value otherwise. -/
def value (entries : List (Data × Data)) (path : Path) (v : Data)
    (reading : Path → Data → Run (List Issue)) : Run (List Issue) :=
  if (get entries "optional").isTrue && v.isNull then pure []
  else if (get entries "each").isTrue then do
    let vs ← Traced.ofExcept v.items
    elements path 0 reading vs
  else reading path v

def name : Data → Data
  | .mapping es => get es "name"
  | _ => .null

mutual

def field (registry : Registry) (definition : Data) (path : Path) (v : Data) : Run (List Issue) :=
  match definition with
  | .mapping es =>
    value es path v fun p u => element registry es p u (children registry es p u)
  | _ => pure []
termination_by structural definition

def children (registry : Registry) (entries : List (Data × Data)) (path : Path) (v : Data) :
    Run (List Issue) :=
  match entries with
  | [] => pure []
  | (k, w) :: rest =>
    if k.eq (.text "fields") then definitions registry w path v
    else children registry rest path v
termination_by structural entries

def definitions (registry : Registry) (w : Data) (path : Path) (v : Data) : Run (List Issue) :=
  match w with
  | .list ds => fields registry ds path v
  | _ => pure []
termination_by structural w

/-- What field definitions find in order, each on the field that it names. -/
def fields (registry : Registry) (ds : List Data) (path : Path) (v : Data) : Run (List Issue) :=
  match ds with
  | [] => pure []
  | d :: rest => do
    let u ← Traced.ofExcept (Data.field (name d) v)
    let is ← field registry d (path.child (name d)) u
    let js ← fields registry rest path v
    pure (is ++ js)
termination_by structural ds

end

/-- What a configuration finds: its entries for the whole value, and then its fields. -/
def all (registry : Registry) (options : Arguments) (target : Data) : Run (List Issue) := do
  let is ← rules registry ∅ .null target (listed (options.getD "root" .null))
  let js ← fields registry (listed (options.getD "fields" .null)) ∅ target
  pure (is ++ js)

end Assay.Configuration.Reading
