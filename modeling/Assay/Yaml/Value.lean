import Assay.Yaml.Node
import Assay.Yaml.Scalar
import Assay.Data.Equality

/-! # Values of YAML

The value that a node stands for. Of two entries with one key the later one counts, and the
entries of a mapping that is merged in come before all others.

Values are made level by level: the parts of a collection are begun before the parts of the
collections in it. This shows where a document holds several mistakes.
-/

namespace Assay.Yaml

/-- A fault and the depth at which it is met. -/
structure Mistake where
  depth : Nat
  fault : Fault

abbrev Made := Except Mistake

namespace Made

/-- Combine two parts; of two mistakes the one that is less deep counts, or else the first. -/
def both {α β γ : Type} (f : α → β → γ) (x : Made α) (y : Made β) : Made γ :=
  match x, y with
  | .ok a, .ok b => .ok (f a b)
  | .error e, .ok _ | .ok _, .error e => .error e
  | .error d, .error e => .error (if e.depth < d.depth then e else d)

def metAt {α : Type} (depth : Nat) : Except Fault α → Made α
  | .ok a => .ok a
  | .error f => .error ⟨depth, f⟩

def malformed {α : Type} (depth : Nat) : Made α := .error ⟨depth, .malformedMarkup⟩

end Made

namespace Node

def coreTag (name : String) : String := "tag:yaml.org,2002:" ++ name

/-- Plain scalars that have a meaning of their own and stand for no value. -/
def isReserved (s : String) : Bool := s == "<<" || s == "="

def taggedTruth (s : String) : Except Fault Data :=
  let low := Text.lower s
  if Scalar.trueWords.contains low then .ok (.bool true)
  else if Scalar.falseWords.contains low then .ok (.bool false)
  else .error (.missingKey (Text.quoted low))

def scalarValue (tag : Option String) (codes : List Nat) (plain : Bool) : Except Fault Data :=
  let cs := codes.map Char.ofNat
  match tag with
  | none =>
    if !plain then .ok (.ofCodes codes)
    else if isReserved (.ofList cs) then .error .malformedMarkup
    else Scalar.value (.ofList cs)
  | some t =>
    if t == coreTag "str" then .ok (.ofCodes codes)
    else if t == coreTag "null" then .ok .null
    else if t == coreTag "bool" then taggedTruth (.ofList cs)
    else if t == coreTag "int" then do pure (.int (← Scalar.whole cs))
    else if t == coreTag "float" then do pure (.float (← Scalar.double cs))
    else if t == coreTag "timestamp" then Timestamp.valueOf cs
    else .error .malformedMarkup

def isPlain (n : Node) (text : String) : Bool :=
  match n with
  | scalar none codes true => codes == text.toList.map Char.toNat
  | _ => false

def isMergeKey : Node → Bool
  | scalar (some t) _ _ => t == coreTag "merge"
  | n => n.isPlain "<<"

/-- The value of a key. Collections cannot be keys, and a key may also be the plain scalar `=`. -/
def keyValue (n : Node) : Except Fault Data :=
  match n with
  | scalar tag codes plain =>
    if n.isPlain "=" then .ok (.text "=") else scalarValue tag codes plain
  | _ => .error .malformedMarkup

def isMapping : Node → Bool
  | mapping _ _ => true
  | _ => false

mutual

/-- What is merged in are mappings or sequences of mappings, in which this holds in turn. -/
def mergesMappings (es : List (Node × Node)) : Bool :=
  match es with
  | [] => true
  | (k, v) :: rest => (!k.isMergeKey || v.isMergeable) && mergesMappings rest
termination_by structural es

def isMergeable (n : Node) : Bool :=
  match n with
  | mapping _ es => mergesMappings es
  | sequence _ ns => areMergeable ns
  | scalar _ _ _ => false
termination_by structural n

def areMergeable (ns : List Node) : Bool :=
  match ns with
  | [] => true
  | n :: rest => n.isMapping && n.isMergeable && areMergeable rest
termination_by structural ns

end

structure Entries where
  merged : Made (List (Data × Data))
  own : Made (List (Data × Data))

namespace Entries

def all (e : Entries) : Made (List (Data × Data)) := .both (· ++ ·) e.merged e.own

end Entries

def hasTag (tag : Option String) (name : String) : Bool :=
  tag.isNone || tag == some (coreTag name)

/-- The mistake of a node at a depth whose tag is not one of its own form. Where the tag is one of
a collection, it shows only when the parts are looked for. -/
def mistagged {α : Type} (depth : Nat) (tag : Option String) : Made α :=
  let late := tag == some (coreTag "seq") || tag == some (coreTag "map")
  .malformed (if late then depth + 1 else depth)

mutual

def valueAt (depth : Nat) (n : Node) : Made Data :=
  match n with
  | scalar tag codes plain =>
    if tag.isSome && (hasTag tag "seq" || hasTag tag "map") then mistagged depth tag
    else .metAt depth (scalarValue tag codes plain)
  | sequence tag items =>
    if hasTag tag "seq" then (values (depth + 1) items).map Data.list else mistagged depth tag
  | mapping tag es =>
    if hasTag tag "map" then
      if mergesMappings es then (entries (depth + 1) es).all.map Data.ofEntries
      else .malformed (depth + 1)
    else mistagged depth tag
termination_by structural n

def values (depth : Nat) (ns : List Node) : Made (List Data) :=
  match ns with
  | [] => .ok []
  | n :: rest => .both List.cons (n.valueAt depth) (values depth rest)
termination_by structural ns

def entries (depth : Nat) (es : List (Node × Node)) : Entries :=
  match es with
  | [] => ⟨.ok [], .ok []⟩
  | (k, v) :: rest =>
    let others := entries depth rest
    if k.isMergeKey then ⟨.both (· ++ ·) (v.mergedEntries depth) others.merged, others.own⟩
    else
      let entry := Made.both Prod.mk (.metAt depth k.keyValue) (v.valueAt depth)
      ⟨others.merged, .both List.cons entry others.own⟩
termination_by structural es

/-- The entries that a merged node gives: those of a mapping, or those of a list of mappings, of
which the first ones count most. -/
def mergedEntries (depth : Nat) (n : Node) : Made (List (Data × Data)) :=
  match n with
  | mapping _ es => (entries depth es).all
  | sequence _ ns => mergedLists depth ns
  | scalar _ _ _ => .malformed depth
termination_by structural n

def mergedLists (depth : Nat) (ns : List Node) : Made (List (Data × Data)) :=
  match ns with
  | [] => .ok []
  | n :: rest => .both (· ++ ·) (mergedLists depth rest) (n.mergedEntries depth)
termination_by structural ns

end

def value (n : Node) : Except Fault Data := (n.valueAt 0).mapError Mistake.fault

end Node

def ofText (s : String) : Except Fault Data := do
  match ← Node.ofTokens? (Tokens.ofText s) with
  | some n => n.value
  | none => pure .null

end Assay.Yaml
