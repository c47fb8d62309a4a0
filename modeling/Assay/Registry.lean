import Assay.Check.Builtin

/-! # Registries

Check constructors under the names by which configurations know them. The names keep the order in
which they were added; registering a name again keeps its place.
-/

namespace Assay

inductive Level
  | debug
  | info
  | warning
deriving DecidableEq

structure Report where
  level : Level
  text : String
deriving DecidableEq

/-- A computation that reports what it does. -/
abbrev Build := Traced Report

namespace Build

def report (level : Level) (text : String) : Build Unit := Traced.emit ⟨level, text⟩

end Build

structure Registry where
  name : Data
  entries : List (Data × Check)

namespace Registry

def empty (name : Data) : Registry := ⟨name, []⟩

def keys (r : Registry) : List Data := r.entries.map Prod.fst

def size (r : Registry) : Nat := r.entries.length

def find? (r : Registry) (key : Data) : Option Check :=
  (r.entries.find? fun e => key.eq e.1).map Prod.snd

def has (r : Registry) (key : Data) : Except Fault Bool := do
  key.hashable
  pure (r.find? key).isSome

def get (r : Registry) (key : Data) : Except Fault Check := do
  key.hashable
  match r.find? key with
  | some c => pure c
  | none => Fault.raise (.checkMissing key r.name (some r.keys))

/-- The entries with a check under a key, in the place of an equal key or else at the end. -/
def insert (key : Data) (c : Check) : List (Data × Check) → List (Data × Check)
  | [] => [(key, c)]
  | (k, d) :: rest => if key.eq k then (k, c) :: rest else (k, d) :: insert key c rest

/-- The registry with one more check. A key that is taken is given up only on demand. -/
def add (r : Registry) (key : Data) (c : Check) (overwrite : Bool) : Except Fault Registry := do
  key.hashable
  if !overwrite && (r.find? key).isSome then Fault.raise (.checkTaken key r.name)
  pure { r with entries := insert key c r.entries }

def register (r : Registry) (key : Data) (c : Check) (overwrite : Bool) : Build Registry := do
  let added ← (r.add key c overwrite : Build Registry)
  let shown ← (key.spell : Build String)
  let owner ← (r.name.spell : Build String)
  Build.report .debug s!"Registered check '{shown}' in {owner}"
  pure added

def unregister (r : Registry) (key : Data) : Except Fault Registry := do
  key.hashable
  if (r.find? key).isNone then Fault.raise (.checkMissing key r.name none)
  pure { r with entries := r.entries.filter fun e => !key.eq e.1 }

/-- The rule of the check under a key. The arguments cannot name what the registry itself takes. -/
def create (r : Registry) (key : Data) (as : Arguments) : Except Fault Rule := do
  match as.find? fun a => a.1 == "self" || a.1 == "key" with
  | some a => throw (.repeatedArgument "CheckRegistry.create" a.1)
  | none => (← r.get key) as

def written (r : Registry) : Except Fault String := do
  pure s!"CheckRegistry(name={← r.name.write}, checks={r.size})"

def builtin [Pattern.Edition] : Registry where
  name := .text "checks"
  entries :=
    [(.text "required", Check.required), (.text "not_blank", Check.notBlank),
     (.text "not_empty", Check.notEmpty), (.text "length", Check.length),
     (.text "range", Check.range), (.text "pattern", Check.pattern),
     (.text "one_of", Check.oneOf), (.text "numeric", Check.numeric)]

end Registry

end Assay
