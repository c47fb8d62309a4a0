import Assay.Data

/-! # Equality of values

Numbers of every kind are equal when they stand for the same number, and not-a-number equals
nothing. Sequences are compared in order and only with their own kind; the order of the entries of
a mapping does not count.
-/

namespace Assay.Data

/-- The real and the imaginary place of a number. -/
def number? : Data → Option (Extent × Extent)
  | bool b => some (.ofInt (if b then 1 else 0), .ofInt 0)
  | int n => some (.ofInt n, .ofInt 0)
  | float x => some (.ofBinary64 x, .ofInt 0)
  | complex re im => some (.ofBinary64 re, .ofBinary64 im)
  | _ => none

def sameNumber (a b : Data) : Bool :=
  match a.number?, b.number? with
  | some (x, y), some (x', y') => x.eq x' && y.eq y'
  | _, _ => false

mutual

def eq (a b : Data) : Bool :=
  match a, b with
  | null, null => true
  | text s, text t => s == t
  | codes ms, codes ns => ms == ns
  | bytes xs, bytes ys => xs == ys
  | list xs, list ys => eqItems xs ys
  | tuple xs, tuple ys => eqItems xs ys
  | mapping es, mapping fs | mapping es, view fs | view es, mapping fs | view es, view fs =>
    es.length == fs.length && eqEntries es fs
  | object as, object bs => eqAttributes as bs
  | pattern p f _, pattern q g _ => p == q && f == g
  | date d, date e => d == e
  | moment t, moment u => t.same u
  | member _ n k, member _ m l => n == m && k == l
  | a, b => sameNumber a b
termination_by structural a

def eqItems (xs ys : List Data) : Bool :=
  match xs, ys with
  | [], [] => true
  | x :: xs, y :: ys => x.eq y && eqItems xs ys
  | _, _ => false
termination_by structural xs

def eqEntries (es fs : List (Data × Data)) : Bool :=
  match es with
  | [] => true
  | (k, v) :: rest => fs.any (fun f => k.eq f.1 && v.eq f.2) && eqEntries rest fs
termination_by structural es

def eqAttributes (as bs : List (String × Data)) : Bool :=
  match as, bs with
  | [], [] => true
  | (k, v) :: as, (l, w) :: bs => k == l && v.eq w && eqAttributes as bs
  | _, _ => false
termination_by structural as

end

mutual

/-- The kind of the first part that keeps the value from being a key, if there is one. -/
def unhashable? (v : Data) : Option String :=
  match v with
  | list _ => some "list"
  | mapping _ => some "dict"
  | view _ => some "mappingproxy"
  | object _ => some "Obj"
  | tuple vs => unhashableItem? vs
  | _ => none
termination_by structural v

def unhashableItem? (vs : List Data) : Option String :=
  match vs with
  | [] => none
  | v :: rest =>
    match v.unhashable? with
    | some k => some k
    | none => unhashableItem? rest
termination_by structural vs

end

def isAmong (v : Data) (vs : List Data) : Bool := vs.any v.eq

def lookup? (key : Data) (entries : List (Data × Data)) : Option Data :=
  (entries.find? fun e => key.eq e.1).map Prod.snd

/-- Set the value under a key, in the place of an equal key or else at the end. -/
def insertEntry (key value : Data) : List (Data × Data) → List (Data × Data)
  | [] => [(key, value)]
  | (k, v) :: rest =>
    if key.eq k then (k, value) :: rest else (k, v) :: insertEntry key value rest

/-- The mapping with the given entries, a later one overriding an earlier one with its key. -/
def ofEntries (entries : List (Data × Data)) : Data :=
  mapping (entries.foldl (fun es e => insertEntry e.1 e.2 es) [])

end Assay.Data
