import Assay.Path

/-! # Issues

What a check reports when it rejects a value: where, why, and two optional tags.
-/

namespace Assay

structure Issue where
  path : Path
  message : Data
  code : Data
  group : Data

namespace Issue

def withPath (i : Issue) (path : Path) : Issue := { i with path }

def withGroup (i : Issue) (group : Data) : Issue := { i with group }

def eq (i j : Issue) : Bool :=
  i.path.eq j.path && i.message.eq j.message && i.code.eq j.code && i.group.eq j.group

def eqList : List Issue → List Issue → Bool
  | [], [] => true
  | i :: is, j :: js => i.eq j && eqList is js
  | _, _ => false

def unhashable? (i : Issue) : Option String :=
  i.path.unhashable?.orElse fun _ =>
    i.message.unhashable?.orElse fun _ =>
      i.code.unhashable?.orElse fun _ => i.group.unhashable?

end Issue

end Assay
