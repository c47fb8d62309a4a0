import Assay.Data.Equality

/-! # Paths

Where in a value something stands: the names and list positions that lead to it from the whole.
Paths are joined by appending, and the empty path stands for the whole value.
-/

namespace Assay

inductive Segment
  | name (label : Data)
  | index (position : Nat)
  /-- A boolean or a double in the place of a position. -/
  | loose (position : Data)

namespace Segment

def eq : Segment → Segment → Bool
  | name a, name b => a.eq b
  | index i, index j => i == j
  | index i, loose v | loose v, index i => v.eq (.int i)
  | loose v, loose w => v.eq w
  | _, _ => false

def isName : Segment → Bool
  | name _ => true
  | _ => false

/-- The name or position alone. -/
def value : Segment → Data
  | name v => v
  | index i => .int i
  | loose v => v

end Segment

structure Path where
  segments : List Segment

namespace Path

instance : EmptyCollection Path := ⟨⟨[]⟩⟩

def ofName (label : Data) : Path := ⟨[.name label]⟩

def isEmpty (p : Path) : Bool := p.segments.isEmpty

def length (p : Path) : Nat := p.segments.length

def join (p q : Path) : Path := ⟨p.segments ++ q.segments⟩

def child (p : Path) (label : Data) : Path := ⟨p.segments ++ [.name label]⟩

def index (p : Path) (position : Nat) : Path := ⟨p.segments ++ [.index position]⟩

def eqSegments : List Segment → List Segment → Bool
  | [], [] => true
  | s :: ss, t :: ts => s.eq t && eqSegments ss ts
  | _, _ => false

def eq (p q : Path) : Bool := eqSegments p.segments q.segments

def unhashable? (p : Path) : Option String :=
  p.segments.findSome? fun s => s.value.unhashable?

@[simp] theorem join_empty (p : Path) : p.join ∅ = p := by
  cases p; simp [join, EmptyCollection.emptyCollection]

@[simp] theorem empty_join (p : Path) : (∅ : Path).join p = p := rfl

theorem join_assoc (p q r : Path) : (p.join q).join r = p.join (q.join r) := by
  simp [join, List.append_assoc]

theorem child_eq_join (p : Path) (label : Data) : p.child label = p.join (ofName label) := rfl

theorem index_eq_join (p : Path) (i : Nat) : p.index i = p.join ⟨[.index i]⟩ := rfl

end Path

end Assay
