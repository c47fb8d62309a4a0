import Assay.Data.Equality
import Assay.Fault
import Assay.Sorting

/-! # Order of values

Real numbers are ordered by size, text and bytes alphabetically, and sequences by their first
difference. All other pairs are unordered, which is a fault.
-/

namespace Assay.Data

inductive Relation
  | less
  | greater
deriving DecidableEq

namespace Relation

def symbol : Relation → String
  | less => "<"
  | greater => ">"

def holds {α : Type} (lt : α → α → Bool) : Relation → α → α → Bool
  | less, a, b => lt a b
  | greater, a, b => lt b a

end Relation

def real? : Data → Option Extent
  | bool b => some (.ofInt (if b then 1 else 0))
  | int n => some (.ofInt n)
  | float x => some (.ofBinary64 x)
  | _ => none

/-- The order of dates and moments. Moments with an offset and without one cannot be compared, nor
can a date and a moment. -/
def compareTimes (r : Relation) (a b : Data) : Except Fault Bool :=
  match a, b with
  | date d, date e => .ok (r.holds (fun m n => decide (m < n)) d.number e.number)
  | moment t, moment u =>
    if t.offset.isSome != u.offset.isSome then .error .offsetMissing
    else .ok (r.holds (fun m n => decide (m < n)) t.instant u.instant)
  | date _, moment _ | moment _, date _ => .error .dateWithMoment
  | a, b => .error (.unordered r.symbol a.kind b.kind)

mutual

def compare (r : Relation) (a b : Data) : Except Fault Bool :=
  match a, b with
  | text s, text t => .ok (r.holds (fun s t => decide (s < t)) s t)
  | bytes xs, bytes ys => .ok (r.holds (fun xs ys => decide (xs < ys)) xs ys)
  | list xs, list ys => compareItems r xs ys
  | tuple xs, tuple ys => compareItems r xs ys
  | a, b =>
    match a.real?, b.real? with
    | some x, some y => .ok (r.holds Extent.lt x y)
    | _, _ =>
      match a.codes?, b.codes? with
      | some ms, some ns => .ok (r.holds (fun ms ns => decide (ms < ns)) ms ns)
      | _, _ => compareTimes r a b
termination_by structural a

/-- Sequences compare as their first two items that differ, or else by length. -/
def compareItems (r : Relation) (xs ys : List Data) : Except Fault Bool :=
  match xs, ys with
  | x :: xs, y :: ys => if x.eq y then compareItems r xs ys else x.compare r y
  | xs, ys => .ok (r.holds (fun m n => decide (m < n)) xs.length ys.length)
termination_by structural xs

end

/-- The values in ascending order, equal ones in the order in which they came. -/
def sort (vs : List Data) : Except Fault (List Data) :=
  match vs with
  | [] => .ok []
  | v :: rest =>
    -- the first value stands for those beyond the end of a run
    @Sorting.sort Data Fault ⟨v⟩ (compare .less) (v :: rest)

end Assay.Data
