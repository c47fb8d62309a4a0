/-! # Places of files

The text that says where a file is, read as the slashes in front and the names that lead to the
file. Names that are empty or a single dot lead nowhere and are left out, so that texts which differ
in such names only are the same place.
-/

namespace Assay.Configuration

/-- A text that leads from one place to another. -/
def IsStep (cs : List Char) : Prop := cs ≠ [] ∧ cs ≠ ['.'] ∧ '/' ∉ cs

structure Location where
  slashes : Nat
  names : List (List Char)
  few : slashes ≤ 2
  steps : ∀ n ∈ names, IsStep n

namespace Location

/-- The texts between slashes. -/
def pieces : List Char → List (List Char)
  | [] => [[]]
  | c :: cs =>
    if c = '/' then [] :: pieces cs
    else
      match pieces cs with
      | p :: ps => (c :: p) :: ps
      | [] => [[c]]

theorem slash_not_mem_pieces (cs : List Char) : ∀ p ∈ pieces cs, '/' ∉ p := by
  induction cs with
  | nil => simp [pieces]
  | cons c cs ih =>
    rw [pieces]
    split
    · exact List.forall_mem_cons.mpr ⟨List.not_mem_nil, ih⟩
    · next hc =>
      split
      · next p ps hp =>
        obtain ⟨hfirst, hrest⟩ := List.forall_mem_cons.mp (hp ▸ ih)
        refine List.forall_mem_cons.mpr ⟨fun h => ?_, hrest⟩
        exact (List.mem_cons.mp h).elim (fun h => hc h.symm) hfirst
      · simpa using Ne.symm hc

/-- The slashes that count. More than two say no more than one. -/
def slashesOf (cs : List Char) : Nat :=
  let n := (cs.takeWhile (· == '/')).length
  if n ≤ 2 then n else 1

def namesOf (cs : List Char) : List (List Char) := (pieces cs).filter fun p => p ≠ [] ∧ p ≠ ['.']

def ofText (file : String) : Location where
  slashes := slashesOf file.toList
  names := namesOf file.toList
  few := by
    unfold slashesOf
    dsimp only
    split <;> omega
  steps n hn := by
    obtain ⟨hmem, hstep⟩ := List.mem_filter.mp hn
    obtain ⟨hempty, hdot⟩ := of_decide_eq_true hstep
    exact ⟨hempty, hdot, slash_not_mem_pieces _ n hmem⟩

/-- The place as a text. The place that nothing leads away from is a single dot. -/
def text (l : Location) : String :=
  let cs := List.replicate l.slashes '/' ++ ['/'].intercalate l.names
  if cs.isEmpty then "." else .ofList cs

/-- The part of the last name from its last dot on; names that begin with their only dot, or end
with a dot, have none. -/
def suffix (l : Location) : String :=
  let name := l.names.getLast?.getD []
  let behind := (name.reverse.takeWhile (· != '.')).length
  let place := name.length - behind - 1
  if behind < name.length && 0 < place && 0 < behind then .ofList (name.drop place) else ""

end Location

end Assay.Configuration
