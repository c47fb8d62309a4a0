import Assay.Configuration.Location

/-! # Places of files as texts

The text of a place leads to it: it is read as the slashes and the names that it
was written from.
-/

namespace Assay.Configuration.Location

variable {n cs : List Char} {ns : List (List Char)}

theorem pieces_slash (cs : List Char) : pieces ('/' :: cs) = [] :: pieces cs := by
  rw [pieces, if_pos rfl]

theorem pieces_of_not_mem (h : '/' ∉ n) : pieces n = [n] := by
  induction n with
  | nil => rfl
  | cons c n ih =>
    obtain ⟨hc, hn⟩ := not_or.mp (mt List.mem_cons.mpr h)
    rw [pieces, if_neg (Ne.symm hc), ih hn]

theorem pieces_append_slash (h : '/' ∉ n) (cs : List Char) :
    pieces (n ++ '/' :: cs) = n :: pieces cs := by
  induction n with
  | nil => exact pieces_slash cs
  | cons c n ih =>
    obtain ⟨hc, hn⟩ := not_or.mp (mt List.mem_cons.mpr h)
    rw [List.cons_append, pieces, if_neg (Ne.symm hc), ih hn]

theorem namesOf_step (h : IsStep n) : namesOf n = [n] := by
  rw [namesOf, pieces_of_not_mem h.2.2]
  simp [h.1, h.2.1]

theorem namesOf_step_append (h : IsStep n) (cs : List Char) :
    namesOf (n ++ '/' :: cs) = n :: namesOf cs := by
  rw [namesOf, pieces_append_slash h.2.2]
  simp [namesOf, h.1, h.2.1]

theorem namesOf_intercalate (h : ∀ n ∈ ns, IsStep n) : namesOf (['/'].intercalate ns) = ns := by
  induction ns with
  | nil => rfl
  | cons n ns ih =>
    obtain ⟨hn, hns⟩ := List.forall_mem_cons.mp h
    cases ns with
    | nil => rw [List.intercalate_singleton, namesOf_step hn]
    | cons m ms =>
      have hcut : ['/'].intercalate (n :: m :: ms) = n ++ '/' :: ['/'].intercalate (m :: ms) := by
        simp [List.intercalate]
      rw [hcut, namesOf_step_append hn, ih hns]

theorem namesOf_slashes (k : Nat) (cs : List Char) :
    namesOf (List.replicate k '/' ++ cs) = namesOf cs := by
  induction k with
  | zero => rfl
  | succ k ih =>
    rw [List.replicate_succ, List.cons_append, namesOf, pieces_slash, ← ih]
    rfl

theorem takeWhile_intercalate (h : ∀ n ∈ ns, IsStep n) :
    (['/'].intercalate ns).takeWhile (· == '/') = [] := by
  cases ns with
  | nil => rfl
  | cons n ns =>
    obtain ⟨⟨hempty, -, hslash⟩, -⟩ := List.forall_mem_cons.mp h
    obtain ⟨c, n, rfl⟩ := List.exists_cons_of_ne_nil hempty
    have hc : ¬ (c == '/') = true := fun hc => hslash (eq_of_beq hc ▸ List.mem_cons_self)
    cases ns <;> simp [List.intercalate, hc]

theorem slashesOf_append {k : Nat} (hk : k ≤ 2) (h : cs.takeWhile (· == '/') = []) :
    slashesOf (List.replicate k '/' ++ cs) = k := by
  have hall : ∀ c ∈ List.replicate k '/', (c == '/') = true := fun c hc => by
    rw [List.eq_of_mem_replicate hc]
    rfl
  rw [slashesOf, List.takeWhile_append_of_pos hall, h, List.append_nil, List.length_replicate,
    if_pos hk]

theorem ofText_text (l : Location) : ofText l.text = l := by
  obtain ⟨k, ns, hk, hns⟩ := l
  have hnames := namesOf_intercalate hns
  rw [ofText, mk.injEq, text]
  split
  · next hempty =>
    -- the text of the empty place is a dot, which is no name
    obtain ⟨hslashes, hcs⟩ := List.append_eq_nil_iff.mp (List.isEmpty_iff.mp hempty)
    rw [hcs] at hnames
    obtain rfl : ns = [] := hnames.symm
    obtain rfl : k = 0 := by simpa using hslashes
    exact ⟨rfl, rfl⟩
  · rw [String.toList_ofList, namesOf_slashes]
    exact ⟨slashesOf_append hk (takeWhile_intercalate hns), hnames⟩

end Assay.Configuration.Location
