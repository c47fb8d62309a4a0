import Mathlib.Data.List.Sort
import Assay.Proofs.Sorting.Searching

/-! # Merges and sorted lists

The merge of two lists can be cut where one of them goes on alone, at either end,
and the lists of a longer merge can be merged in any order. A sorted list is the
merge of its sorted parts.
-/

namespace Assay.Sorting

variable {α κ : Type} [LinearOrder κ] {key : α → κ} {v x y : α} {vs ws xs xs' ys ys' : List α}

/-- The merge of two lists, an item of the first before one of the second that has the same key. -/
def mergeBy (key : α → κ) (xs ys : List α) : List α := xs.merge ys fun v w => key v ≤ key w

@[simp] theorem mergeBy_nil_left : mergeBy key [] ys = ys := List.nil_merge _

@[simp] theorem mergeBy_nil_right : mergeBy key xs [] = xs := List.merge_right _

theorem mergeBy_cons_of_le (h : key x ≤ key y) :
    mergeBy key (x :: xs) (y :: ys) = x :: mergeBy key xs (y :: ys) :=
  List.cons_merge_cons_pos _ _ _ (decide_eq_true h)

theorem mergeBy_cons_of_lt (h : key y < key x) :
    mergeBy key (x :: xs) (y :: ys) = y :: mergeBy key (x :: xs) ys :=
  List.cons_merge_cons_neg _ _ _ (by simpa using h)

theorem mergeBy_append_left (h : ∀ x ∈ xs, ∀ y ∈ ys, key x ≤ key y) :
    mergeBy key (xs ++ xs') ys = xs ++ mergeBy key xs' ys := by
  induction xs with
  | nil => rfl
  | cons x xs ih =>
    obtain ⟨hx, hxs⟩ := List.forall_mem_cons.mp h
    cases ys with
    | nil => simp
    | cons y ys =>
      rw [List.cons_append, mergeBy_cons_of_le (hx y List.mem_cons_self), ih hxs, List.cons_append]

theorem mergeBy_append_right (h : ∀ y ∈ ys, ∀ x ∈ xs, key y < key x) :
    mergeBy key xs (ys ++ ys') = ys ++ mergeBy key xs ys' := by
  induction ys with
  | nil => rfl
  | cons y ys ih =>
    obtain ⟨hy, hys⟩ := List.forall_mem_cons.mp h
    cases xs with
    | nil => simp
    | cons x xs =>
      rw [List.cons_append, mergeBy_cons_of_lt (hy x List.mem_cons_self), ih hys, List.cons_append]

theorem mergeBy_of_le (h : ∀ x ∈ xs, ∀ y ∈ ys, key x ≤ key y) : mergeBy key xs ys = xs ++ ys := by
  simpa using (mergeBy_append_left h : mergeBy key (xs ++ []) ys = _)

theorem mergeBy_of_lt (h : ∀ y ∈ ys, ∀ x ∈ xs, key y < key x) : mergeBy key xs ys = ys ++ xs := by
  simpa using (mergeBy_append_right h : mergeBy key xs (ys ++ []) = _)

theorem mergeBy_append_left_last (h : ∀ x ∈ xs', ∀ y ∈ ys, key y < key x) :
    mergeBy key (xs ++ xs') ys = mergeBy key xs ys ++ xs' := by
  induction xs generalizing ys with
  | nil =>
    rw [List.nil_append, mergeBy_nil_left]
    exact mergeBy_of_lt fun y hy x hx => h x hx y hy
  | cons x xs ihx =>
    induction ys with
    | nil => simp
    | cons y ys ihy =>
      rcases le_or_gt (key x) (key y) with hle | hlt
      · rw [List.cons_append, mergeBy_cons_of_le hle, ihx h, mergeBy_cons_of_le hle,
          List.cons_append]
      · have hys : ∀ x ∈ xs', ∀ y ∈ ys, key y < key x :=
          fun v hv w hw => h v hv w (List.mem_cons_of_mem y hw)
        rw [mergeBy_cons_of_lt hlt, List.cons_append, mergeBy_cons_of_lt hlt, ← List.cons_append,
          ihy hys, List.cons_append]

theorem mergeBy_append_right_last (h : ∀ y ∈ ys', ∀ x ∈ xs, key x ≤ key y) :
    mergeBy key xs (ys ++ ys') = mergeBy key xs ys ++ ys' := by
  induction xs generalizing ys with
  | nil => simp
  | cons x xs ihx =>
    have hxs : ∀ y ∈ ys', ∀ x ∈ xs, key x ≤ key y :=
      fun w hw v hv => h w hw v (List.mem_cons_of_mem x hv)
    induction ys with
    | nil =>
      rw [List.nil_append, mergeBy_nil_right]
      exact mergeBy_of_le fun x hx y hy => h y hy x hx
    | cons y ys ihy =>
      rcases le_or_gt (key x) (key y) with hle | hlt
      · rw [List.cons_append, mergeBy_cons_of_le hle, ← List.cons_append, ihx hxs,
          mergeBy_cons_of_le hle, List.cons_append]
      · rw [List.cons_append, mergeBy_cons_of_lt hlt, ihy, mergeBy_cons_of_lt hlt, List.cons_append]

/-- Of three lists, either two neighbouring ones can be merged first. -/
theorem mergeBy_assoc (xs ys zs : List α) :
    mergeBy key xs (mergeBy key ys zs) = mergeBy key (mergeBy key xs ys) zs := by
  induction xs generalizing ys zs with
  | nil => simp
  | cons x xs ihx =>
    induction ys generalizing zs with
    | nil => simp
    | cons y ys ihy =>
      induction zs with
      | nil => simp
      | cons z zs ihz =>
        rcases le_or_gt (key x) (key y) with hxy | hyx <;>
          rcases le_or_gt (key y) (key z) with hyz | hzy
        · rw [mergeBy_cons_of_le hyz, mergeBy_cons_of_le hxy, mergeBy_cons_of_le hxy,
            mergeBy_cons_of_le (hxy.trans hyz), ← ihx, mergeBy_cons_of_le hyz]
        · rcases le_or_gt (key x) (key z) with hxz | hzx
          · rw [mergeBy_cons_of_lt hzy, mergeBy_cons_of_le hxz, mergeBy_cons_of_le hxy,
              mergeBy_cons_of_le hxz, ← ihx, mergeBy_cons_of_lt hzy]
          · rw [mergeBy_cons_of_lt hzy, mergeBy_cons_of_lt hzx, ihz, mergeBy_cons_of_le hxy,
              mergeBy_cons_of_lt hzx]
        · rw [mergeBy_cons_of_le hyz, mergeBy_cons_of_lt hyx, ihy, mergeBy_cons_of_lt hyx,
            mergeBy_cons_of_le hyz]
        · rw [mergeBy_cons_of_lt hzy, mergeBy_cons_of_lt (hzy.trans hyx), ihz,
            mergeBy_cons_of_lt hyx, mergeBy_cons_of_lt hzy]

/-- The items in ascending order of their keys, those with the same key in the order in which they
came. -/
def sortBy (key : α → κ) (vs : List α) : List α := vs.insertionSort fun v w => key v ≤ key w

@[simp] theorem sortBy_nil : sortBy key [] = [] := rfl

@[simp] theorem length_sortBy : (sortBy key vs).length = vs.length :=
  List.length_insertionSort _ _

theorem mem_sortBy : v ∈ sortBy key vs ↔ v ∈ vs := List.mem_insertionSort _

theorem ascending_sortBy : Ascending key (sortBy key vs) :=
  have : Std.Total fun v w : α => key v ≤ key w := ⟨fun v w => le_total (key v) (key w)⟩
  have : IsTrans α fun v w => key v ≤ key w := ⟨fun _ _ _ => le_trans⟩
  List.pairwise_insertionSort _ vs

theorem sortBy_of_ascending (h : Ascending key vs) : sortBy key vs = vs :=
  List.Pairwise.insertionSort_eq h

theorem sortBy_cons : sortBy key (v :: vs) = mergeBy key [v] (sortBy key vs) := by
  change List.orderedInsert _ v (sortBy key vs) = _
  induction sortBy key vs with
  | nil => simp
  | cons w ws ih =>
    rcases le_or_gt (key v) (key w) with hle | hlt
    · rw [mergeBy_cons_of_le hle, mergeBy_nil_left, List.orderedInsert_cons, if_pos hle]
    · rw [mergeBy_cons_of_lt hlt, List.orderedInsert_cons, if_neg hlt.not_ge, ih]

theorem sortBy_append : sortBy key (vs ++ ws) = mergeBy key (sortBy key vs) (sortBy key ws) := by
  induction vs with
  | nil => simp
  | cons v vs ih => rw [List.cons_append, sortBy_cons, ih, mergeBy_assoc, ← sortBy_cons]

theorem sortBy_of_descending (h : vs.Pairwise fun v w => key w < key v) :
    sortBy key vs = vs.reverse := by
  induction vs with
  | nil => rfl
  | cons v vs ih =>
    obtain ⟨hv, hvs⟩ := List.pairwise_cons.mp h
    rw [sortBy_cons, ih hvs, mergeBy_of_lt, List.reverse_cons]
    simpa using hv

theorem sortBy_concat {n : Nat} (h : Parts (fun w => key w ≤ key v) (sortBy key vs) n) :
    sortBy key (vs ++ [v]) = (sortBy key vs).take n ++ v :: (sortBy key vs).drop n := by
  have hfront : ∀ x ∈ (sortBy key vs).take n, ∀ y ∈ [v], key x ≤ key y := by simpa using h.2.1
  have hback : ∀ y ∈ [v], ∀ x ∈ (sortBy key vs).drop n, key y < key x := by simpa using h.2.2
  calc sortBy key (vs ++ [v])
      = mergeBy key ((sortBy key vs).take n ++ (sortBy key vs).drop n) [v] := by
        rw [sortBy_append, List.take_append_drop]
        rfl
    _ = (sortBy key vs).take n ++ mergeBy key ((sortBy key vs).drop n) [v] :=
        mergeBy_append_left hfront
    _ = _ := by rw [mergeBy_of_lt hback, List.singleton_append]

end Assay.Sorting
