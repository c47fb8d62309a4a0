import Assay.Proofs.Sorting.Laws

/-! # Merging

Two runs are merged from their front or from their back, item by item or by
leaps, and either way into the merge of the two lists. What has been merged at
any time and the merge of what is left make up the whole.
-/

namespace Assay.Sorting

variable {α ε κ : Type} [LinearOrder κ] {key : α → κ}

section States

variable {a b : Array α} {p : Progress α} {n : Nat}

@[simp] theorem left_eased : p.eased.left = p.left := rfl

@[simp] theorem right_eased : p.eased.right = p.right := rfl

@[simp] theorem left_raised : p.raised.left = p.left := rfl

@[simp] theorem right_raised : p.raised.right = p.right := rfl

@[simp] theorem left_takeLeft : (p.takeLeft a n).left = p.left + n := rfl

@[simp] theorem right_takeLeft : (p.takeLeft a n).right = p.right := rfl

@[simp] theorem left_takeRight : (p.takeRight b n).left = p.left := rfl

@[simp] theorem right_takeRight : (p.takeRight b n).right = p.right + n := rfl

@[simp] theorem left_dropLeft : (p.dropLeft a n).left = p.left - n := rfl

@[simp] theorem right_dropLeft : (p.dropLeft a n).right = p.right := rfl

@[simp] theorem left_dropRight : (p.dropRight b n).left = p.left := rfl

@[simp] theorem right_dropRight : (p.dropRight b n).right = p.right - n := rfl

theorem reverse_takeLeft (p : Progress α) (n : Nat) :
    (p.takeLeft a n).merged.reverse = p.merged.reverse ++ (a.toList.drop p.left).take n := by
  simp [Progress.takeLeft, List.extract_eq_take_drop]

theorem reverse_takeRight (p : Progress α) (n : Nat) :
    (p.takeRight b n).merged.reverse = p.merged.reverse ++ (b.toList.drop p.right).take n := by
  simp [Progress.takeRight, List.extract_eq_take_drop]

theorem isForwardDone_iff : p.isForwardDone a b ↔ p.right = b.size ∨ a.size ≤ p.left + 1 := by
  simp [Progress.isForwardDone]

/-- What has been merged, and after it the merge of what is left, is the whole. -/
structure Ahead (key : α → κ) (a b : Array α) (p : Progress α) : Prop where
  bound : p.right ≤ b.size
  whole : p.merged.reverse ++ mergeBy key (a.toList.drop p.left) (b.toList.drop p.right) =
    mergeBy key a.toList b.toList

/-- What has been merged, and after it what is left, is the whole. -/
def AheadAtEnd (key : α → κ) (a b : Array α) (p : Progress α) : Prop :=
  p.merged.reverse ++ (b.toList.drop p.right ++ a.toList.drop p.left) =
    mergeBy key a.toList b.toList

namespace Ahead

variable (hp : Ahead key a b p)

include hp

theorem takeLeft (h : ∀ x ∈ (a.toList.drop p.left).take n, ∀ y ∈ b.toList.drop p.right,
    key x ≤ key y) : Ahead key a b (p.takeLeft a n) := by
  refine ⟨hp.bound, ?_⟩
  have hmerge : mergeBy key (a.toList.drop p.left) (b.toList.drop p.right) =
      (a.toList.drop p.left).take n ++
        mergeBy key (a.toList.drop (p.left + n)) (b.toList.drop p.right) := by
    rw [← mergeBy_append_left h, ← List.drop_drop, List.take_append_drop]
  rw [← hp.whole, hmerge, reverse_takeLeft, List.append_assoc]
  rfl

theorem takeRight (hn : p.right + n ≤ b.size) (h : ∀ y ∈ (b.toList.drop p.right).take n,
    ∀ x ∈ a.toList.drop p.left, key y < key x) : Ahead key a b (p.takeRight b n) := by
  refine ⟨hn, ?_⟩
  have hmerge : mergeBy key (a.toList.drop p.left) (b.toList.drop p.right) =
      (b.toList.drop p.right).take n ++
        mergeBy key (a.toList.drop p.left) (b.toList.drop (p.right + n)) := by
    rw [← mergeBy_append_right h, ← List.drop_drop, List.take_append_drop]
  rw [← hp.whole, hmerge, reverse_takeRight, List.append_assoc]
  rfl

theorem lt_of_not_done (hgo : ¬ p.isForwardDone a b) : p.right < b.size ∧ p.left + 1 < a.size := by
  have hbound := hp.bound
  rw [isForwardDone_iff] at hgo
  omega

/-- When the right run is used up, or the left one but for its last item, the rest is in order. -/
theorem atEnd (hlast : ∀ x ∈ a.toList.drop (a.size - 1), ∀ y ∈ b.toList, key y < key x)
    (hdone : p.isForwardDone a b) : AheadAtEnd key a b p := by
  unfold AheadAtEnd
  rw [← hp.whole, mergeBy_of_lt fun y hy x hx => ?_]
  rcases isForwardDone_iff.mp hdone with hright | hleft
  · rw [List.drop_of_length_le (by simp [hright])] at hy
    exact absurd hy List.not_mem_nil
  · have hsubset := List.drop_subset_drop_left a.toList (by omega : a.size - 1 ≤ p.left)
    exact hlast x (hsubset hx) y (List.mem_of_mem_drop hy)

end Ahead

theorem take_eq_take_append (vs : List α) {m n : Nat} (h : m ≤ n) :
    vs.take n = vs.take m ++ (vs.take n).drop m := by
  rw [← Nat.min_eq_left h, ← List.take_take, Nat.min_eq_left h, List.take_append_drop]

theorem merged_dropLeft (p : Progress α) (n : Nat) :
    (p.dropLeft a n).merged = (a.toList.take p.left).drop (p.left - n) ++ p.merged := by
  simp [Progress.dropLeft, List.extract_eq_take_drop, List.drop_take]

theorem merged_dropRight (p : Progress α) (n : Nat) :
    (p.dropRight b n).merged = (b.toList.take p.right).drop (p.right - n) ++ p.merged := by
  simp [Progress.dropRight, List.extract_eq_take_drop, List.drop_take]

theorem isBackwardDone_iff : p.isBackwardDone ↔ p.left = 0 ∨ p.right ≤ 1 := by
  simp [Progress.isBackwardDone]

/-- The merge of what is left, and after it what has been merged, is the whole. -/
structure Behind (key : α → κ) (a b : Array α) (p : Progress α) : Prop where
  left_le : p.left ≤ a.size
  right_le : p.right ≤ b.size
  whole : mergeBy key (a.toList.take p.left) (b.toList.take p.right) ++ p.merged =
    mergeBy key a.toList b.toList

/-- What is left, and after it what has been merged, is the whole. -/
def BehindAtEnd (key : α → κ) (a b : Array α) (p : Progress α) : Prop :=
  b.toList.take p.right ++ a.toList.take p.left ++ p.merged = mergeBy key a.toList b.toList

namespace Behind

variable (hp : Behind key a b p)

include hp

theorem dropLeft (h : ∀ x ∈ (a.toList.take p.left).drop (p.left - n),
    ∀ y ∈ b.toList.take p.right, key y < key x) : Behind key a b (p.dropLeft a n) := by
  refine ⟨(Nat.sub_le _ _).trans hp.left_le, hp.right_le, ?_⟩
  rw [← hp.whole, take_eq_take_append a.toList (Nat.sub_le p.left n), mergeBy_append_left_last h,
    List.append_assoc, merged_dropLeft]
  rfl

theorem dropRight (h : ∀ y ∈ (b.toList.take p.right).drop (p.right - n),
    ∀ x ∈ a.toList.take p.left, key x ≤ key y) : Behind key a b (p.dropRight b n) := by
  refine ⟨hp.left_le, (Nat.sub_le _ _).trans hp.right_le, ?_⟩
  rw [← hp.whole, take_eq_take_append b.toList (Nat.sub_le p.right n), mergeBy_append_right_last h,
    List.append_assoc, merged_dropRight]
  rfl

omit hp in
theorem lt_of_not_done (hgo : ¬ p.isBackwardDone) : 0 < p.left ∧ 1 < p.right := by
  rw [isBackwardDone_iff] at hgo
  omega

theorem atEnd (hfirst : ∀ y ∈ b.toList.take 1, ∀ x ∈ a.toList, key y < key x)
    (hdone : p.isBackwardDone) : BehindAtEnd key a b p := by
  unfold BehindAtEnd
  rw [← hp.whole, mergeBy_of_lt fun y hy x hx => ?_]
  rcases isBackwardDone_iff.mp hdone with hleft | hright
  · rw [hleft] at hx
    exact absurd hx List.not_mem_nil
  · exact hfirst y (List.take_subset_take_left _ hright hy) x (List.mem_of_mem_take hx)

end Behind

end States

variable {P : α → Prop} {lt : α → α → Except ε Bool}

structure IsRun (P : α → Prop) (key : α → κ) (a : Array α) : Prop where
  ascending : Ascending key a.toList
  holds : ∀ v ∈ a.toList, P v

theorem IsRun.extract {a : Array α} (ha : IsRun P key a) (i j : Nat) :
    IsRun P key (a.extract i j) := by
  have hsublist : (a.extract i j).toList.Sublist a.toList := by
    rw [Array.toList_extract, List.extract_eq_take_drop]
    exact (List.take_sublist _ _).trans (List.drop_sublist _ _)
  exact ⟨ha.ascending.sublist hsublist, fun v hv => ha.holds v (hsublist.subset hv)⟩

theorem toList_front (a : Array α) (n : Nat) : (a.extract 0 n).toList = a.toList.take n := by
  simp [List.extract_eq_take_drop]

theorem toList_back (a : Array α) (n : Nat) : (a.extract n a.size).toList = a.toList.drop n := by
  simp [List.take_of_length_le]

variable [Inhabited α] {a b : Array α} {v : α} {ws : List α} {i start n hint : Nat}

theorem drop_eq_cons (hi : i < a.size) :
    a.toList.drop i = a.getD i default :: a.toList.drop (i + 1) := by
  rw [List.drop_eq_getElem_cons (by simpa using hi)]
  simp [Array.getD, hi]

theorem take_eq_append (hpos : 0 < i) (hi : i ≤ a.size) :
    a.toList.take i = a.toList.take (i - 1) ++ [a.getD (i - 1) default] := by
  obtain ⟨i, rfl⟩ := Nat.exists_eq_add_one_of_ne_zero hpos.ne'
  have hi : i < a.size := hi
  rw [List.take_succ_eq_append_getElem (by simpa using hi)]
  simp [Array.getD, hi]

namespace IsRun

variable (ha : IsRun P key a)

include ha

theorem getD (hi : i < a.size) : P (a.getD i default) := by
  refine ha.holds _ ?_
  simp [Array.getD, hi]

theorem le_of_mem_drop (hi : i < a.size) :
    ∀ v ∈ a.toList.drop i, key (a.getD i default) ≤ key v := by
  have hsorted : Ascending key (a.toList.drop i) := ha.ascending.sublist (List.drop_sublist i _)
  rw [drop_eq_cons hi] at hsorted ⊢
  exact List.forall_mem_cons.mpr ⟨le_rfl, (List.pairwise_cons.mp hsorted).1⟩

theorem le_of_mem_take (hpos : 0 < i) (hi : i ≤ a.size) :
    ∀ v ∈ a.toList.take i, key v ≤ key (a.getD (i - 1) default) := by
  have hsorted : Ascending key (a.toList.take i) := ha.ascending.sublist (List.take_sublist i _)
  rw [take_eq_append hpos hi] at hsorted ⊢
  have hbefore := (List.pairwise_append.mp hsorted).2.2
  refine List.forall_mem_append.mpr ⟨fun v hv => hbefore v hv _ (List.mem_singleton_self _), ?_⟩
  simp

omit [Inhabited α] in
theorem ascending_window : Ascending key ((a.toList.drop start).take n) :=
  ha.ascending.sublist ((List.take_sublist n _).trans (List.drop_sublist start _))

omit ha in
theorem getD_window (hi : i < ((a.toList.drop start).take n).length) :
    a.getD (start + i) default = ((a.toList.drop start).take n)[i] := by
  have hbound : start + i < a.size := by
    rw [List.length_take, List.length_drop, Array.length_toList] at hi
    omega
  simp [Array.getD, hbound]

theorem yields_notGreater (hlt : Compares P key lt) (hv : P v) (hn : start + n ≤ a.size)
    (hhint : hint < n) (hws : (a.toList.drop start).take n = ws) :
    Yields (notGreater lt v a start n hint) (Parts (fun w => key w ≤ key v) ws) := by
  subst hws
  have hlength : ((a.toList.drop start).take n).length = n := by simp; omega
  refine yields_gallop hlength hhint ?_ fun i hi => ?_
  · exact ha.ascending_window.imp fun hle => hle.trans
  · rw [hlt hv (ha.getD (by omega)), getD_window hi]
    change Except.ok (!decide _) = _
    rw [← decide_not, decide_eq_decide.mpr not_lt]

theorem yields_less (hlt : Compares P key lt) (hv : P v) (hn : start + n ≤ a.size)
    (hhint : hint < n) (hws : (a.toList.drop start).take n = ws) :
    Yields (less lt v a start n hint) (Parts (fun w => key w < key v) ws) := by
  subst hws
  have hlength : ((a.toList.drop start).take n).length = n := by simp; omega
  refine yields_gallop hlength hhint ?_ fun i hi => ?_
  · exact ha.ascending_window.imp fun hle => hle.trans_lt
  · rw [hlt (ha.getD (by omega)) hv, getD_window hi]

end IsRun

section Forward

variable {p : Progress α} (ha : IsRun P key a) (hb : IsRun P key b)

namespace Ahead

variable (hp : Ahead key a b p) (hleft : p.left < a.size) (hright : p.right < b.size)

include hp

include hleft in
theorem takeLeft_one (h : ∀ y ∈ b.toList.drop p.right, key (a.getD p.left default) ≤ key y) :
    Ahead key a b (p.takeLeft a 1) := by
  refine hp.takeLeft ?_
  rw [drop_eq_cons hleft]
  simpa using h

include hright in
theorem takeRight_one (h : ∀ x ∈ a.toList.drop p.left, key (b.getD p.right default) < key x) :
    Ahead key a b (p.takeRight b 1) := by
  refine hp.takeRight hright ?_
  rw [drop_eq_cons hright]
  simpa using h

variable (hlt : Compares P key lt)

include ha hb hleft hright hlt

theorem yields_takeLeft :
    Yields (notGreater lt (b.getD p.right default) a p.left (a.size - p.left) 0) fun m =>
      Ahead key a b (p.takeLeft a m) ∧
        ∀ x ∈ a.toList.drop (p.left + m), key (b.getD p.right default) < key x := by
  have hcount := ha.yields_notGreater hlt (hb.getD hright)
    (by omega : p.left + (a.size - p.left) ≤ a.size) (by omega : 0 < a.size - p.left)
    (List.take_of_length_le (by simp))
  refine hcount.imp fun m hm => ⟨hp.takeLeft fun x hx y hy => ?_, fun x hx => ?_⟩
  · exact (hm.2.1 x hx).trans (hb.le_of_mem_drop hright y hy)
  · exact lt_of_not_ge (hm.2.2 x (by rwa [List.drop_drop]))

theorem yields_takeRight :
    Yields (less lt (a.getD p.left default) b p.right (b.size - p.right) 0) fun n =>
      Ahead key a b (p.takeRight b n) ∧
        ∀ y ∈ b.toList.drop (p.right + n), key (a.getD p.left default) ≤ key y := by
  have hcount := hb.yields_less hlt (ha.getD hleft)
    (by omega : p.right + (b.size - p.right) ≤ b.size) (by omega : 0 < b.size - p.right)
    (List.take_of_length_le (by simp))
  refine hcount.imp fun n hn => ⟨hp.takeRight ?_ fun y hy x hx => ?_, fun y hy => ?_⟩
  · have hbound : n ≤ b.size - p.right := by simpa using hn.1
    omega
  · exact (hn.2.1 y hy).trans_le (ha.le_of_mem_drop hleft x hx)
  · exact le_of_not_gt (hn.2.2 y (by rwa [List.drop_drop]))

end Ahead

variable (hlt : Compares P key lt)
  (hlast : ∀ x ∈ a.toList.drop (a.size - 1), ∀ y ∈ b.toList, key y < key x)

include ha hb hlt hlast

theorem yields_leapForward (hp : Ahead key a b p) (hgo : ¬ p.isForwardDone a b) :
    Yields (leapForward lt a b p) fun r => match r with
      | (q, none) => AheadAtEnd key a b q
      | (q, some _) => Ahead key a b q ∧ ¬ q.isForwardDone a b ∧
          p.left < q.left ∧ p.right < q.right := by
  have heased : Ahead key a b p.eased := ⟨hp.bound, hp.whole⟩
  obtain ⟨hr, hl⟩ : p.right < b.size ∧ p.left + 1 < a.size := hp.lt_of_not_done hgo
  unfold leapForward
  refine yields_bind (heased.yields_takeLeft ha hb (Nat.lt_of_succ_lt hl) hr hlt) fun m hm => ?_
  obtain ⟨hleft, hbeyond⟩ := hm
  refine yields_ite (fun hdone => yields_pure ?_) fun hmore => ?_
  · exact hleft.atEnd hlast (Bool.and_elim_right hdone)
  have hl : p.left + m + 1 < a.size := by
    rcases Nat.eq_zero_or_pos m with rfl | hpos
    · exact hl
    · simp [isForwardDone_iff] at hmore
      omega
  have hright := hleft.takeRight_one hr hbeyond
  refine yields_ite (fun hdone => yields_pure (hright.atEnd hlast hdone)) fun hgo => ?_
  have hr : p.right + 1 < b.size := (hright.lt_of_not_done hgo).1
  refine yields_bind (hright.yields_takeRight ha hb (Nat.lt_of_succ_lt hl) hr hlt) fun n hn => ?_
  obtain ⟨hrights, hbeyond⟩ := hn
  refine yields_ite (fun hdone => yields_pure ?_) fun _ => ?_
  · exact hrights.atEnd hlast (Bool.and_elim_right hdone)
  have hlefts := hrights.takeLeft_one (Nat.lt_of_succ_lt hl) hbeyond
  refine yields_ite (fun hdone => yields_pure (hlefts.atEnd hlast hdone)) fun hgo => ?_
  refine yields_pure ⟨hlefts, hgo, ?_, ?_⟩
  · simp only [left_takeLeft, left_takeRight, left_eased]
    omega
  · simp only [right_takeLeft, right_takeRight, right_eased]
    omega

theorem yields_forward (fuel : Nat) (pace : Pace) (hp : Ahead key a b p)
    (hgo : ¬ p.isForwardDone a b) (hfuel : a.size - p.left + (b.size - p.right) ≤ fuel) :
    Yields (forward lt a b fuel pace p) (AheadAtEnd key a b) := by
  induction fuel generalizing pace p with
  | zero =>
    obtain ⟨hr, hl⟩ := hp.lt_of_not_done hgo
    omega
  | succ fuel ih =>
    obtain ⟨hr, hl⟩ := hp.lt_of_not_done hgo
    unfold forward
    cases pace with
    | single x y =>
      -- one more item has been taken, and the merge ends or goes on in one of its two ways
      have hnext : ∀ (q : Progress α) (c : Prop) [Decidable c] (pace : Pace), Ahead key a b q →
          p.left + p.right < q.left + q.right → p.left ≤ q.left → p.right ≤ q.right →
          Yields (if q.isForwardDone a b then pure q
            else if c then forward lt a b fuel .leaping q.raised
            else forward lt a b fuel pace q) (AheadAtEnd key a b) := by
        intro q c _ pace hq hmore hleft hright
        refine yields_ite (fun hdone => yields_pure (hq.atEnd hlast hdone)) fun hgo => ?_
        have hraised : Ahead key a b q.raised := ⟨hq.bound, hq.whole⟩
        refine yields_ite (fun _ => ih _ hraised hgo ?_) fun _ => ih _ hq hgo (by omega)
        simp
        omega
      refine yields_bind ⟨_, hlt (hb.getD hr) (ha.getD (by omega)), rfl⟩ fun c hc => ?_
      subst hc
      refine yields_ite (fun hless => ?_) fun hge => ?_
      · have hless := of_decide_eq_true hless
        refine hnext _ _ _ (hp.takeRight_one hr fun x hx => ?_) (by simp) (by simp) (by simp)
        exact hless.trans_le (ha.le_of_mem_drop (by omega) x hx)
      · have hge := not_lt.mp fun h => hge (decide_eq_true h)
        refine hnext _ _ _ (hp.takeLeft_one (by omega) fun y hy => ?_) (by simp) (by simp) (by simp)
        exact hge.trans (hb.le_of_mem_drop hr y hy)
    | leaping =>
      refine yields_bind (yields_leapForward ha hb hlt hlast hp hgo) fun r hr => ?_
      rcases r with ⟨q, _ | _ | _⟩
      · exact yields_pure hr
      · obtain ⟨hq, hgo, hleft, hright⟩ := hr
        exact ih _ ⟨hq.bound, hq.whole⟩ hgo (by simp; omega)
      · obtain ⟨hq, hgo, hleft, hright⟩ := hr
        exact ih _ hq hgo (by omega)

theorem yields_mergeForward (hfirst : ∀ y ∈ b.toList.take 1, ∀ x ∈ a.toList, key y < key x)
    (hb' : 0 < b.size) (streak : Nat) : Yields (mergeForward lt a b streak) fun r =>
      r.1.toList = mergeBy key a.toList b.toList := by
  have hnone : Ahead key a b ⟨0, 0, [], streak⟩ := ⟨Nat.zero_le _, by simp⟩
  have hstart := hnone.takeRight hb' (by simpa using hfirst)
  have hrest : ∀ p, AheadAtEnd key a b p → (p.merged.reverse ++
      ((b.extract p.right b.size).toList ++ (a.extract p.left a.size).toList)) =
      mergeBy key a.toList b.toList := by
    intro p hp
    rw [toList_back, toList_back]
    exact hp
  unfold mergeForward
  refine yields_ite (fun hdone => ?_) fun hgo => ?_
  · exact yields_bind (yields_pure (hstart.atEnd hlast hdone)) fun p hp => yields_pure (hrest p hp)
  · refine yields_bind (yields_forward ha hb hlt hlast _ _ hstart hgo ?_) fun p hp =>
      yields_pure (hrest p hp)
    simp

end Forward

section Backward

variable {p : Progress α} (ha : IsRun P key a) (hb : IsRun P key b)

namespace Behind

variable (hp : Behind key a b p) (hleft : 0 < p.left) (hright : 0 < p.right)

include hp

include hleft in
theorem dropLeft_one (h : ∀ y ∈ b.toList.take p.right, key y < key (a.getD (p.left - 1) default)) :
    Behind key a b (p.dropLeft a 1) := by
  refine hp.dropLeft ?_
  have hbound := hp.left_le
  rw [take_eq_append hleft hbound, List.drop_left' (by simp; omega)]
  simpa using h

include hright in
theorem dropRight_one
    (h : ∀ x ∈ a.toList.take p.left, key x ≤ key (b.getD (p.right - 1) default)) :
    Behind key a b (p.dropRight b 1) := by
  refine hp.dropRight ?_
  have hbound := hp.right_le
  rw [take_eq_append hright hbound, List.drop_left' (by simp; omega)]
  simpa using h

variable (hlt : Compares P key lt)

include ha hb hleft hright hlt

theorem yields_dropLeft :
    Yields (notGreater lt (b.getD (p.right - 1) default) a 0 p.left (p.left - 1)) fun m =>
      m ≤ p.left ∧ Behind key a b (p.dropLeft a (p.left - m)) ∧
        ∀ x ∈ a.toList.take m, key x ≤ key (b.getD (p.right - 1) default) := by
  have hl := hp.left_le
  have hr := hp.right_le
  have hcount := ha.yields_notGreater hlt (hb.getD (by omega : p.right - 1 < b.size))
    (by omega : 0 + p.left ≤ a.size) (by omega : p.left - 1 < p.left) rfl
  refine hcount.imp fun m hm => ?_
  have hbound : m ≤ p.left := hm.1.trans (List.length_take_le _ _)
  refine ⟨hbound, hp.dropLeft fun x hx y hy => ?_, fun x hx => hm.2.1 x ?_⟩
  · rw [Nat.sub_sub_self hbound] at hx
    exact (hb.le_of_mem_take hright hr y hy).trans_lt (lt_of_not_ge (hm.2.2 x hx))
  · change x ∈ (a.toList.take p.left).take m
    rwa [List.take_take, Nat.min_eq_left hbound]

theorem yields_dropRight :
    Yields (less lt (a.getD (p.left - 1) default) b 0 p.right (p.right - 1)) fun n =>
      n ≤ p.right ∧ Behind key a b (p.dropRight b (p.right - n)) ∧
        ∀ y ∈ b.toList.take n, key y < key (a.getD (p.left - 1) default) := by
  have hl := hp.left_le
  have hr := hp.right_le
  have hcount := hb.yields_less hlt (ha.getD (by omega : p.left - 1 < a.size))
    (by omega : 0 + p.right ≤ b.size) (by omega : p.right - 1 < p.right) rfl
  refine hcount.imp fun n hn => ?_
  have hbound : n ≤ p.right := hn.1.trans (List.length_take_le _ _)
  refine ⟨hbound, hp.dropRight fun y hy x hx => ?_, fun y hy => hn.2.1 y ?_⟩
  · rw [Nat.sub_sub_self hbound] at hy
    exact (ha.le_of_mem_take hleft hl x hx).trans (le_of_not_gt (hn.2.2 y hy))
  · change y ∈ (b.toList.take p.right).take n
    rwa [List.take_take, Nat.min_eq_left hbound]

end Behind

variable (hlt : Compares P key lt)
  (hfirst : ∀ y ∈ b.toList.take 1, ∀ x ∈ a.toList, key y < key x)

include ha hb hlt hfirst

theorem yields_leapBackward (hp : Behind key a b p) (hgo : ¬ p.isBackwardDone) :
    Yields (leapBackward lt a b p) fun r => match r with
      | (q, none) => BehindAtEnd key a b q
      | (q, some _) => Behind key a b q ∧ ¬ q.isBackwardDone ∧
          q.left < p.left ∧ q.right < p.right := by
  have heased : Behind key a b p.eased := ⟨hp.left_le, hp.right_le, hp.whole⟩
  obtain ⟨hl, hr⟩ : 0 < p.left ∧ 1 < p.right := Behind.lt_of_not_done hgo
  unfold leapBackward
  refine yields_bind (heased.yields_dropLeft ha hb hl (Nat.zero_lt_of_lt hr) hlt) fun m hm => ?_
  obtain ⟨hbound, hleft, hbefore⟩ := hm
  have hbound : p.left - (p.left - m) = m := Nat.sub_sub_self hbound
  refine yields_ite (fun hdone => yields_pure ?_) fun hmore => ?_
  · exact hleft.atEnd hfirst (Bool.and_elim_right hdone)
  have hl : 0 < m := by
    rcases Nat.eq_zero_or_pos m with rfl | hpos
    · simp [isBackwardDone_iff] at hmore
      omega
    · exact hpos
  have hright := hleft.dropRight_one (Nat.zero_lt_of_lt hr) (by simpa [hbound] using hbefore)
  refine yields_ite (fun hdone => yields_pure (hright.atEnd hfirst hdone)) fun hgo => ?_
  obtain ⟨hl', hr'⟩ := Behind.lt_of_not_done hgo
  refine yields_bind (hright.yields_dropRight ha hb hl' (Nat.zero_lt_of_lt hr') hlt) fun n hn => ?_
  obtain ⟨hbound', hrights, hbefore⟩ := hn
  have hbound' : p.right - 1 - (p.right - 1 - n) = n := Nat.sub_sub_self hbound'
  refine yields_ite (fun hdone => yields_pure ?_) fun _ => ?_
  · exact hrights.atEnd hfirst (Bool.and_elim_right hdone)
  have hlefts := hrights.dropLeft_one hl' (by simpa [hbound'] using hbefore)
  refine yields_ite (fun hdone => yields_pure (hlefts.atEnd hfirst hdone)) fun hgo => ?_
  refine yields_pure ⟨hlefts, hgo, ?_, ?_⟩
  · simp
    omega
  · simp
    omega

theorem yields_backward (fuel : Nat) (pace : Pace) (hp : Behind key a b p)
    (hgo : ¬ p.isBackwardDone) (hfuel : p.left + p.right ≤ fuel) :
    Yields (backward lt a b fuel pace p) (BehindAtEnd key a b) := by
  induction fuel generalizing pace p with
  | zero =>
    obtain ⟨hl, hr⟩ := Behind.lt_of_not_done hgo
    omega
  | succ fuel ih =>
    obtain ⟨hl, hr⟩ := Behind.lt_of_not_done hgo
    have hl' := hp.left_le
    have hr' := hp.right_le
    unfold backward
    cases pace with
    | single x y =>
      have hnext : ∀ (q : Progress α) (c : Prop) [Decidable c] (pace : Pace), Behind key a b q →
          q.left + q.right < p.left + p.right →
          Yields (if q.isBackwardDone then pure q
            else if c then backward lt a b fuel .leaping q.raised
            else backward lt a b fuel pace q) (BehindAtEnd key a b) := by
        intro q c _ pace hq hless
        refine yields_ite (fun hdone => yields_pure (hq.atEnd hfirst hdone)) fun hgo => ?_
        have hraised : Behind key a b q.raised := ⟨hq.left_le, hq.right_le, hq.whole⟩
        refine yields_ite (fun _ => ih _ hraised hgo ?_) fun _ => ih _ hq hgo (by omega)
        simp
        omega
      refine yields_bind ⟨_, hlt (hb.getD (by omega)) (ha.getD (by omega)), rfl⟩ fun c hc => ?_
      subst hc
      refine yields_ite (fun hless => ?_) fun hge => ?_
      · have hless := of_decide_eq_true hless
        refine hnext _ _ _ (hp.dropLeft_one hl fun y hy => ?_) (by simp; omega)
        exact (hb.le_of_mem_take (by omega) hr' y hy).trans_lt hless
      · have hge := not_lt.mp fun h => hge (decide_eq_true h)
        refine hnext _ _ _ (hp.dropRight_one (by omega) fun x hx => ?_) (by simp; omega)
        exact (ha.le_of_mem_take hl hl' x hx).trans hge
    | leaping =>
      refine yields_bind (yields_leapBackward ha hb hlt hfirst hp hgo) fun r hr => ?_
      rcases r with ⟨q, _ | _ | _⟩
      · exact yields_pure hr
      · obtain ⟨hq, hgo, hleft, hright⟩ := hr
        exact ih _ ⟨hq.left_le, hq.right_le, hq.whole⟩ hgo (by simp; omega)
      · obtain ⟨hq, hgo, hleft, hright⟩ := hr
        exact ih _ hq hgo (by omega)

theorem yields_mergeBackward
    (hlast : ∀ x ∈ a.toList.drop (a.size - 1), ∀ y ∈ b.toList, key y < key x) (streak : Nat) :
    Yields (mergeBackward lt a b streak) fun r => r.1.toList = mergeBy key a.toList b.toList := by
  have hnone : Behind key a b ⟨a.size, b.size, [], streak⟩ :=
    ⟨le_rfl, le_rfl, by simp [List.take_of_length_le]⟩
  have hstart := hnone.dropLeft (by simpa [List.take_of_length_le] using hlast)
  have hrest : ∀ p, BehindAtEnd key a b p →
      (b.extract 0 p.right).toList ++ (a.extract 0 p.left).toList ++ p.merged =
      mergeBy key a.toList b.toList := by
    intro p hp
    rw [toList_front, toList_front]
    exact hp
  unfold mergeBackward
  refine yields_ite (fun hdone => ?_) fun hgo => ?_
  · exact yields_bind (yields_pure (hstart.atEnd hfirst hdone)) fun p hp => yields_pure (hrest p hp)
  · refine yields_bind (yields_backward ha hb hlt hfirst _ _ hstart hgo ?_) fun p hp =>
      yields_pure (hrest p hp)
    simp

end Backward

section Neighbours

variable (hlt : Compares P key lt) (ha : IsRun P key a) (hb : IsRun P key b) (ha' : 0 < a.size)
  (hb' : 0 < b.size) {k : Nat}
  (hk : Parts (fun w => key w ≤ key (b.getD 0 default)) a.toList k)
  (hn : Parts (fun w => key w < key (a.getD (a.size - 1) default)) b.toList n)

include hb hb' hk in
theorem le_of_parts : ∀ x ∈ a.toList.take k, ∀ y ∈ b.toList, key x ≤ key y :=
  fun x hx y hy => (hk.2.1 x hx).trans (hb.le_of_mem_drop hb' y hy)

include ha ha' hn in
theorem ge_of_parts : ∀ y ∈ b.toList.drop n, ∀ x ∈ a.toList, key x ≤ key y := by
  intro y hy x hx
  rw [← List.take_of_length_le (by simp : a.toList.length ≤ a.size)] at hx
  exact (ha.le_of_mem_take ha' le_rfl x hx).trans (le_of_not_gt (hn.2.2 y hy))

include ha hb ha' hb' hk hn in
theorem mergeBy_of_parts : mergeBy key a.toList b.toList = (a.extract 0 k).toList ++
    mergeBy key (a.extract k a.size).toList (b.extract 0 n).toList ++
      (b.extract n b.size).toList := by
  rw [toList_front, toList_front, toList_back, toList_back]
  have hback : ∀ y ∈ b.toList.drop n, ∀ x ∈ a.toList.drop k, key x ≤ key y :=
    fun y hy x hx => ge_of_parts ha ha' hn y hy x (List.mem_of_mem_drop hx)
  calc mergeBy key a.toList b.toList
      = mergeBy key (a.toList.take k ++ a.toList.drop k) b.toList := by rw [List.take_append_drop]
    _ = a.toList.take k ++ mergeBy key (a.toList.drop k) b.toList :=
      mergeBy_append_left (le_of_parts hb hb' hk)
    _ = a.toList.take k ++
          mergeBy key (a.toList.drop k) (b.toList.take n ++ b.toList.drop n) := by
      rw [List.take_append_drop]
    _ = _ := by rw [mergeBy_append_right_last hback, List.append_assoc]

include hb' hk in
theorem first_lt_of_parts :
    ∀ y ∈ (b.extract 0 n).toList.take 1, ∀ x ∈ (a.extract k a.size).toList, key y < key x := by
  rw [toList_front, toList_back]
  intro y hy x hx
  have hy : y ∈ b.toList.take (0 + 1) := by
    rw [List.take_take] at hy
    exact List.take_subset_take_left _ (Nat.min_le_left _ _) hy
  rw [take_eq_append (Nat.zero_lt_succ 0) hb'] at hy
  obtain rfl : y = b.getD 0 default := by simpa using hy
  exact lt_of_not_ge (hk.2.2 x hx)

include ha' hn in
theorem lt_last_of_parts (hk : k < a.size) :
    ∀ x ∈ (a.extract k a.size).toList.drop ((a.extract k a.size).size - 1),
      ∀ y ∈ (b.extract 0 n).toList, key y < key x := by
  have hplace : k + ((a.extract k a.size).size - 1) = a.size - 1 := by simp; omega
  rw [toList_front, toList_back, List.drop_drop, hplace]
  intro x hx y hy
  rw [drop_eq_cons (by omega), List.drop_of_length_le (by simp; omega)] at hx
  obtain rfl : x = a.getD (a.size - 1) default := List.mem_singleton.mp hx
  exact hn.2.1 y hy

end Neighbours

theorem yields_mergeRuns (hlt : Compares P key lt) (ha : IsRun P key a) (hb : IsRun P key b)
    (ha' : 0 < a.size) (hb' : 0 < b.size) (streak : Nat) :
    Yields (mergeRuns lt streak a b) fun r => r.1.toList = mergeBy key a.toList b.toList := by
  unfold mergeRuns
  have hcount : Yields _ (Parts _ a.toList) := ha.yields_notGreater hlt (hb.getD hb')
    (by omega : 0 + a.size ≤ a.size) ha' (List.take_of_length_le (by simp))
  refine yields_bind hcount fun k hk => ?_
  refine yields_ite (fun hall => yields_pure ?_) fun hsome => ?_
  · obtain rfl : k = a.size := by simpa using hall
    have hle := le_of_parts hb hb' hk
    rw [List.take_of_length_le (by simp)] at hle
    rw [Array.toList_append, mergeBy_of_le hle]
  have hk' : k < a.size := lt_of_le_of_ne (by simpa using hk.1) (by simpa using hsome)
  have hcount : Yields _ (Parts _ b.toList) := hb.yields_less hlt
    (ha.getD (by omega : a.size - 1 < a.size)) (by omega : 0 + b.size ≤ b.size)
    (by omega : b.size - 1 < b.size) (List.take_of_length_le (by simp))
  refine yields_bind hcount fun n hn => ?_
  refine yields_ite (fun hnone => yields_pure ?_) fun hsome => ?_
  · obtain rfl : n = 0 := by simpa using hnone
    rw [Array.toList_append, mergeBy_of_le]
    exact fun x hx y hy => ge_of_parts ha ha' hn y hy x hx
  have hn' : 0 < n := Nat.pos_of_ne_zero (by simpa using hsome)
  have hn'' : n ≤ b.size := by simpa using hn.1
  have hfirst := first_lt_of_parts (n := n) hb' hk
  have hlast := lt_last_of_parts ha' hn hk'
  have hrest : ∀ r : Array α × Nat,
      r.1.toList = mergeBy key (a.extract k a.size).toList (b.extract 0 n).toList →
      (a.extract 0 k ++ r.1 ++ b.extract n b.size).toList = mergeBy key a.toList b.toList := by
    intro r hr
    rw [mergeBy_of_parts ha hb ha' hb' hk hn, ← hr, Array.toList_append, Array.toList_append]
  refine yields_ite (fun _ => ?_) fun _ => ?_
  · exact yields_bind (yields_mergeForward (ha.extract _ _) (hb.extract _ _) hlt hlast hfirst
      (by simp; omega) _) fun r hr => yields_pure (hrest r hr)
  · exact yields_bind (yields_mergeBackward (ha.extract _ _) (hb.extract _ _) hlt hfirst hlast _)
      fun r hr => yields_pure (hrest r hr)

end Assay.Sorting
