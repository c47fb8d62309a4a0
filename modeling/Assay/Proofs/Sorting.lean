import Assay.Proofs.Sorting.Merging

/-! # Sorting

Where the relation is the order of keys of the items, sorting succeeds and gives
what a stable sort gives. Each run is the sorted list of the items that it was
made from, and the runs in hand were made from all items met so far, in order.
-/

namespace Assay.Sorting

variable {α ε κ : Type} [LinearOrder κ] {key : α → κ} {P : α → Prop} {lt : α → α → Except ε Bool}
  {vs ws : List α}

theorem isRun_of_sorted {a : Array α} (h : a.toList = sortBy key vs) (hvs : ∀ v ∈ vs, P v) :
    IsRun P key a := by
  constructor <;> rw [h]
  · exact ascending_sortBy
  · exact fun v hv => hvs v (mem_sortBy.mp hv)

theorem size_pos_of_sorted {a : Array α} (h : a.toList = sortBy key vs) (hne : vs ≠ []) :
    0 < a.size := by
  rw [← Array.length_toList, h, length_sortBy]
  exact List.length_pos_iff.mpr hne

section Front

variable (hlt : Compares P key lt)

include hlt

theorem yields_runLength (descending : Bool) {previous : α} (hp : P previous)
    (hvs : ∀ v ∈ vs, P v) : Yields (runLength lt descending previous vs) fun n => n ≤ vs.length ∧
      List.IsChain (fun v w => decide (key w < key v) = descending) (previous :: vs.take n) := by
  induction vs generalizing previous with
  | nil => exact yields_pure ⟨Nat.le_refl 0, .singleton _⟩
  | cons v rest ih =>
    obtain ⟨hv, hrest⟩ := List.forall_mem_cons.mp hvs
    unfold runLength
    refine yields_bind ⟨_, hlt hv hp, rfl⟩ fun c hc => ?_
    subst hc
    refine yields_ite (fun heq => ?_) fun _ => yields_pure ⟨Nat.zero_le _, .singleton _⟩
    refine yields_bind (ih hv hrest) fun n hn => yields_pure ⟨Nat.succ_le_succ hn.1, ?_⟩
    exact .cons_cons (by simpa using heq) hn.2

omit hlt in
theorem sortBy_of_isChain {descending : Bool}
    (h : List.IsChain (fun v w => decide (key w < key v) = descending) vs) :
    sortBy key vs = if descending then vs.reverse else vs := by
  cases descending with
  | false =>
    have : IsTrans α fun v w => key v ≤ key w := ⟨fun _ _ _ => le_trans⟩
    have hchain : List.IsChain (fun v w => key v ≤ key w) vs :=
      h.imp fun v w hvw => not_lt.mp (of_decide_eq_false hvw)
    exact sortBy_of_ascending hchain.pairwise
  | true =>
    have : IsTrans α fun v w => key w < key v := ⟨fun _ _ _ hvw hwu => hwu.trans hvw⟩
    have hchain : List.IsChain (fun v w => key w < key v) vs :=
      h.imp fun v w hvw => of_decide_eq_true hvw
    exact sortBy_of_descending hchain.pairwise

theorem yields_firstRun (hvs : ∀ v ∈ vs, P v) (hne : vs ≠ []) : Yields (firstRun lt vs) fun run =>
    run.toList = sortBy key (vs.take run.size) ∧ 0 < run.size ∧ run.size ≤ vs.length := by
  unfold firstRun
  split
  · next v w rest =>
    obtain ⟨hv, hw, hrest⟩ : P v ∧ P w ∧ ∀ v ∈ rest, P v := by simpa using hvs
    refine yields_bind ⟨_, hlt hw hv, rfl⟩ fun descending hd => ?_
    refine yields_bind (yields_runLength hlt descending hw hrest) fun n hn => yields_pure ?_
    have hchain : List.IsChain (fun v w => decide (key w < key v) = descending)
        ((v :: w :: rest).take (n + 2)) := .cons_cons hd hn.2
    have hsorted := sortBy_of_isChain hchain
    have hsize : (sortBy key ((v :: w :: rest).take (n + 2))).toArray.size = n + 2 := by
      simpa using hn.1
    rw [← hsorted, hsize]
    exact ⟨rfl, Nat.succ_pos _, by simpa using hn.1⟩
  · next hshort =>
    have hascending : Ascending key vs := by
      cases vs with
      | nil => exact .nil
      | cons v rest =>
        cases rest with
        | nil => exact List.pairwise_singleton _ v
        | cons w rest => exact absurd rfl (hshort v w rest)
    have htaken : sortBy key (vs.take vs.toArray.size) = vs := by
      rw [List.take_of_length_le (by simp), sortBy_of_ascending hascending]
    refine yields_pure ⟨htaken.symm, ?_, Nat.le_refl _⟩
    simpa using List.length_pos_iff.mpr hne

variable [Inhabited α]

theorem yields_insertItem {sorted : Array α} {pivot : α} (hs : sorted.toList = sortBy key vs)
    (hvs : ∀ v ∈ vs, P v) (hp : P pivot) : Yields (insertItem lt sorted pivot) fun items =>
      items.toList = sortBy key (vs ++ [pivot]) := by
  have hrun : IsRun P key sorted := isRun_of_sorted hs hvs
  obtain ⟨place, hplace, hcut⟩ := exists_place (p := fun w => key w ≤ key pivot)
    (hrun.ascending.imp fun hle => hle.trans)
  have hhalve : halve (fun i => lt pivot (sorted.getD i default)) (sorted.size + 1) 0 sorted.size =
      .ok place := by
    refine halve_eq (by omega) (Nat.zero_le _) (by simpa using hplace) fun i hi => ?_
    have hiff := hcut i (by simpa using hi)
    rw [Array.getElem_toList, Array.getElem_eq_getD default] at hiff
    rw [hlt hp (hrun.getD hi), decide_eq_decide.mpr]
    rw [← not_le, ← Nat.not_lt, not_iff_not, hiff]
  have hparts : Parts (fun w => key w ≤ key pivot) sorted.toList place :=
    parts_of_place hplace hcut
  refine yields_bind ⟨_, hhalve, rfl⟩ fun n hn => yields_pure ?_
  subst hn
  rw [hs] at hparts ⊢
  exact (sortBy_concat hparts).symm

theorem yields_insertItems {sorted : Array α} (hs : sorted.toList = sortBy key vs)
    (hvs : ∀ v ∈ vs, P v) (hws : ∀ w ∈ ws, P w) : Yields (ws.foldlM (insertItem lt) sorted)
      fun items => items.toList = sortBy key (vs ++ ws) := by
  induction ws generalizing vs sorted with
  | nil => exact yields_pure (by rwa [List.append_nil])
  | cons w ws ih =>
    obtain ⟨hw, hws⟩ := List.forall_mem_cons.mp hws
    rw [List.foldlM_cons, List.append_cons]
    refine yields_bind (yields_insertItem hlt hs hvs hw) fun items hitems => ih hitems ?_ hws
    exact List.forall_mem_append.mpr ⟨hvs, by simpa using hw⟩

/-- A short run is filled up with the items behind it. -/
theorem yields_fill (hvs : ∀ v ∈ vs, P v) (least : Nat) {run : Array α}
    (hrun : run.toList = sortBy key (vs.take run.size)) :
    Yields (((vs.take least).drop run.size).foldlM (insertItem lt) run) fun items =>
      items.toList = sortBy key (vs.take items.size) ∧ run.size ≤ items.size := by
  have hfiller : ∀ w ∈ (vs.take least).drop run.size, P w :=
    fun w hw => hvs w (List.mem_of_mem_take (List.mem_of_mem_drop hw))
  obtain ⟨items, hitems, hsorted⟩ := yields_insertItems hlt hrun
    (fun v hv => hvs v (List.mem_of_mem_take hv)) hfiller
  have hparts : vs.take run.size ++ (vs.take least).drop run.size =
      vs.take (max run.size least) := by
    rcases le_total run.size least with hle | hge
    · rw [Nat.max_eq_right hle, ← take_eq_take_append vs hle]
    · rw [Nat.max_eq_left hge, List.drop_of_length_le ((List.length_take_le _ _).trans hge),
        List.append_nil]
  have hlength : items.size = min (max run.size least) vs.length := by
    rw [← Array.length_toList, hsorted, length_sortBy, hparts, List.length_take]
  have hrun' : run.size ≤ vs.length := by
    have hlength := congrArg List.length hrun
    simp at hlength
    omega
  refine ⟨items, hitems, ?_, by omega⟩
  rw [hsorted, hparts, hlength, List.take_eq_take_min]

end Front

/-- The runs are the sorted lists of consecutive parts of the items, the last one first. -/
inductive Stacked (P : α → Prop) (key : α → κ) : List (Run α) → List α → Prop
  | nil : Stacked P key [] []
  | push {vs ws : List α} {rest : List (Run α)} {run : Run α} (below : Stacked P key rest vs)
      (sorted : run.items.toList = sortBy key ws) (holds : ∀ w ∈ ws, P w) (nonempty : ws ≠ []) :
      Stacked P key (run :: rest) (vs ++ ws)

namespace Stacked

variable {stack rest : List (Run α)} {run : Run α}

theorem eq_nil_iff (h : Stacked P key stack vs) : stack = [] ↔ vs = [] := by
  cases h with
  | nil => simp
  | push below sorted holds nonempty => simp [nonempty]

theorem length_le (h : Stacked P key stack vs) : stack.length ≤ vs.length := by
  induction h with
  | nil => exact Nat.le_refl 0
  | push below sorted holds nonempty ih =>
    have hpos := List.length_pos_iff.mpr nonempty
    simp
    omega

theorem sorted_of_singleton (h : Stacked P key [run] vs) : run.items.toList = sortBy key vs := by
  cases h with
  | push below sorted holds nonempty =>
    rw [below.eq_nil_iff.mp rfl]
    exact sorted

end Stacked

section Stack

variable [Inhabited α] {r : Runs α} (hlt : Compares P key lt)

include hlt

theorem yields_mergeLast {c d : Run α} {rest : List (Run α)} (hr : r.stack = d :: c :: rest)
    (h : Stacked P key r.stack vs) : Yields (mergeLast lt r) fun s =>
      Stacked P key s.stack vs ∧ s.stack.length = rest.length + 1 := by
  unfold mergeLast
  rw [hr] at h ⊢
  cases h with
  | push below hd hholds hne =>
    cases below with
    | @push us vs _ _ below hc hvs hvne =>
      have hmerge := yields_mergeRuns hlt (isRun_of_sorted hc hvs) (isRun_of_sorted hd hholds)
        (size_pos_of_sorted hc hvne) (size_pos_of_sorted hd hne) r.streak
      refine yields_bind hmerge fun merged hmerged => yields_pure ⟨?_, rfl⟩
      rw [List.append_assoc]
      refine below.push ?_ (List.forall_mem_append.mpr ⟨hvs, hholds⟩) (by simp [hvne])
      rw [sortBy_append, ← hc, ← hd]
      exact hmerged

theorem yields_collapse (depth fuel : Nat) (h : Stacked P key r.stack vs) :
    Yields (collapse lt depth fuel r) fun s => Stacked P key s.stack vs := by
  induction fuel generalizing r with
  | zero => exact yields_pure h
  | succ fuel ih =>
    unfold collapse
    split
    · next hr =>
      refine yields_ite (fun _ => ?_) fun _ => yields_pure h
      exact yields_bind (yields_mergeLast hlt hr h) fun s hs => ih hs.1
    · exact yields_pure h

theorem yields_addRun (n : Nat) {items : Array α} (hitems : items.toList = sortBy key ws)
    (hws : ∀ w ∈ ws, P w) (hne : ws ≠ []) (h : Stacked P key r.stack vs) :
    Yields (addRun lt n items r) fun s => Stacked P key s.stack (vs ++ ws) := by
  unfold addRun
  split
  · next hr =>
    rw [hr] at h
    exact yields_pure (h.push hitems hws hne)
  · next top rest hr =>
    refine yields_bind (yields_collapse hlt _ _ h) fun s hs => ?_
    split
    · next hs' =>
      have hnone := hs.eq_nil_iff.mp hs'
      rw [h.eq_nil_iff.mpr hnone] at hr
      cases hr
    · next top rest hs' =>
      refine yields_pure ?_
      rw [hs'] at hs
      cases hs with
      | push below sorted holds nonempty =>
        exact .push (.push below sorted holds nonempty) hitems hws hne

theorem yields_mergeAll (fuel : Nat) (hfuel : r.stack.length ≤ fuel + 1)
    (h : Stacked P key r.stack vs) :
    Yields (mergeAll lt fuel r) fun items => items.toList = sortBy key vs := by
  induction fuel generalizing r vs with
  | zero =>
    refine yields_pure ?_
    cases hr : r.stack with
    | nil =>
      obtain rfl : vs = [] := h.eq_nil_iff.mp hr
      rfl
    | cons top rest =>
      rw [hr] at h hfuel
      obtain rfl : rest = [] := List.eq_nil_of_length_eq_zero (by simpa using hfuel)
      exact h.sorted_of_singleton
  | succ fuel ih =>
    unfold mergeAll
    split
    · next d c b rest hr =>
      rw [hr] at hfuel
      refine yields_ite (fun _ => ?_) fun _ => ?_
      · rw [hr] at h
        cases h with
        | push below sorted holds nonempty =>
          have hmerge := yields_mergeLast hlt (r := ⟨c :: b :: rest, r.streak⟩) rfl below
          refine yields_bind hmerge fun s hs => ih ?_ (hs.1.push sorted holds nonempty)
          simp at hfuel ⊢
          omega
      · refine yields_bind (yields_mergeLast hlt hr h) fun s hs => ih ?_ hs.1
        simp at hfuel hs
        omega
    · next d c rest _ hr =>
      rw [hr] at hfuel
      refine yields_bind (yields_mergeLast hlt hr h) fun s hs => ih ?_ hs.1
      simp at hfuel
      omega
    · next top hr =>
      rw [hr] at h
      exact yields_pure h.sorted_of_singleton
    · next hr =>
      obtain rfl : vs = [] := h.eq_nil_iff.mp hr
      exact yields_pure rfl

theorem yields_findRuns (least n fuel : Nat) (hws : ∀ w ∈ ws, P w) (hfuel : ws.length ≤ fuel)
    (h : Stacked P key r.stack vs) :
    Yields (findRuns lt least n fuel ws r) fun s => Stacked P key s.stack (vs ++ ws) := by
  induction fuel generalizing r vs ws with
  | zero =>
    obtain rfl : ws = [] := List.eq_nil_of_length_eq_zero (by omega)
    exact yields_pure (by rwa [List.append_nil])
  | succ fuel ih =>
    cases ws with
    | nil => exact yields_pure (by rwa [List.append_nil])
    | cons w rest =>
      unfold findRuns
      refine yields_bind (yields_firstRun hlt hws (List.cons_ne_nil w rest)) fun run hrun => ?_
      refine yields_bind (yields_fill hlt hws least hrun.1) fun items hitems => ?_
      have htaken : ∀ v ∈ (w :: rest).take items.size, P v :=
        fun v hv => hws v (List.mem_of_mem_take hv)
      have hne : (w :: rest).take items.size ≠ [] := by
        refine List.length_pos_iff.mp ?_
        rw [List.length_take, List.length_cons]
        omega
      refine yields_bind (yields_addRun hlt n hitems.1 htaken hne h) fun s hs => ?_
      have hrest : ∀ v ∈ (w :: rest).drop items.size, P v :=
        fun v hv => hws v (List.mem_of_mem_drop hv)
      have hnext := ih hrest (by simp at hfuel ⊢; omega) hs
      rwa [List.append_assoc, List.take_append_drop] at hnext

end Stack

/-- Where the relation is the order of keys, sorting gives what a stable sort gives. -/
theorem sort_eq [Inhabited α] (h : Compares (· ∈ vs) key lt) :
    sort lt vs = .ok (vs.insertionSort fun v w => key v ≤ key w) := by
  have hruns := yields_findRuns h (leastRun vs.length vs.length false) vs.length vs.length
    (fun w hw => hw) le_rfl (r := ⟨[], leastStreak⟩) .nil
  suffices hyields : Yields (sort lt vs) (· = sortBy key vs) by
    obtain ⟨_, hsort, rfl⟩ := hyields
    exact hsort
  refine yields_bind hruns fun r hr => ?_
  refine yields_bind (yields_mergeAll h vs.length ?_ hr) fun items hitems => yields_pure hitems
  exact hr.length_le.trans (Nat.le_succ _)

end Assay.Sorting
