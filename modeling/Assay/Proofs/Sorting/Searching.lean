import Mathlib.Data.List.Basic
import Mathlib.Order.Lattice
import Assay.Sorting

/-! # Searching

Halving and leaping find the place at which a test changes its answer. In sorted
items there is such a place for each item that is to be put among them, and
galloping tells how many of them come before it.
-/

namespace Assay.Sorting

variable {α β ε κ : Type}

/-- The computation succeeds, and its result has the property. -/
def Yields (x : Except ε α) (Q : α → Prop) : Prop := ∃ a, x = .ok a ∧ Q a

theorem yields_pure {Q : α → Prop} {a : α} (h : Q a) : Yields (pure a : Except ε α) Q := ⟨a, rfl, h⟩

theorem yields_bind {Q : α → Prop} {S : β → Prop} {x : Except ε α} {f : α → Except ε β}
    (hx : Yields x Q) (hf : ∀ a, Q a → Yields (f a) S) : Yields (x >>= f) S := by
  obtain ⟨a, rfl, ha⟩ := hx
  exact hf a ha

theorem Yields.imp {Q R : α → Prop} {x : Except ε α} (hx : Yields x Q) (h : ∀ a, Q a → R a) :
    Yields x R := by
  obtain ⟨a, ha, hq⟩ := hx
  exact ⟨a, ha, h a hq⟩

theorem yields_ite {Q : α → Prop} {c : Prop} [Decidable c] {x y : Except ε α}
    (hx : c → Yields x Q) (hy : ¬ c → Yields y Q) : Yields (if c then x else y) Q := by
  split
  · exact hx ‹_›
  · exact hy ‹_›

section Places

variable {test before : Nat → Except ε Bool} {place : Nat}

theorem halve_eq {steps low high : Nat} (hsteps : high ≤ low + steps) (hlow : low ≤ place)
    (hhigh : place ≤ high) (htest : ∀ i < high, test i = .ok (decide (place ≤ i))) :
    halve test steps low high = .ok place := by
  induction steps generalizing low high with
  | zero =>
    obtain rfl : low = place := by omega
    rfl
  | succ steps ih =>
    unfold halve
    split
    · next hlt =>
      dsimp only
      rw [htest _ (by omega)]
      by_cases hplace : place ≤ low + (high - low) / 2
      · rw [decide_eq_true hplace]
        exact ih (by omega) hlow hplace fun i hi => htest i (by omega)
      · rw [decide_eq_false hplace]
        exact ih (by omega) (by omega) hhigh htest
    · obtain rfl : low = place := by omega
      rfl

/-- Leaps end on both sides of the place. -/
theorem yields_leap {most steps last next : Nat} (hsteps : most ≤ next + steps)
    (hlast : last < place) (hmost : place ≤ most)
    (htest : ∀ i < most, test i = .ok (decide (i < place))) :
    Yields (leap test most steps last next) fun r => r.1 < place ∧ place ≤ r.2 ∧ r.2 ≤ most := by
  induction steps generalizing last next with
  | zero =>
    have hnext : min next most = most := by omega
    exact yields_pure ⟨hlast, by omega, by omega⟩
  | succ steps ih =>
    unfold leap
    refine yields_ite (fun hlt => ?_) fun hge => yields_pure ⟨hlast, by omega, by omega⟩
    rw [htest next hlt]
    by_cases hnext : next < place
    · rw [decide_eq_true hnext]
      exact ih (by omega) hnext
    · rw [decide_eq_false hnext]
      exact yields_pure ⟨hlast, by omega, by omega⟩

theorem gallop_eq {n hint : Nat} (hhint : hint < n) (hplace : place ≤ n)
    (h : ∀ i < n, before i = .ok (decide (i < place))) : gallop before n hint = .ok place := by
  have hafter : ∀ i < n, (do pure !(← before i)) = (.ok (decide (place ≤ i)) : Except ε Bool) := by
    intro i hi
    rw [h i hi]
    change Except.ok (!decide (i < place)) = _
    rw [← decide_not, decide_eq_decide.mpr Nat.not_lt]
  have hfound : ∀ low high, low ≤ place → place ≤ high → high ≤ n →
      Yields (halve (fun i => do pure !(← before i)) n low high) (· = place) :=
    fun low high hlow hhigh hn =>
      ⟨place, halve_eq (by omega) hlow hhigh fun i hi => hafter i (by omega), rfl⟩
  suffices hyields : Yields (gallop before n hint) (· = place) by
    obtain ⟨_, hgallop, rfl⟩ := hyields
    exact hgallop
  unfold gallop
  refine yields_bind ⟨_, h hint hhint, rfl⟩ fun c hc => ?_
  subst hc
  refine yields_ite (fun hlt => ?_) fun hge => ?_
  · have hlt : hint < place := of_decide_eq_true hlt
    have hforward : ∀ i < n - hint, before (hint + i) = .ok (decide (i < place - hint)) := by
      intro i hi
      have hiff : hint + i < place ↔ i < place - hint := by omega
      rw [h _ (by omega), decide_eq_decide.mpr hiff]
    refine yields_bind (yields_leap (by omega) (by omega) (by omega) hforward) fun r hr => ?_
    exact hfound _ _ (by omega) (by omega) (by omega)
  · have hge : place ≤ hint := by simpa using hge
    have hbackward : ∀ i < hint + 1, (do pure !(← before (hint - i))) =
        (.ok (decide (i < hint + 1 - place)) : Except ε Bool) := by
      intro i hi
      have hiff : place ≤ hint - i ↔ i < hint + 1 - place := by omega
      rw [hafter _ (by omega), decide_eq_decide.mpr hiff]
    refine yields_bind (yields_leap (by omega) (by omega) (by omega) hbackward) fun r hr => ?_
    exact hfound _ _ (by omega) (by omega) (by omega)

end Places

section Items

variable [LinearOrder κ] {key : α → κ} {P : α → Prop} {lt : α → α → Except ε Bool} {ws : List α}

def Ascending (key : α → κ) (ws : List α) : Prop := ws.Pairwise fun v w => key v ≤ key w

/-- On the items with the property the relation is the order of their keys. -/
def Compares (P : α → Prop) (key : α → κ) (lt : α → α → Except ε Bool) : Prop :=
  ∀ ⦃v w⦄, P v → P w → lt v w = .ok (decide (key v < key w))

theorem exists_place {p : α → Prop} (h : ws.Pairwise fun v w => p w → p v) :
    ∃ n ≤ ws.length, ∀ i (hi : i < ws.length), p ws[i] ↔ i < n := by
  induction ws with
  | nil => exact ⟨0, Nat.le_refl 0, nofun⟩
  | cons w ws ih =>
    obtain ⟨hw, hws⟩ := List.pairwise_cons.mp h
    by_cases hp : p w
    · obtain ⟨n, hn, hplace⟩ := ih hws
      refine ⟨n + 1, Nat.succ_le_succ hn, fun i hi => ?_⟩
      cases i with
      | zero => simpa using hp
      | succ i => simpa using hplace i (by simpa using hi)
    · refine ⟨0, Nat.zero_le _, fun i hi => iff_of_false (fun hi' => hp ?_) (by omega)⟩
      cases i with
      | zero => exact hi'
      | succ i => exact hw _ (List.getElem_mem _) hi'

/-- The items up to the place have the property, and those beyond it have not. -/
def Parts (p : α → Prop) (ws : List α) (n : Nat) : Prop :=
  n ≤ ws.length ∧ (∀ w ∈ ws.take n, p w) ∧ ∀ w ∈ ws.drop n, ¬ p w

theorem parts_of_place {p : α → Prop} {n : Nat} (hn : n ≤ ws.length)
    (h : ∀ i (hi : i < ws.length), p ws[i] ↔ i < n) : Parts p ws n := by
  refine ⟨hn, fun w hw => ?_, fun w hw => ?_⟩
  · obtain ⟨i, hi, rfl⟩ := List.mem_take_iff_getElem.mp hw
    exact (h i (by omega)).mpr (by omega)
  · obtain ⟨i, hi, rfl⟩ := List.mem_drop_iff_getElem.mp hw
    exact fun hp => absurd ((h _ (by omega)).mp hp) (by omega)

theorem yields_gallop {p : α → Prop} [DecidablePred p] {before : Nat → Except ε Bool}
    {n hint : Nat} (hn : ws.length = n) (hhint : hint < n)
    (hws : ws.Pairwise fun v w => p w → p v)
    (h : ∀ i (hi : i < ws.length), before i = .ok (decide (p ws[i]))) :
    Yields (gallop before n hint) (Parts p ws) := by
  subst hn
  obtain ⟨n, hn, hplace⟩ := exists_place hws
  refine ⟨n, gallop_eq hhint hn fun i hi => ?_, parts_of_place hn hplace⟩
  rw [h i hi, decide_eq_decide.mpr (hplace i hi)]

end Items

end Assay.Sorting
