import Assay.Proofs.Checks.Running
import Assay.Proofs.Spelling
import Assay.Proofs.Binary64.Rounding

/-! # Ranges of whole numbers

A range compares doubles. Whole numbers are rounded before they are compared, so
that a range of whole numbers is exact only where none of its bounds reaches
2 ^ 53. Beyond it a range can let in numbers next to its bounds, and bounds in
the wrong order go unnoticed when they meet.
-/

namespace Assay

open Binary64

def Binary64.IsBeyond (n : Int) : Prop := firstBeyond ≤ n.natAbs

namespace Data

variable {n : Int}

theorem toBinary64_of_isBeyond (h : IsBeyond n) :
    (Data.int n).toBinary64 = .error .numberTooLarge := by
  rw [toBinary64, ofInt?_eq_none.mpr h]

theorem toBinary64_of_not_isBeyond (h : ¬ IsBeyond n) :
    ∃ x, ofInt? n = some x ∧ (Data.int n).toBinary64 = .ok x := by
  obtain ⟨x, hx⟩ := Option.ne_none_iff_exists'.mp (mt ofInt?_eq_none.mp h)
  exact ⟨x, hx, by rw [toBinary64, hx]⟩

theorem isSpellable_of_not_isBeyond (h : ¬ IsBeyond n) : (Data.int n).isSpellable := by
  have hle : firstBeyond ≤ firstTooLong := by decide +kernel
  rw [isSpellable, decide_eq_true_eq]
  exact (Nat.not_le.mp h).trans_le hle

end Data

namespace Check

def wholeBounds (min max : Option Int) : Arguments :=
  (min.map fun a => ("min", Data.int a)).toList ++ (max.map fun b => ("max", Data.int b)).toList

/-- Why bounds are refused: two that cannot be compared or are rounded to the wrong order, or one
that the message cannot name. -/
inductive Refuses : (min max : Option Int) → Fault → Prop
  | beyond {a b : Int} : IsBeyond a ∨ IsBeyond b → Refuses (some a) (some b) .numberTooLarge
  | empty {a b : Int} : ¬ IsBeyond a → ¬ IsBeyond b → nearest b < nearest a →
    Refuses (some a) (some b) (.emptyRange (Data.int a).shown (Data.int b).shown)
  | low {a : Int} : ¬ (Data.int a).isSpellable → Refuses (some a) none .numberTooLong
  | high {b : Int} : ¬ (Data.int b).isSpellable → Refuses none (some b) .numberTooLong

variable {min max : Option Int} {a b v : Int} {f : Fault} {r : Rule}

theorem boundsOf_wholeBounds (min max : Option Int) :
    boundsOf (wholeBounds min max) = (min.map .int, max.map .int) := by
  cases min <;> cases max <;> rfl

theorem range_wholeBounds (min max : Option Int) :
    range (wholeBounds min max) = (do
      checkRangeBounds (min.map .int) (max.map .int)
      let message ← boundsMessage "must be" "must be a number" (min.map .int) (max.map .int)
      Rule.make message (unlessNull (isNumberWithin (min.map .int) (max.map .int)))
        (.text "range") .null) := by
  have hbounds := boundsOf_wholeBounds min max
  obtain ⟨hexpect, hmessage, hcode⟩ : (wholeBounds min max).expect "value_range"
        ["min", "max", "message", "code"] = .ok () ∧
      (wholeBounds min max).getD "message" .null = .null ∧
      (wholeBounds min max).getD "code" (.text "range") = .text "range" := by
    cases min <;> cases max <;> exact ⟨rfl, rfl, rfl⟩
  obtain ⟨hmin, hmax⟩ := Prod.mk.inj hbounds
  unfold range messageOr
  simp only [hexpect, hmin, hmax, hmessage, hcode]
  rfl

theorem exists_boundsMessage {min max : Option Data} (hmin : ∀ a ∈ min, a.isSpellable)
    (hmax : ∀ b ∈ max, b.isSpellable) : ∃ message, message.isTrue ∧
      boundsMessage "must be" "must be a number" min max = .ok message := by
  unfold boundsMessage
  cases min with
  | none =>
    cases max with
    | none => exact ⟨_, rfl, rfl⟩
    | some b =>
      simp only [Data.spell_of_isSpellable (hmax b rfl)]
      exact ⟨_, by simp [Data.isTrue, toString], rfl⟩
  | some a =>
    cases max with
    | none =>
      simp only [Data.spell_of_isSpellable (hmin a rfl)]
      exact ⟨_, by simp [Data.isTrue, toString], rfl⟩
    | some b =>
      simp only [Data.spell_of_isSpellable (hmin a rfl), Data.spell_of_isSpellable (hmax b rfl)]
      exact ⟨_, by simp [Data.isTrue, toString], rfl⟩

theorem exists_range {min max : Option Int}
    (h : checkRangeBounds (min.map .int) (max.map .int) = .ok ())
    (hmin : ∀ a ∈ min, (Data.int a).isSpellable) (hmax : ∀ b ∈ max, (Data.int b).isSpellable) :
    ∃ r, range (wholeBounds min max) = .ok r := by
  obtain ⟨message, hworded, hmessage⟩ :=
    exists_boundsMessage (Option.forall_mem_map.mpr hmin) (Option.forall_mem_map.mpr hmax)
  rw [range_wholeBounds, h, hmessage]
  exact ⟨_, Rule.make_eq_ok.mpr ⟨hworded, rfl⟩⟩

theorem checkRangeBounds_of_isBeyond (h : IsBeyond a ∨ IsBeyond b) :
    checkRangeBounds (some (.int a)) (some (.int b)) = .error .numberTooLarge := by
  unfold checkRangeBounds
  by_cases ha : IsBeyond a
  · simp only [Data.toBinary64_of_isBeyond ha]
    rfl
  · obtain ⟨x, -, hx⟩ := Data.toBinary64_of_not_isBeyond ha
    simp only [hx, Data.toBinary64_of_isBeyond (h.resolve_left ha)]
    rfl

theorem checkRangeBounds_of_not_isBeyond (ha : ¬ IsBeyond a) (hb : ¬ IsBeyond b) :
    checkRangeBounds (some (.int a)) (some (.int b)) =
      if nearest b < nearest a then .error (.emptyRange (Data.int a).shown (Data.int b).shown)
      else .ok () := by
  obtain ⟨x, hx, hxd⟩ := Data.toBinary64_of_not_isBeyond ha
  obtain ⟨y, hy, hyd⟩ := Data.toBinary64_of_not_isBeyond hb
  have hlow := Data.spell_of_isSpellable (Data.isSpellable_of_not_isBeyond ha)
  have hhigh := Data.spell_of_isSpellable (Data.isSpellable_of_not_isBeyond hb)
  unfold checkRangeBounds
  simp only [hxd, hyd, hlow, hhigh]
  change (if y.lt x then _ else _) = _
  rw [lt_of_ofInt? hy hx]
  simp only [decide_eq_true_eq]
  rfl

theorem range_of_refused
    (h : checkRangeBounds (min.map .int) (max.map .int) = .error f) :
    range (wholeBounds min max) = .error f := by
  rw [range_wholeBounds, h]
  rfl

theorem range_of_not_isSpellable (h : ¬ (Data.int a).isSpellable) :
    range (wholeBounds (some a) none) = .error .numberTooLong ∧
      range (wholeBounds none (some a)) = .error .numberTooLong := by
  have hspell := Data.spell_eq_error.mpr ⟨rfl, h⟩
  simp only [range_wholeBounds, Option.map, boundsMessage, hspell]
  exact ⟨rfl, rfl⟩

theorem Refuses.unique {g : Fault} (hf : Refuses min max f) (hg : Refuses min max g) : f = g := by
  cases hf with
  | beyond h =>
    cases hg with
    | beyond => rfl
    | empty ha hb => exact absurd h (not_or.mpr ⟨ha, hb⟩)
  | empty ha hb =>
    cases hg with
    | beyond h => exact absurd h (not_or.mpr ⟨ha, hb⟩)
    | empty => rfl
  | low =>
    cases hg
    rfl
  | high =>
    cases hg
    rfl

theorem accepted_or_refused (min max : Option Int) :
    ((∃ r, range (wholeBounds min max) = .ok r) ∧ ∀ f, ¬ Refuses min max f) ∨
      ∃ f, range (wholeBounds min max) = .error f ∧ Refuses min max f := by
  cases min with
  | none =>
    cases max with
    | none => exact .inl ⟨exists_range rfl nofun nofun, nofun⟩
    | some b =>
      by_cases hb : (Data.int b).isSpellable
      · refine .inl ⟨exists_range rfl nofun (by simpa using hb), ?_⟩
        rintro f (_ | _ | _ | h)
        exact h hb
      · exact .inr ⟨_, (range_of_not_isSpellable hb).2, .high hb⟩
  | some a =>
    cases max with
    | none =>
      by_cases ha : (Data.int a).isSpellable
      · refine .inl ⟨exists_range rfl (by simpa using ha) nofun, ?_⟩
        rintro f (_ | _ | h)
        exact h ha
      · exact .inr ⟨_, (range_of_not_isSpellable ha).1, .low ha⟩
    | some b =>
      by_cases hbeyond : IsBeyond a ∨ IsBeyond b
      · exact .inr ⟨_, range_of_refused (checkRangeBounds_of_isBeyond hbeyond), .beyond hbeyond⟩
      · obtain ⟨ha, hb⟩ := not_or.mp hbeyond
        have hbounds := checkRangeBounds_of_not_isBeyond ha hb
        by_cases hlt : nearest b < nearest a
        · rw [if_pos hlt] at hbounds
          exact .inr ⟨_, range_of_refused hbounds, .empty ha hb hlt⟩
        · rw [if_neg hlt] at hbounds
          refine .inl ⟨exists_range hbounds ?_ ?_, ?_⟩
          · simpa using Data.isSpellable_of_not_isBeyond ha
          · simpa using Data.isSpellable_of_not_isBeyond hb
          · rintro f (h | ⟨-, -, h⟩)
            · exact hbeyond h
            · exact hlt h

/-- The bounds of a range of whole numbers are refused for these reasons and for no others. -/
theorem range_eq_error_iff : range (wholeBounds min max) = .error f ↔ Refuses min max f := by
  obtain ⟨⟨r, hr⟩, hnone⟩ | ⟨g, hg, hrefuses⟩ := accepted_or_refused min max
  · exact iff_of_false (fun hf => nomatch hr.symm.trans hf) (hnone f)
  · rw [hg, Except.error.injEq]
    exact ⟨fun h => h ▸ hrefuses, hrefuses.unique⟩

/-- There is a bound, and it or the number lies beyond all doubles. -/
def Overflows (min max : Option Int) (v : Int) : Prop :=
  ∃ n, (min = some n ∨ max = some n) ∧ (IsBeyond v ∨ IsBeyond n)

theorem unconverted_int {n : Int} (h : IsBeyond v ∨ IsBeyond n) :
    Unconverted (.int v) (.int n) .numberTooLarge := by
  by_cases hv : IsBeyond v
  · exact .inl (Data.toBinary64_of_isBeyond hv)
  · obtain ⟨x, -, hx⟩ := Data.toBinary64_of_not_isBeyond hv
    exact .inr ⟨⟨x, hx⟩, Data.toBinary64_of_isBeyond (h.resolve_left hv)⟩

theorem isWithin_of_overflows
    (hbounds : checkRangeBounds (min.map .int) (max.map .int) = .ok ()) (h : Overflows min max v) :
    isWithin (min.map .int) (max.map .int) (.int v) = .error .numberTooLarge := by
  obtain ⟨n, hn, hbeyond⟩ := h
  refine (isWithin_eq_error hbounds).mpr ⟨.int n, ?_, unconverted_int hbeyond⟩
  rcases hn with rfl | rfl
  · exact .inl rfl
  · exact .inr rfl

/-- What a number in a range is compared with, as rounded numbers. -/
def RoundsWithin (min max : Option Int) (v : Int) : Prop :=
  (∀ a ∈ min, nearest a ≤ nearest v) ∧ ∀ b ∈ max, nearest v ≤ nearest b

theorem converted_of_not_overflows (h : ¬ Overflows min max v) {n : Int}
    (hn : min = some n ∨ max = some n) :
    ∃ x y, ofInt? v = some x ∧ (Data.int v).toBinary64 = .ok x ∧
      ofInt? n = some y ∧ (Data.int n).toBinary64 = .ok y := by
  have hbeyond : ¬ (IsBeyond v ∨ IsBeyond n) := fun hbeyond => h ⟨n, hn, hbeyond⟩
  obtain ⟨hv, hn⟩ := not_or.mp hbeyond
  obtain ⟨x, hx⟩ := Data.toBinary64_of_not_isBeyond hv
  obtain ⟨y, hy⟩ := Data.toBinary64_of_not_isBeyond hn
  exact ⟨x, y, hx.1, hx.2, hy⟩

theorem isWithin_of_not_overflows (h : ¬ Overflows min max v) :
    ∃ within : Bool, isWithin (min.map .int) (max.map .int) (.int v) = .ok within ∧
      (within ↔ RoundsWithin min max v) := by
  unfold RoundsWithin
  cases min with
  | none =>
    cases max with
    | none => exact ⟨true, rfl, by simp⟩
    | some b =>
      obtain ⟨x, y, hx, hxd, hy, hyd⟩ := converted_of_not_overflows h (.inr rfl)
      refine ⟨x.le y, ?_, by rw [le_of_ofInt? hx hy]; simp⟩
      rw [Option.map_none, Option.map_some, isWithin_high, hxd, hyd]
      rfl
  | some a =>
    obtain ⟨x, y, hx, hxd, hy, hyd⟩ := converted_of_not_overflows h (.inl rfl)
    cases max with
    | none =>
      refine ⟨!x.lt y, ?_, by rw [lt_of_ofInt? hx hy]; simp⟩
      rw [Option.map_none, Option.map_some, isWithin_low, hxd, hyd]
      rfl
    | some b =>
      obtain ⟨_, z, hx', -, hz, hzd⟩ := converted_of_not_overflows h (.inr rfl)
      refine ⟨!x.lt y && x.le z, ?_, by rw [lt_of_ofInt? hx hy, le_of_ofInt? hx hz]; simp⟩
      rw [Option.map_some, Option.map_some, isWithin_both hyd hzd, hxd]
      rfl

section

variable (hr : range (wholeBounds min max) = .ok r)

include hr

theorem tests_wholeBounds : checkRangeBounds (min.map .int) (max.map .int) = .ok () ∧
    r.Tests (unlessNull (isNumberWithin (min.map .int) (max.map .int))) := by
  have htests := tests_of_range hr
  rwa [boundsOf_wholeBounds] at htests

theorem run_of_overflows (h : Overflows min max v) :
    (r.run (.int v)).result = .error .numberTooLarge := by
  obtain ⟨hbounds, hp⟩ := tests_wholeBounds hr
  exact hp.result_eq_error.mpr (isWithin_of_overflows hbounds h)

theorem run_of_not_overflows (h : ¬ Overflows min max v) :
    ∃ x, (r.run (.int v)).result = .ok x ∧ (x.isValid ↔ RoundsWithin min max v) := by
  obtain ⟨-, hp⟩ := tests_wholeBounds hr
  obtain ⟨within, hwithin, hiff⟩ := isWithin_of_not_overflows h
  have hanswer : (unlessNull (isNumberWithin (min.map .int) (max.map .int)) (.int v)).result =
    .ok within := hwithin
  obtain ⟨x, hx, hvalid, -⟩ := hp.verdict hanswer
  exact ⟨x, hx, hvalid.trans hiff⟩

end

theorem not_isBeyond_of_lt {n : Int} (h : n.natAbs < 2 ^ 53) : ¬ IsBeyond n := by
  have hle : 2 ^ 53 ≤ firstBeyond := by decide +kernel
  exact Nat.not_le.mpr (h.trans_le hle)

section

variable (h : ∀ n, min = some n ∨ max = some n → n.natAbs < 2 ^ 53)

include h

theorem refuses_iff : Refuses min max f ↔ ∃ a b, min = some a ∧ max = some b ∧ b < a ∧
    f = .emptyRange (Data.int a).shown (Data.int b).shown := by
  have hspellable : ∀ n, min = some n ∨ max = some n → (Data.int n).isSpellable := fun n hn =>
    Data.isSpellable_of_not_isBeyond (not_isBeyond_of_lt (h n hn))
  constructor
  · intro hf
    cases hf with
    | @beyond a b hbeyond =>
      have ha := not_isBeyond_of_lt (h a (.inl rfl))
      have hb := not_isBeyond_of_lt (h b (.inr rfl))
      exact absurd hbeyond (not_or.mpr ⟨ha, hb⟩)
    | @empty a b _ _ hlt =>
      rw [← not_le, nearest_le_iff (h b (.inr rfl)), not_le] at hlt
      exact ⟨a, b, rfl, rfl, hlt, rfl⟩
    | @low a ha => exact absurd (hspellable a (.inl rfl)) ha
    | @high b hb => exact absurd (hspellable b (.inr rfl)) hb
  · rintro ⟨a, b, rfl, rfl, hlt, rfl⟩
    rw [← not_le, ← nearest_le_iff (h b (.inr rfl)), not_le] at hlt
    exact .empty (not_isBeyond_of_lt (h a (.inl rfl))) (not_isBeyond_of_lt (h b (.inr rfl))) hlt

theorem roundsWithin_iff : RoundsWithin min max v ↔ (∀ a ∈ min, a ≤ v) ∧ ∀ b ∈ max, v ≤ b := by
  refine and_congr (forall₂_congr fun a ha => ?_) (forall₂_congr fun b hb => ?_)
  · exact le_nearest_iff (h a (.inl ha))
  · exact nearest_le_iff (h b (.inr hb))

end

theorem not_overflows_of_lt (h : ∀ n, min = some n ∨ max = some n → n.natAbs < 2 ^ 53)
    (hv : ¬ IsBeyond v) : ¬ Overflows min max v := by
  rintro ⟨n, hn, hbeyond⟩
  exact not_or.mpr ⟨hv, not_isBeyond_of_lt (h n hn)⟩ hbeyond

/-- A range of whole numbers compares the doubles nearest to them. It is refused when its bounds are
in the wrong order as doubles, when two of them cannot be compared, or one cannot be written. Its
rule fails where the number or a bound has no double, and accepts at least the numbers within the
bounds. If the bounds are below 2 ^ 53 it compares exactly, on every number that has a double. -/
theorem range_rounds (min max : Option Int) :
    (∀ f, range (wholeBounds min max) = .error f ↔ Refuses min max f) ∧
    (∀ r, range (wholeBounds min max) = .ok r → ∀ v,
      (Overflows min max v → (r.run (.int v)).result = .error .numberTooLarge) ∧
      (¬ Overflows min max v → ∃ x, (r.run (.int v)).result = .ok x ∧
        (x.isValid ↔ RoundsWithin min max v) ∧
        ((∀ a ∈ min, a ≤ v) ∧ (∀ b ∈ max, v ≤ b) → x.isValid))) ∧
    ((∀ n, min = some n ∨ max = some n → n.natAbs < 2 ^ 53) →
      (∀ f, range (wholeBounds min max) = .error f ↔ ∃ a b, min = some a ∧ max = some b ∧ b < a ∧
        f = .emptyRange (Data.int a).shown (Data.int b).shown) ∧
      ∀ r, range (wholeBounds min max) = .ok r → ∀ v, ¬ IsBeyond v →
        ∃ x, (r.run (.int v)).result = .ok x ∧
          (x.isValid ↔ (∀ a ∈ min, a ≤ v) ∧ ∀ b ∈ max, v ≤ b)) := by
  refine ⟨fun f => range_eq_error_iff, fun r hr v => ⟨run_of_overflows hr, fun h => ?_⟩,
    fun h => ⟨fun f => range_eq_error_iff.trans (refuses_iff h), fun r hr v hv => ?_⟩⟩
  · obtain ⟨x, hx, hvalid⟩ := run_of_not_overflows hr h
    refine ⟨x, hx, hvalid, ?_⟩
    rintro ⟨hmin, hmax⟩
    exact hvalid.mpr ⟨fun a ha => nearest_mono (hmin a ha), fun b hb => nearest_mono (hmax b hb)⟩
  · obtain ⟨x, hx, hvalid⟩ := run_of_not_overflows hr (not_overflows_of_lt h hv)
    exact ⟨x, hx, hvalid.trans (roundsWithin_iff h)⟩

theorem range_rounds_percentage : ∃ r, range (wholeBounds (some 0) (some 100)) = .ok r ∧
    (∃ x, (r.run (.int 101)).result = .ok x ∧ ¬ x.isValid) ∧
    (r.run (.int (10 ^ 400))).result = .error .numberTooLarge := by
  obtain ⟨-, hrun, hexact⟩ := range_rounds (some 0) (some 100)
  obtain ⟨hrefused, hrange⟩ := hexact (by rintro n (h | h) <;> cases h <;> decide)
  cases hr : range (wholeBounds (some 0) (some 100)) with
  | error f =>
    obtain ⟨a, b, ha, hb, hlt, -⟩ := (hrefused f).mp hr
    cases ha
    cases hb
    exact absurd hlt (by decide)
  | ok r =>
    obtain ⟨x, hx, hvalid⟩ := hrange r hr 101 (not_isBeyond_of_lt (by decide))
    have hbeyond : IsBeyond (10 ^ 400) := by
      unfold IsBeyond
      decide +kernel
    exact ⟨r, rfl, ⟨x, hx, mt hvalid.mp (by simp)⟩,
      (hrun r hr _).1 ⟨0, .inl rfl, .inl hbeyond⟩⟩

/-- Bounds in the wrong order are not noticed when they become the same double. -/
theorem range_of_reversed_bounds : (2 : Int) ^ 53 < 2 ^ 53 + 1 ∧
    (range (wholeBounds (some (2 ^ 53 + 1)) (some (2 ^ 53)))).isOk := by
  decide +kernel

end Check

end Assay
