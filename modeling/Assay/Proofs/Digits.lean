import Mathlib.Data.Nat.Digits.Lemmas
import Assay.Text.Whole

/-! # Decimal notation

Decimal digits of any script stand for a number, the first of them being the
most significant. The digits in which a number is written stand for it again.
-/

namespace Assay.Text

variable {c : Char} {ds : List Char}

def digit (c : Char) : Nat := (decimalValue? c).getD 0

def number (ds : List Char) : Nat := Nat.ofDigits 10 (ds.map digit).reverse

theorem decimalValue?_of_isDecimal (h : isDecimal c) : decimalValue? c = some (digit c) := by
  obtain ⟨r, hr, hc⟩ := (decimalRanges.has_iff c).mp h
  have hfound : (decimalValue? c).isSome := by
    rw [decimalValue?, Option.isSome_map, List.find?_isSome]
    exact ⟨r, hr, by simpa using hc⟩
  obtain ⟨d, hd⟩ := Option.isSome_iff_exists.mp hfound
  rw [digit, hd, Option.getD_some]

theorem digit_lt (c : Char) : digit c < 10 := by
  unfold digit decimalValue?
  cases decimalRanges.find? _ with
  | none => exact Nat.zero_lt_succ 9
  | some r => exact Nat.mod_lt _ (Nat.zero_lt_succ 9)

theorem number_eq_foldl (ds : List Char) :
    number ds = ds.foldl (fun n c => n * 10 + digit c) 0 := by
  rw [number, Nat.ofDigits_eq_foldr, List.foldr_reverse, List.foldl_map]
  refine congrArg (fun f => ds.foldl f 0) ?_
  funext n c
  rw [Nat.cast_id, add_comm, mul_comm]

theorem number_lt (ds : List Char) : number ds < 10 ^ ds.length := by
  have h : number ds < 10 ^ (ds.map digit).reverse.length := by
    refine Nat.ofDigits_lt_base_pow_length (by decide) fun d hd => ?_
    obtain ⟨c, -, rfl⟩ := List.mem_map.mp (List.mem_reverse.mp hd)
    exact digit_lt c
  rwa [List.length_reverse, List.length_map] at h

theorem digitsValue_eq_foldl (h : ∀ c ∈ ds, isDecimal c) (acc : Nat) :
    digitsValue acc ds = some (ds.foldl (fun n c => n * 10 + digit c) acc) := by
  induction ds generalizing acc with
  | nil => rfl
  | cons c rest ih =>
    obtain ⟨hc, hrest⟩ := List.forall_mem_cons.mp h
    rw [digitsValue, decimalValue?_of_isDecimal hc]
    exact ih hrest _

theorem digitsValue_of_isDecimal (h : ∀ c ∈ ds, isDecimal c) :
    digitsValue 0 ds = some (number ds) := by
  rw [digitsValue_eq_foldl h, number_eq_foldl]

theorem toNat_of_isDigit (h : c.isDigit) : 0x30 ≤ c.toNat ∧ c.toNat ≤ 0x39 := by
  simpa [Char.isDigit, UInt32.le_iff_toNat_le] using h

theorem isDecimal_of_isDigit (h : c.isDigit) : isDecimal c :=
  (decimalRanges.has_iff c).mpr ⟨(0x30, 0x39), .head _, toNat_of_isDigit h⟩

theorem digit_of_isDigit (h : c.isDigit) : digit c = c.toNat - 0x30 := by
  obtain ⟨h₀, h₉⟩ := toNat_of_isDigit h
  simp only [digit, decimalValue?, decimalRanges, List.find?_cons, h₀, h₉, decide_true,
    Bool.and_self, Option.map_some, Option.getD_some]
  exact Nat.mod_eq_of_lt (by omega)

theorem foldl_digit_of_isDigit (h : ∀ c ∈ ds, c.isDigit) (acc : Nat) :
    ds.foldl (fun n c => n * 10 + digit c) acc = Nat.ofDigitChars 10 ds acc := by
  induction ds generalizing acc with
  | nil => rfl
  | cons c rest ih =>
    obtain ⟨hc, hrest⟩ := List.forall_mem_cons.mp h
    rw [List.foldl_cons, ih hrest, Nat.ofDigitChars_cons, digit_of_isDigit hc, mul_comm]
    rfl

theorem isDigit_of_mem_toDigits {n : Nat} (h : c ∈ Nat.toDigits 10 n) : c.isDigit :=
  Nat.isDigit_of_mem_toDigits (Nat.zero_lt_succ 9) (Nat.le_refl 10) h

theorem number_toDigits (n : Nat) : number (Nat.toDigits 10 n) = n := by
  rw [number_eq_foldl, foldl_digit_of_isDigit (fun _ => isDigit_of_mem_toDigits),
    Nat.ofDigitChars_ten_toDigits]

end Assay.Text
