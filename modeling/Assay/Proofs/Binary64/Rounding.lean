import Assay.Proofs.Extent

/-! # Rounding of whole numbers

A whole number becomes a double by being brought to 53 binary digits. Up to
2 ^ 53 it stays as it is; beyond, it becomes the nearest number that has as many
digits, so that the order of numbers is kept but different numbers may meet. A
number that is rounded to 2 ^ 1024 or more has no double.
-/

namespace Assay.Binary64

variable {n k d : Nat}

/-- The multiple of `d` that is nearest to `n`, of two the even one. -/
def nearestMultiple (d n : Nat) : Nat := roundQuotient n d * d

theorem two_mul_nearestMultiple_le (n : Nat) (hd : 0 < d) :
    2 * nearestMultiple d n ≤ 2 * n + d := by
  have hdiv : n / d * d + n % d = n := Nat.div_add_mod' n d
  unfold nearestMultiple roundQuotient
  dsimp only
  split
  · next h =>
    have hr : d ≤ 2 * (n % d) := by
      simp only [Bool.or_eq_true, Bool.and_eq_true, decide_eq_true_eq, beq_iff_eq] at h
      omega
    rw [Nat.add_mul]
    omega
  · omega

theorem two_mul_le_nearestMultiple (n : Nat) (hd : 0 < d) :
    2 * n ≤ 2 * nearestMultiple d n + d := by
  have hdiv : n / d * d + n % d = n := Nat.div_add_mod' n d
  have hlt : n % d < d := Nat.mod_lt n hd
  unfold nearestMultiple roundQuotient
  dsimp only
  split
  · rw [Nat.add_mul]
    omega
  · next h =>
    have hr : 2 * (n % d) ≤ d := by
      simp only [Bool.or_eq_true, Bool.and_eq_true, decide_eq_true_eq, beq_iff_eq] at h
      omega
    omega

theorem nearestMultiple_of_dvd (hd : 0 < d) (h : d ∣ n) : nearestMultiple d n = n := by
  simp [nearestMultiple, roundQuotient, Nat.mod_eq_zero_of_dvd h, Nat.div_mul_cancel h, hd.ne]

theorem nearestMultiple_nearest (n : Nat) (hd : 0 < d) (h : d ∣ k) :
    (nearestMultiple d n - n : Int).natAbs ≤ (k - n : Int).natAbs := by
  obtain ⟨m, rfl⟩ := h
  have hle := two_mul_nearestMultiple_le n hd
  have hge := two_mul_le_nearestMultiple n hd
  rw [nearestMultiple, Nat.mul_comm d m] at *
  rcases Nat.lt_trichotomy m (roundQuotient n d) with h | rfl | h
  · have := Nat.mul_le_mul_right d (Nat.succ_le_of_lt h)
    rw [Nat.succ_mul] at this
    omega
  · exact le_rfl
  · have := Nat.mul_le_mul_right d (Nat.succ_le_of_lt h)
    rw [Nat.succ_mul] at this
    omega

theorem nearestMultiple_mono (hd : 0 < d) (h : n ≤ k) :
    nearestMultiple d n ≤ nearestMultiple d k := by
  by_contra hlt
  -- multiples that differ are off by half of the divisor each, so that the numbers are the same
  have hquotient : roundQuotient k d < roundQuotient n d :=
    Nat.lt_of_mul_lt_mul_right (Nat.not_le.mp hlt)
  have hstep := Nat.mul_le_mul_right d (Nat.succ_le_of_lt hquotient)
  have hn := two_mul_nearestMultiple_le n hd
  have hk := two_mul_le_nearestMultiple k hd
  rw [Nat.succ_mul] at hstep
  unfold nearestMultiple at hn hk
  obtain rfl : n = k := by omega
  exact hlt le_rfl

theorem nearestMultiple_le_of_dvd (hd : 0 < d) (h : d ∣ k) (hle : n ≤ k) :
    nearestMultiple d n ≤ k :=
  (nearestMultiple_mono hd hle).trans_eq (nearestMultiple_of_dvd hd h)

theorem le_nearestMultiple_of_dvd (hd : 0 < d) (h : d ∣ k) (hle : k ≤ n) :
    k ≤ nearestMultiple d n :=
  (nearestMultiple_of_dvd hd h).symm.trans_le (nearestMultiple_mono hd hle)

/-- The value of the last of the first 53 binary digits of the number. -/
def unit (n : Nat) : Nat := 2 ^ (n.log2 - 52)

/-- The number brought to 53 binary digits. -/
def rounded (n : Nat) : Nat := nearestMultiple (unit n) n

/-- The number has no more than 53 binary digits, apart from zeros at its end. -/
def IsShort (n : Nat) : Prop := ∃ m e, m < 2 ^ 53 ∧ n = m * 2 ^ e

theorem unit_pos (n : Nat) : 0 < unit n := Nat.two_pow_pos _

theorem unit_dvd_two_pow {e : Nat} (h : n.log2 ≤ e) : unit n ∣ 2 ^ e :=
  Nat.pow_dvd_pow 2 (by omega)

theorem isShort_of_le (h : n ≤ 2 ^ 53) : IsShort n := by
  rcases h.lt_or_eq with h | rfl
  · exact ⟨n, 0, h, (Nat.mul_one n).symm⟩
  · exact ⟨1, 53, by decide, (Nat.one_mul _).symm⟩

theorem IsShort.unit_dvd (hk : IsShort k) (h : 2 ^ n.log2 ≤ k) : unit n ∣ k := by
  obtain ⟨m, e, hm, rfl⟩ := hk
  have hlt : m * 2 ^ e < 2 ^ (53 + e) := by
    rw [pow_add]
    exact Nat.mul_lt_mul_of_pos_right hm (Nat.two_pow_pos e)
  have hlog : n.log2 < 53 + e := (Nat.pow_lt_pow_iff_right Nat.one_lt_two).mp (h.trans_lt hlt)
  exact (Nat.pow_dvd_pow 2 (by omega)).trans (Nat.dvd_mul_left _ m)

theorem rounded_of_isShort (h : IsShort n) : rounded n = n := by
  rcases eq_or_ne n 0 with rfl | hn
  · exact nearestMultiple_of_dvd (unit_pos 0) (dvd_zero _)
  · exact nearestMultiple_of_dvd (unit_pos n) (h.unit_dvd (Nat.log2_self_le hn))

theorem rounded_le (n : Nat) : rounded n ≤ 2 ^ (n.log2 + 1) :=
  nearestMultiple_le_of_dvd (unit_pos n) (unit_dvd_two_pow (Nat.le_succ _)) Nat.lt_log2_self.le

theorem le_rounded (hn : n ≠ 0) : 2 ^ n.log2 ≤ rounded n :=
  le_nearestMultiple_of_dvd (unit_pos n) (unit_dvd_two_pow le_rfl) (Nat.log2_self_le hn)

theorem rounded_mono (h : n ≤ k) : rounded n ≤ rounded k := by
  rcases eq_or_ne n 0 with rfl | hn
  · exact (rounded_of_isShort (isShort_of_le (Nat.zero_le _))).trans_le (Nat.zero_le _)
  have hk : k ≠ 0 := (Nat.pos_of_ne_zero hn |>.trans_le h).ne'
  have hlog : n.log2 ≤ k.log2 := (Nat.le_log2 hk).mpr ((Nat.log2_self_le hn).trans h)
  rcases hlog.eq_or_lt with hlog | hlog
  · rw [rounded, rounded, unit, unit, hlog]
    exact nearestMultiple_mono (Nat.two_pow_pos _) h
  · calc
      rounded n ≤ 2 ^ (n.log2 + 1) := rounded_le n
      _ ≤ 2 ^ k.log2 := Nat.pow_le_pow_right Nat.two_pos hlog
      _ ≤ rounded k := le_rounded hk

theorem rounded_nearest (n : Nat) (hk : IsShort k) :
    (rounded n - n : Int).natAbs ≤ (k - n : Int).natAbs := by
  rcases eq_or_ne n 0 with rfl | hn
  · rw [rounded_of_isShort (isShort_of_le (Nat.zero_le _))]
    omega
  rcases le_or_gt (2 ^ n.log2) k with h | h
  · exact nearestMultiple_nearest n (unit_pos n) (hk.unit_dvd h)
  · have hpow := nearestMultiple_nearest n (unit_pos n) (unit_dvd_two_pow (le_refl n.log2))
    have hle := Nat.log2_self_le hn
    rw [← rounded] at hpow
    omega

/-- The least whole number that is rounded beyond all doubles: halfway from the greatest double to
2 ^ 1024. -/
def firstBeyond : Nat := (2 ^ 54 - 1) * 2 ^ 970

theorem rounded_firstBeyond : rounded firstBeyond = 2 ^ 53 * 2 ^ 971 := by decide +kernel

theorem isShort_greatest : IsShort ((2 ^ 53 - 1) * 2 ^ 971) := ⟨_, 971, by decide, rfl⟩

theorem rounded_lt_iff : rounded n < 2 ^ 53 * 2 ^ 971 ↔ n < firstBeyond := by
  have hpow : 2 ^ 971 = 2 * 2 ^ 970 := by rw [← pow_succ']
  constructor
  · intro h
    by_contra hle
    exact absurd (rounded_mono (Nat.not_lt.mp hle)) (by rw [rounded_firstBeyond]; exact h.not_ge)
  · intro h
    have hnearest := rounded_nearest n isShort_greatest
    have hpos : 0 < 2 ^ 970 := pow_pos Nat.two_pos _
    rcases Nat.le_total n ((2 ^ 53 - 1) * 2 ^ 971) with hle | hle
    · have := (rounded_mono hle).trans_eq (rounded_of_isShort isShort_greatest)
      rw [hpow] at *
      generalize 2 ^ 970 = u at *
      omega
    · unfold firstBeyond at h
      rw [hpow] at *
      generalize 2 ^ 970 = u at *
      omega

theorem twoTo_eq_pow (n : Nat) : twoTo n = 2 ^ n := rfl

theorem scaled_one_of_lt (h : n.log2 < 52) :
    scaled n 1 (n.log2 - 52) = (n * 2 ^ (52 - n.log2), 1) := by
  have habs : ((n.log2 : Int) - 52).natAbs = 52 - n.log2 := by omega
  rw [scaled, if_pos (by omega), habs, twoTo_eq_pow]

theorem scaled_one_of_le (h : 52 ≤ n.log2) : scaled n 1 (n.log2 - 52) = (n, unit n) := by
  have habs : ((n.log2 : Int) - 52).toNat = n.log2 - 52 := by omega
  rw [scaled, if_neg (by omega), habs, twoTo_eq_pow, Nat.one_mul, unit]

theorem two_pow_mul_unit (h : 52 ≤ n.log2) : 2 ^ 52 * unit n = 2 ^ n.log2 := by
  rw [unit, ← pow_add, Nat.add_sub_cancel' h]

theorem fullExponent_one (hn : n ≠ 0) : fullExponent n 1 = n.log2 - 52 := by
  have hlog : Nat.log2 1 = 0 := rfl
  have hle := Nat.log2_self_le hn
  unfold fullExponent
  rw [hlog, Nat.cast_zero, Int.sub_zero]
  dsimp only
  rcases Nat.lt_or_ge n.log2 52 with h | h
  · rw [scaled_one_of_lt h]
    have : 2 ^ 52 ≤ n * 2 ^ (52 - n.log2) := by
      calc 2 ^ 52 = 2 ^ n.log2 * 2 ^ (52 - n.log2) := by rw [← pow_add, Nat.add_sub_cancel' h.le]
        _ ≤ n * 2 ^ (52 - n.log2) := Nat.mul_le_mul_right _ hle
    dsimp only
    rw [twoTo_eq_pow, Nat.one_mul, if_neg (Nat.not_lt.mpr this)]
  · rw [scaled_one_of_le h]
    have : unit n * 2 ^ 52 ≤ n := by rwa [Nat.mul_comm, two_pow_mul_unit h]
    dsimp only
    rw [twoTo_eq_pow, if_neg (Nat.not_lt.mpr this)]

/-- A quotient is scaled and rounded, where a carry may make the mantissa one digit longer. -/
theorem ofQuotient_eq {negative : Bool} {num den m : Nat} {e e' : Int} (hnum : num ≠ 0)
    (hexponent : max minExponent (fullExponent num den) = e) (hscaled : scaled num den e = (n, d))
    (hcarry : (if roundQuotient n d == twoTo 53 then (twoTo 52, e + 1)
      else (roundQuotient n d, e)) = (m, e')) :
    ofQuotient negative num den =
      if e' > maxExponent then .infinite negative else .finite negative m e' := by
  unfold ofQuotient
  rw [if_neg (by simpa using hnum), hexponent]
  simp only [hscaled, hcarry]

theorem exponent_one (hn : n ≠ 0) : max minExponent (fullExponent n 1) = n.log2 - 52 := by
  rw [fullExponent_one hn, minExponent]
  omega

theorem mul_two_pow_lt_iff {m e limit : Nat} (hlow : 2 ^ 52 ≤ m) (hhigh : m < 2 ^ 53) :
    m * 2 ^ e < 2 ^ 53 * 2 ^ limit ↔ e ≤ limit := by
  constructor
  · intro h
    by_contra hlt
    have hle : 2 ^ 53 * 2 ^ limit ≤ m * 2 ^ e := by
      calc
        2 ^ 53 * 2 ^ limit = 2 ^ 52 * 2 ^ (limit + 1) := by ring
        _ ≤ m * 2 ^ e := Nat.mul_le_mul hlow (Nat.pow_le_pow_right Nat.two_pos (by omega))
    exact hle.not_gt h
  · intro h
    calc
      m * 2 ^ e < 2 ^ 53 * 2 ^ e := Nat.mul_lt_mul_of_pos_right hhigh (Nat.two_pow_pos e)
      _ ≤ 2 ^ 53 * 2 ^ limit := Nat.mul_le_mul_left _ (Nat.pow_le_pow_right Nat.two_pos h)

theorem ofQuotient_one_of_le (negative : Bool) (h : 52 ≤ n.log2) :
    ∃ m e : Nat, m * 2 ^ e = rounded n ∧ 2 ^ 52 ≤ m ∧ m < 2 ^ 53 ∧
      ofQuotient negative n 1 =
        if (e : Int) > maxExponent then .infinite negative else .finite negative m e := by
  have hn : n ≠ 0 := by
    rintro rfl
    exact absurd h (by simp)
  have hle : 2 ^ 52 * unit n ≤ roundQuotient n (unit n) * unit n :=
    (two_pow_mul_unit h).trans_le (le_rounded hn)
  have hge : roundQuotient n (unit n) * unit n ≤ 2 ^ 53 * unit n := by
    calc
      roundQuotient n (unit n) * unit n ≤ 2 ^ (n.log2 + 1) := rounded_le n
      _ = 2 * (2 ^ 52 * unit n) := by rw [two_pow_mul_unit h, pow_succ']
      _ = 2 ^ 53 * unit n := by ring
  have hlow := Nat.le_of_mul_le_mul_right hle (unit_pos n)
  have hhigh := Nat.le_of_mul_le_mul_right hge (unit_pos n)
  rcases hhigh.eq_or_lt with hm | hm
  · refine ⟨2 ^ 52, n.log2 - 51, ?_, le_rfl, by decide, ?_⟩
    · rw [rounded, nearestMultiple, hm, unit, ← pow_add, ← pow_add]
      congr 1
      omega
    · refine ofQuotient_eq hn (exponent_one hn) (scaled_one_of_le h) ?_
      rw [if_pos (beq_iff_eq.mpr (hm.trans (twoTo_eq_pow 53).symm)), twoTo_eq_pow]
      congr 1
      omega
  · refine ⟨roundQuotient n (unit n), n.log2 - 52, rfl, hlow, hm, ?_⟩
    refine ofQuotient_eq hn (exponent_one hn) (scaled_one_of_le h) ?_
    rw [if_neg (by rw [beq_iff_eq, twoTo_eq_pow]; exact hm.ne), Nat.cast_sub h, Nat.cast_ofNat]

theorem ofQuotient_one_of_lt (negative : Bool) (hn : n ≠ 0) (h : n.log2 < 52) :
    ofQuotient negative n 1 =
      .finite negative (n * 2 ^ (52 - n.log2)) (n.log2 - 52) := by
  have hlt : n * 2 ^ (52 - n.log2) < 2 ^ 53 := by
    calc
      n * 2 ^ (52 - n.log2) < 2 ^ (n.log2 + 1) * 2 ^ (52 - n.log2) :=
        Nat.mul_lt_mul_of_pos_right Nat.lt_log2_self (Nat.two_pow_pos _)
      _ = 2 ^ 53 := by
        rw [← pow_add]
        congr 1
        omega
  have hcarry : roundQuotient (n * 2 ^ (52 - n.log2)) 1 = n * 2 ^ (52 - n.log2) := by
    simpa [nearestMultiple] using nearestMultiple_of_dvd Nat.one_pos (one_dvd _)
  have hmax : ¬ (n.log2 : Int) - 52 > maxExponent := by
    rw [maxExponent]
    omega
  refine (ofQuotient_eq hn (exponent_one hn) (scaled_one_of_lt h) ?_).trans (if_neg hmax)
  rw [hcarry, if_neg (by rw [beq_iff_eq, twoTo_eq_pow]; exact hlt.ne)]

theorem ofQuotient_one_of_lt_firstBeyond (negative : Bool) (h : n < firstBeyond) :
    ∃ m e, ofQuotient negative n 1 = .finite negative m e ∧ (m : ℚ) * 2 ^ e = rounded n := by
  rcases eq_or_ne n 0 with rfl | hn
  · exact ⟨0, minExponent, rfl, by rw [rounded_of_isShort (isShort_of_le (Nat.zero_le _))]; simp⟩
  rcases Nat.lt_or_ge n.log2 52 with hlog | hlog
  · refine ⟨_, _, ofQuotient_one_of_lt negative hn hlog, ?_⟩
    have hlt : n < 2 ^ 53 := Nat.lt_log2_self.trans_le (Nat.pow_le_pow_right Nat.two_pos (by omega))
    rw [rounded_of_isShort (isShort_of_le hlt.le)]
    push_cast
    rw [mul_assoc, ← zpow_natCast, ← zpow_add₀ two_ne_zero, Nat.cast_sub hlog.le]
    simp
  · obtain ⟨m, e, hrounded, hlow, hhigh, hdouble⟩ := ofQuotient_one_of_le negative hlog
    refine ⟨m, e, ?_, by rw [← hrounded]; push_cast; rw [zpow_natCast]⟩
    have hle := (mul_two_pow_lt_iff hlow hhigh).mp (hrounded.trans_lt (rounded_lt_iff.mpr h))
    rw [hdouble, if_neg (by rw [maxExponent]; omega)]

theorem ofQuotient_one_of_firstBeyond_le (negative : Bool) (h : firstBeyond ≤ n) :
    ofQuotient negative n 1 = .infinite negative := by
  have hlog : 52 ≤ n.log2 := by
    have hpow : 2 ^ 52 ≤ firstBeyond := by decide +kernel
    exact (Nat.le_log2 (by rintro rfl; exact absurd h (by decide +kernel))).mpr (hpow.trans h)
  obtain ⟨m, e, hrounded, hlow, hhigh, hdouble⟩ := ofQuotient_one_of_le negative hlog
  have hlt : 971 < e := by
    rw [← Nat.not_le, ← mul_two_pow_lt_iff hlow hhigh, hrounded, rounded_lt_iff]
    exact h.not_gt
  rw [hdouble, if_pos (by rw [maxExponent]; omega)]

/-- The integer brought to 53 binary digits. -/
def nearest (n : Int) : Int := n.sign * rounded n.natAbs

variable {a b : Int} {x y : Binary64}

theorem nearest_of_le (h : a.natAbs ≤ 2 ^ 53) : nearest a = a := by
  rw [nearest, rounded_of_isShort (isShort_of_le h), Int.sign_mul_natAbs]

theorem nearest_of_nonneg (h : 0 ≤ a) : nearest a = rounded a.natAbs := by
  rcases h.eq_or_lt with rfl | h
  · exact nearest_of_le (Nat.zero_le _)
  · rw [nearest, Int.sign_eq_one_of_pos h, one_mul]

theorem nearest_of_neg (h : a < 0) : nearest a = -rounded a.natAbs := by
  rw [nearest, Int.sign_eq_neg_one_of_neg h, neg_one_mul]

theorem nearest_mono (h : a ≤ b) : nearest a ≤ nearest b := by
  rcases lt_or_ge a 0 with ha | ha <;> rcases lt_or_ge b 0 with hb | hb
  · rw [nearest_of_neg ha, nearest_of_neg hb]
    have : rounded b.natAbs ≤ rounded a.natAbs := rounded_mono (by omega)
    omega
  · rw [nearest_of_neg ha, nearest_of_nonneg hb]
    omega
  · omega
  · rw [nearest_of_nonneg ha, nearest_of_nonneg hb]
    have : rounded a.natAbs ≤ rounded b.natAbs := rounded_mono (by omega)
    omega

/-- Rounding does not move a number past one that is below 2 ^ 53. -/
theorem nearest_le_iff (h : b.natAbs < 2 ^ 53) : nearest a ≤ nearest b ↔ a ≤ b := by
  refine ⟨fun hle => ?_, nearest_mono⟩
  by_contra hlt
  have hnext : nearest (b + 1) ≤ nearest a := nearest_mono (by omega)
  have hb : nearest b = b := nearest_of_le (by omega)
  have hb' : nearest (b + 1) = b + 1 := nearest_of_le (by omega)
  omega

theorem le_nearest_iff (h : a.natAbs < 2 ^ 53) : nearest a ≤ nearest b ↔ a ≤ b := by
  refine ⟨fun hle => ?_, nearest_mono⟩
  by_contra hlt
  have hnext : nearest b ≤ nearest (a - 1) := nearest_mono (by omega)
  have ha : nearest a = a := nearest_of_le (by omega)
  have ha' : nearest (a - 1) = a - 1 := nearest_of_le (by omega)
  omega

theorem nearest_nearest (a : Int) (h : IsShort b.natAbs) :
    (nearest a - a).natAbs ≤ (b - a).natAbs := by
  have hb := rounded_nearest a.natAbs h
  have hzero := rounded_nearest a.natAbs (isShort_of_le (Nat.zero_le _))
  rcases lt_or_ge a 0 with ha | ha
  · rw [nearest_of_neg ha]
    omega
  · rw [nearest_of_nonneg ha]
    omega

theorem ofInt?_eq_none : ofInt? a = none ↔ firstBeyond ≤ a.natAbs := by
  unfold ofInt?
  rcases Nat.lt_or_ge a.natAbs firstBeyond with h | h
  · obtain ⟨m, e, hdouble, -⟩ := ofQuotient_one_of_lt_firstBeyond (decide (a < 0)) h
    rw [hdouble]
    exact iff_of_false nofun h.not_ge
  · rw [ofQuotient_one_of_firstBeyond_le _ h]
    exact iff_of_true rfl h

theorem value_of_ofInt? (h : ofInt? a = some x) :
    ∃ m e, Extent.ofBinary64 x = .at m e ∧ (m : ℚ) * 2 ^ e = nearest a := by
  have hlt : a.natAbs < firstBeyond := by
    by_contra hle
    rw [ofInt?_eq_none.mpr (Nat.not_lt.mp hle)] at h
    cases h
  obtain ⟨m, e, hdouble, hvalue⟩ := ofQuotient_one_of_lt_firstBeyond (decide (a < 0)) hlt
  rw [ofInt?, hdouble] at h
  cases h
  refine ⟨_, _, rfl, ?_⟩
  rcases lt_or_ge a 0 with ha | ha
  · rw [nearest_of_neg ha, decide_eq_true ha, if_pos rfl]
    push_cast
    rw [neg_mul, hvalue]
  · rw [nearest_of_nonneg ha, decide_eq_false ha.not_gt, if_neg Bool.false_ne_true]
    push_cast
    rw [hvalue]

theorem lt_of_ofInt? (hx : ofInt? a = some x) (hy : ofInt? b = some y) :
    x.lt y = decide (nearest a < nearest b) := by
  obtain ⟨m, e, hm, ha⟩ := value_of_ofInt? hx
  obtain ⟨m', e', hm', hb⟩ := value_of_ofInt? hy
  rw [lt, hm, hm', Extent.lt_at, ha, hb, decide_eq_decide, Int.cast_lt]

theorem le_of_ofInt? (hx : ofInt? a = some x) (hy : ofInt? b = some y) :
    x.le y = decide (nearest a ≤ nearest b) := by
  obtain ⟨m, e, hm, ha⟩ := value_of_ofInt? hx
  obtain ⟨m', e', hm', hb⟩ := value_of_ofInt? hy
  rw [le, hm, hm', Extent.le_at, ha, hb, decide_eq_decide, Int.cast_le]

end Assay.Binary64
