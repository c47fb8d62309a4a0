import Assay.Proofs.Checks.Running
import Assay.Proofs.Digits

/-! # Numerals

The check for numerals accepts texts of digits, both decimal ones and those that
belong to no decimal system. A text of decimal digits can be read as a whole
number. With a digit of the other kind in it, it passes the check and cannot be
read, so that a comparison behind the check fails.
-/

namespace Assay

namespace Text

variable {c : Char} {cs ds : List Char}

theorem Ranges.not_has_of_has {rs qs : Ranges}
    (h : ∀ r ∈ rs, ∀ q ∈ qs, r.2 < q.1 ∨ q.2 < r.1) (hc : rs.has c) : ¬ qs.has c := by
  rw [has_iff] at hc ⊢
  rintro ⟨q, hq, hlow, hhigh⟩
  obtain ⟨r, hr, hlow', hhigh'⟩ := hc
  rcases h r hr q hq with hlt | hlt <;> omega

theorem isDigit_iff : isDigit c ↔ isDecimal c ∨ loneDigitRanges.has c := by
  simp [isDigit]

/-- A text of digits, of which there is at least one. -/
def IsNumeral (s : String) : Prop :=
  s ≠ "" ∧ ∀ c ∈ s.toList, isDecimal c ∨ loneDigitRanges.has c

/-- A text of decimal digits, of which there is at least one. -/
def IsDecimalNumeral (s : String) : Prop := s ≠ "" ∧ ∀ c ∈ s.toList, isDecimal c

/-- Blanks, signs and the character between digits. -/
def separatorRanges : Ranges := blankRanges ++ [(0x2b, 0x2b), (0x2d, 0x2d), (0x5f, 0x5f)]

theorem not_has_separatorRanges (h : isDigit c) : ¬ separatorRanges.has c := by
  rcases isDigit_iff.mp h with h | h
  · exact Ranges.not_has_of_has (by decide +kernel) h
  · exact Ranges.not_has_of_has (by decide +kernel) h

theorem not_isBlank_of_isDigit (h : isDigit c) : ¬ isBlank c := by
  intro hblank
  obtain ⟨r, hr, hc⟩ := (blankRanges.has_iff c).mp hblank
  exact not_has_separatorRanges h
    ((separatorRanges.has_iff c).mpr ⟨r, List.mem_append_left _ hr, hc⟩)

theorem ne_of_isDigit {b : Char} (h : isDigit c) (hb : separatorRanges.has b) : c ≠ b := by
  rintro rfl
  exact not_has_separatorRanges h hb

theorem trimBlank_of_isDigit (h : ∀ c ∈ cs, isDigit c) : trimBlank cs = cs := by
  have hnone : ∀ ds : List Char, (∀ c ∈ ds, isDigit c) → ds.dropWhile isBlank = ds := by
    intro ds hds
    cases ds with
    | nil => rfl
    | cons d rest =>
      exact List.dropWhile_cons_of_neg (not_isBlank_of_isDigit (hds d List.mem_cons_self))
  rw [trimBlank, hnone cs h, hnone _ fun c hc => h c (List.mem_reverse.mp hc),
    List.reverse_reverse]

theorem groupedDigits?_of_isDigit (h : ∀ c ∈ cs, isDigit c) :
    groupedDigits? cs = if cs ≠ [] ∧ cs.all isDecimal then some cs else none := by
  induction cs with
  | nil => rfl
  | cons c rest ih =>
    obtain ⟨hc, hrest⟩ := List.forall_mem_cons.mp h
    cases rest with
    | nil => by_cases hdecimal : isDecimal c <;> simp [groupedDigits?, hdecimal]
    | cons d rest =>
      have hd : d ≠ '_' := ne_of_isDigit (hrest d List.mem_cons_self) (by decide)
      rw [groupedDigits?.eq_3 _ _ (by simp) (fun _ h => hd (List.cons.inj h).1), ih hrest]
      by_cases hdecimal : isDecimal c <;> simp [hdecimal]

theorem integer?_of_unsigned (hblank : trimBlank cs = cs) (hminus : cs.head? ≠ some '-')
    (hplus : cs.head? ≠ some '+') :
    integer? cs = (groupedDigits? cs).bind fun ds =>
      if ds.length > digitLimit then none else (digitsValue 0 ds).map fun n => (n : Int) := by
  rw [integer?, hblank]
  grind

theorem integer?_of_isNumeral {s : String} (hlength : s.length ≤ digitLimit) (h : IsNumeral s) :
    (IsDecimalNumeral s → integer? s.toList = some (number s.toList : Int)) ∧
      (¬ IsDecimalNumeral s → integer? s.toList = none) := by
  obtain ⟨hne, hdigits⟩ := h
  simp only [← isDigit_iff] at hdigits
  have hhead : ∀ b, separatorRanges.has b → s.toList.head? ≠ some b := fun b hb hs =>
    ne_of_isDigit (hdigits b (List.mem_of_head? hs)) hb rfl
  have hnil : s.toList ≠ [] := by simpa using hne
  have hshort : s.toList.length ≤ digitLimit := hlength
  rw [integer?_of_unsigned (trimBlank_of_isDigit hdigits) (hhead '-' (by decide))
    (hhead '+' (by decide)), groupedDigits?_of_isDigit hdigits]
  constructor
  · rintro ⟨-, hdecimal⟩
    rw [if_pos ⟨hnil, List.all_eq_true.mpr hdecimal⟩, Option.bind_some,
      if_neg (Nat.not_lt.mpr hshort), digitsValue_of_isDecimal hdecimal]
    rfl
  · intro hother
    rw [if_neg fun h => hother ⟨hne, List.all_eq_true.mp h.2⟩]
    rfl

end Text

namespace Predicate

/-- The predicate tests the whole number that a text stands for, and refuses a text that stands for
none with a fault about its value. -/
structure TestsWhole (p : Predicate) (test : Int → Bool) : Prop where
  number : ∀ {s n}, Text.integer? s.toList = some n → (p (.text s)).result = .ok (test n)
  other : ∀ {s}, Text.integer? s.toList = none →
    ∃ f : Fault, (p (.text s)).result = .error f ∧ f.family = .value

def wholeAtLeast (bound : Int) : Predicate := fun v =>
  match v with
  | .text s =>
    match Text.integer? s.toList with
    | some n => pure (decide (bound ≤ n))
    | none => throw (.unreadableWhole 10 (Text.quoted s))
  | v => throw (.notReal v.kind)

theorem testsWhole_wholeAtLeast (bound : Int) :
    (wholeAtLeast bound).TestsWhole fun n => decide (bound ≤ n) where
  number h := by
    simp only [wholeAtLeast, h]
    rfl
  other h := by
    simp only [wholeAtLeast, h]
    exact ⟨_, rfl, rfl⟩

end Predicate

namespace Check

variable {as : Arguments} {r q : Rule} {s : String} {v : Data}

theorem isNumerals_iff : isNumerals (.text s) ↔ Text.IsNumeral s := by
  simp [isNumerals, Text.IsNumeral, Text.isDigit_iff]

theorem run_numeric (hr : numeric as = .ok r) (hv : ¬ v.isNull) :
    ∃ x, (r.run v).result = .ok x ∧ (x.isValid ↔ isNumerals v) ∧ (isNumerals v → x = .passed) := by
  have hanswer : (unlessNull (fun v => .ok (isNumerals v)) v).result = .ok (isNumerals v) := by
    rw [unlessNull, if_neg hv]
    rfl
  exact (tests_of_plain hr).verdict hanswer

theorem result_andThen_of_passed (h : (r.run v).result = .ok .passed) :
    ((r.andThen q).run v).result = (q.run v).result := by
  rw [Rule.andThen, Traced.result_bind, h]
  rfl

theorem result_andThen_of_invalid {x : Validated Data} (h : (r.run v).result = .ok x)
    (hx : ¬ x.isValid) : ((r.andThen q).run v).result = .ok x := by
  rw [Rule.andThen, Traced.result_bind, h]
  cases x with
  | valid a => exact absurd rfl hx
  | invalid is hne => rfl

/-- The check for numerals accepts the texts of digits, decimal or not, and no other text. Of those
that it accepts, up to the length that can be read, a comparison behind the check is given the
number of the decimal ones, and fails on all others. -/
theorem numeric_accepts_digits (hr : numeric as = .ok r) :
    (∀ s : String, ∃ x, (r.run (.text s)).result = .ok x ∧ (x.isValid ↔ Text.IsNumeral s) ∧
      ((∀ c ∈ s.toList, ¬ Text.loneDigitRanges.has c) →
        (x.isValid ↔ Text.IsDecimalNumeral s))) ∧
    (∀ ns, ∃ x, (r.run (.codes ns)).result = .ok x ∧ ¬ x.isValid) ∧
    ∀ (p : Predicate) (test : Int → Bool) (q : Rule), p.TestsWhole test → q.Tests p →
      ∀ s : String, s.length ≤ Text.digitLimit →
        (Text.IsDecimalNumeral s →
          Text.integer? s.toList = some (Text.number s.toList : Int) ∧
          ∃ x, ((r.andThen q).run (.text s)).result = .ok x ∧
            (x.isValid ↔ test (Text.number s.toList))) ∧
        (Text.IsNumeral s → ¬ Text.IsDecimalNumeral s →
          Text.integer? s.toList = none ∧
          ∃ f : Fault, ((r.andThen q).run (.text s)).result = .error f ∧ f.family = .value) ∧
        (¬ Text.IsNumeral s → ∃ x, ((r.andThen q).run (.text s)).result = .ok x ∧ ¬ x.isValid) := by
  refine ⟨fun s => ?_, fun ns => ?_, fun p test q hp hq s hlength =>
    ⟨fun h => ?_, fun h hother => ?_, fun h => ?_⟩⟩
  · obtain ⟨x, hx, hvalid, -⟩ := run_numeric hr (v := .text s) Bool.false_ne_true
    rw [isNumerals_iff] at hvalid
    refine ⟨x, hx, hvalid, fun hnone => hvalid.trans (and_congr_right fun _ => ?_)⟩
    exact forall₂_congr fun c hc => or_iff_left (hnone c hc)
  · obtain ⟨x, hx, hvalid, -⟩ := run_numeric hr (v := .codes ns) Bool.false_ne_true
    exact ⟨x, hx, mt hvalid.mp Bool.false_ne_true⟩
  · have hnumeral : Text.IsNumeral s := ⟨h.1, fun c hc => .inl (h.2 c hc)⟩
    have hread := (Text.integer?_of_isNumeral hlength hnumeral).1 h
    obtain ⟨x, hx, -, hpassed⟩ := run_numeric hr (v := .text s) Bool.false_ne_true
    rw [hpassed (isNumerals_iff.mpr hnumeral)] at hx
    obtain ⟨y, hy, hvalid, -⟩ := hq.verdict (hp.number hread)
    exact ⟨hread, y, (result_andThen_of_passed hx).trans hy, hvalid⟩
  · have hread := (Text.integer?_of_isNumeral hlength h).2 hother
    obtain ⟨x, hx, -, hpassed⟩ := run_numeric hr (v := .text s) Bool.false_ne_true
    rw [hpassed (isNumerals_iff.mpr h)] at hx
    obtain ⟨f, hf, hfamily⟩ := hp.other hread
    exact ⟨hread, f, (result_andThen_of_passed hx).trans (hq.result_eq_error.mpr hf), hfamily⟩
  · obtain ⟨x, hx, hvalid, -⟩ := run_numeric hr (v := .text s) Bool.false_ne_true
    rw [isNumerals_iff] at hvalid
    exact ⟨x, result_andThen_of_invalid hx (mt hvalid.mp h), mt hvalid.mp h⟩

def sampleNumeral : String := "4²"

theorem isNumeral_sampleNumeral :
    Text.IsNumeral sampleNumeral ∧ ¬ Text.IsDecimalNumeral sampleNumeral := by
  refine ⟨isNumerals_iff.mp (by decide), fun h => ?_⟩
  exact absurd (h.2 '²' (by decide)) (by decide)

/-- On a decimal numeral of another script the comparison behind the check is made. -/
theorem numeric_accepts_sampleNumerals : ∃ r q, numeric [] = .ok r ∧
    q.Tests (Predicate.wholeAtLeast 18) ∧ Text.IsDecimalNumeral "٤٢" ∧
    (∃ x, ((r.andThen q).run (.text "٤٢")).result = .ok x ∧ x.isValid) ∧
    ∃ f : Fault, ((r.andThen q).run (.text sampleNumeral)).result = .error f ∧
      f.family = .value := by
  obtain ⟨r, hr⟩ : ∃ r, numeric [] = .ok r := ⟨_, rfl⟩
  obtain ⟨q, hq⟩ : ∃ q, Rule.make (.text "must be at least 18") (Predicate.wholeAtLeast 18) .null
    .null = .ok q := ⟨_, rfl⟩
  have htests : q.Tests (Predicate.wholeAtLeast 18) := ⟨_, _, hq⟩
  have hwhole := Predicate.testsWhole_wholeAtLeast 18
  have hdecimal : Text.IsDecimalNumeral "٤٢" := ⟨by decide, List.all_eq_true.mp (by decide)⟩
  obtain ⟨-, -, hchain⟩ := numeric_accepts_digits hr
  obtain ⟨-, x, hx, hvalid⟩ := (hchain _ _ q hwhole htests "٤٢" (by decide)).1 hdecimal
  obtain ⟨-, hfails⟩ := (hchain _ _ q hwhole htests sampleNumeral (by decide)).2.1
    isNumeral_sampleNumeral.1 isNumeral_sampleNumeral.2
  exact ⟨r, q, hr, htests, hdecimal, ⟨x, hx, hvalid.mpr (by decide)⟩, hfails⟩

/-- A digit that is not decimal passes the check, and the comparison behind the check fails. -/
theorem numeric_of_superscript : Text.isDecimal '²' = false ∧
    ∃ r q, numeric [] = .ok r ∧ q.Tests (Predicate.wholeAtLeast 18) ∧
      (r.run (.text "²")).result = .ok .passed ∧
      ((r.andThen q).run (.text "²")).result =
        .error (.unreadableWhole 10 (Text.quoted "²")) :=
  ⟨by decide, _, _, rfl, ⟨.text "must be at least 18", .null, rfl⟩, rfl, rfl⟩

end Check

end Assay
