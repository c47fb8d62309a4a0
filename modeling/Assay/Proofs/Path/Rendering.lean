import Assay.Proofs.Path.Grammar
import Assay.Proofs.Spelling

/-! # Rendering of paths

A path of names and of positions that can be written is rendered with one lexeme
for each segment. Reading its text gives the path back exactly when no name in
it is empty or holds a dot or a bracket, and every path that is read is such.
-/

namespace Assay

open Path.Notation

variable {s t : Segment} {p q : Path}

theorem tenTo_eq_pow (n : Nat) : tenTo n = 10 ^ n := rfl

theorem Data.spell_position {i : Nat} (h : i < 10 ^ Text.digitLimit) :
    (Data.int i).spell = .ok (.ofList (Nat.toDigits 10 i)) := by
  have hspellable : (Data.int i).isSpellable := by
    rw [isSpellable, Int.natAbs_natCast, firstTooLong, tenTo_eq_pow, decide_eq_true_eq]
    exact h
  rw [spell, if_pos hspellable]
  rfl

namespace Segment

/-- A name that is text, or a position that is short enough to be written. -/
def IsProper : Segment → Prop
  | name (.text _) => True
  | index i => i < 10 ^ Text.digitLimit
  | _ => False

/-- A name is not empty and holds neither dots nor brackets. -/
def IsClean : Segment → Prop
  | name (.text n) => n ≠ "" ∧ ∀ c ∈ n.toList, c ≠ '.' ∧ c ≠ '[' ∧ c ≠ ']'
  | _ => True

theorem isProper_iff : s.IsProper ↔
    (∃ n, s = name (.text n)) ∨ ∃ i, s = index i ∧ i < 10 ^ Text.digitLimit := by
  constructor
  · intro h
    unfold IsProper at h
    split at h
    · exact .inl ⟨_, rfl⟩
    · exact .inr ⟨_, rfl, h⟩
    · exact h.elim
  · rintro (⟨n, rfl⟩ | ⟨i, rfl, h⟩)
    · trivial
    · exact h

theorem eq_iff (hs : s.IsProper) (ht : t.IsProper) : s.eq t ↔ s = t := by
  rcases isProper_iff.mp hs with ⟨m, rfl⟩ | ⟨i, rfl, -⟩ <;>
    rcases isProper_iff.mp ht with ⟨n, rfl⟩ | ⟨j, rfl, -⟩ <;>
    simp [eq, Data.eq]

end Segment

namespace Path

def IsProper (p : Path) : Prop := ∀ s ∈ p.segments, s.IsProper

def IsClean (p : Path) : Prop := ∀ s ∈ p.segments, s.IsClean

theorem eqSegments_iff {ss ts : List Segment} (hs : ∀ s ∈ ss, s.IsProper)
    (ht : ∀ t ∈ ts, t.IsProper) : eqSegments ss ts ↔ ss = ts := by
  induction ss generalizing ts with
  | nil => cases ts <;> simp [eqSegments]
  | cons s ss ih =>
    cases ts with
    | nil => simp [eqSegments]
    | cons t ts =>
      obtain ⟨hs, hss⟩ := List.forall_mem_cons.mp hs
      obtain ⟨ht, hts⟩ := List.forall_mem_cons.mp ht
      simp [eqSegments, Segment.eq_iff hs ht, ih hss hts]

theorem eq_iff (hp : p.IsProper) (hq : q.IsProper) : p.eq q ↔ p = q := by
  rw [eq, eqSegments_iff hp hq]
  exact ⟨fun h => congrArg Path.mk h, congrArg Path.segments⟩

end Path

namespace Segment

def lexeme : Segment → Lexeme
  | name (.text n) => .name n.toList
  | index i => .index (Nat.toDigits 10 i)
  | _ => .name []

/-- The lexeme spells the text of the segment, after a dot where it needs one. -/
theorem spelling_lexeme (h : s.IsProper) : ∃ cs : List Char, s.codes = .ok (cs.map Char.toNat) ∧
    ∀ started rest, spelling started (s.lexeme :: rest) =
      (if started && s.isName then ['.'] else []) ++ cs ++ spelling true rest := by
  rcases isProper_iff.mp h with ⟨n, rfl⟩ | ⟨i, rfl, hi⟩
  · refine ⟨n.toList, rfl, fun started rest => ?_⟩
    rw [isName, Bool.and_true]
    rfl
  · refine ⟨'[' :: Nat.toDigits 10 i ++ [']'], ?_, fun started rest => ?_⟩
    · rw [codes, Data.spell_position hi]
      simp [bracketed, pure, Except.pure, bind, Except.bind]
    · simp [lexeme, spelling, isName]

theorem segment_lexeme (h : s.IsProper) : s.lexeme.segment = s := by
  rcases isProper_iff.mp h with ⟨n, rfl⟩ | ⟨i, rfl, -⟩
  · rw [lexeme, Lexeme.segment, String.ofList_toList]
  · rw [lexeme, Lexeme.segment, Text.number_toDigits]

theorem isWellFormed_lexeme (h : s.IsProper) (hc : s.IsClean) : s.lexeme.IsWellFormed := by
  rcases isProper_iff.mp h with ⟨n, rfl⟩ | ⟨i, rfl, hi⟩
  · obtain ⟨hne, hn⟩ := hc
    exact ⟨by simpa using hne, hn⟩
  · refine ⟨Nat.toDigits_ne_nil, fun d hd => ?_, ?_⟩
    · exact Text.isDecimal_of_isDigit (Text.isDigit_of_mem_toDigits hd)
    · exact (Nat.length_toDigits_le_iff (by decide) (by decide)).mpr hi

end Segment

namespace Path.Notation.Lexeme

variable {l : Lexeme}

theorem isProper_segment (h : l.IsWellFormed) : l.segment.IsProper := by
  cases l with
  | name cs => trivial
  | index ds =>
    calc Text.number ds < 10 ^ ds.length := Text.number_lt ds
      _ ≤ 10 ^ Text.digitLimit := Nat.pow_le_pow_right (by decide) h.2.2

theorem isClean_segment (h : l.IsWellFormed) : l.segment.IsClean := by
  cases l with
  | name cs => exact ⟨by simpa using h.1, by simpa using h.2⟩
  | index ds => trivial

end Path.Notation.Lexeme

namespace Path

theorem tailCodes_eq {ss : List Segment} (h : ∀ s ∈ ss, s.IsProper) :
    tailCodes ss = .ok ((spelling true (ss.map Segment.lexeme)).map Char.toNat) := by
  induction ss with
  | nil => rfl
  | cons s ss ih =>
    obtain ⟨hs, hss⟩ := List.forall_mem_cons.mp h
    obtain ⟨cs, hcs, hspelling⟩ := s.spelling_lexeme hs
    rw [tailCodes, hcs, ih hss]
    refine congrArg Except.ok ?_
    rw [List.map_cons, hspelling]
    cases s.isName <;> simp

theorem codes_eq (h : p.IsProper) :
    p.codes = .ok ((spelling false (p.segments.map Segment.lexeme)).map Char.toNat) := by
  unfold codes
  split
  · next hp => rw [hp]; rfl
  · next s ss hp =>
    unfold IsProper at h
    rw [hp, List.forall_mem_cons] at h
    obtain ⟨cs, hcs, hspelling⟩ := s.spelling_lexeme h.1
    rw [hp, hcs, tailCodes_eq h.2]
    refine congrArg Except.ok ?_
    rw [List.map_cons, hspelling]
    simp

theorem text_eq (h : p.IsProper) :
    p.text = .ok (.ofList (spelling false (p.segments.map Segment.lexeme))) := by
  rw [text, codes_eq h]
  exact congrArg Except.ok (Text.ofCodes_toNat _)

/-- A path without names that are empty or hold dots or brackets is read from its text. -/
theorem codes_ofText (h : p.IsProper) (hc : p.IsClean) :
    ∃ s : String, p.codes = .ok (s.toList.map Char.toNat) ∧ ofText s = .ok p := by
  have hspells : Spells (.ofList (spelling false (p.segments.map Segment.lexeme)))
      (p.segments.map Segment.lexeme) := by
    refine ⟨?_, String.toList_ofList.symm⟩
    intro l hl
    obtain ⟨s, hs, rfl⟩ := List.mem_map.mp hl
    exact Segment.isWellFormed_lexeme (h s hs) (hc s hs)
  have hsegments : (p.segments.map Segment.lexeme).map Lexeme.segment = p.segments := by
    rw [List.map_map, List.map_congr_left fun s hs => s.segment_lexeme (h s hs), List.map_id']
  refine ⟨_, by rw [codes_eq h, String.toList_ofList], ?_⟩
  rw [hspells.ofText_eq, hsegments]

theorem ofText_text (h : p.IsProper) (hc : p.IsClean) :
    ∃ s, p.text = .ok s ∧ ofText s = .ok p := by
  obtain ⟨s, hs, hread⟩ := codes_ofText h hc
  refine ⟨s, ?_, hread⟩
  rw [text, hs]
  exact congrArg Except.ok ((Text.ofCodes_toNat _).trans String.ofList_toList)

/-- A path that has been read can be rendered, and its names are neither empty nor hold dots or
brackets. -/
theorem isProper_and_isClean_of_ofText {t : String} (h : ofText t = .ok p) :
    p.IsProper ∧ p.IsClean := by
  obtain ⟨ls, hls, rfl⟩ := spells_of_ofText h
  refine ⟨fun s hs => ?_, fun s hs => ?_⟩ <;> obtain ⟨l, hl, rfl⟩ := List.mem_map.mp hs
  · exact Lexeme.isProper_segment (hls.wellFormed l hl)
  · exact Lexeme.isClean_segment (hls.wellFormed l hl)

theorem ofText_text_eq_iff (h : p.IsProper) :
    ∃ s, p.text = .ok s ∧ ((∃ q, ofText s = .ok q ∧ q.eq p) ↔ p.IsClean) := by
  refine ⟨_, text_eq h, ?_, fun hc => ?_⟩
  · rintro ⟨q, hq, heq⟩
    obtain ⟨hproper, hclean⟩ := isProper_and_isClean_of_ofText hq
    exact (eq_iff hproper h).mp heq ▸ hclean
  · obtain ⟨s, hs, hread⟩ := ofText_text h hc
    obtain rfl := Except.ok.inj ((text_eq h).symm.trans hs)
    exact ⟨p, hread, (eq_iff h h).mpr rfl⟩

theorem text_injective (hp : p.IsProper) (hq : q.IsProper) (hcp : p.IsClean) (hcq : q.IsClean)
    (h : p.text = q.text) : p = q := by
  obtain ⟨s, hs, hread⟩ := ofText_text hp hcp
  obtain ⟨t, ht, hread'⟩ := ofText_text hq hcq
  obtain rfl : s = t := Except.ok.inj (hs.symm.trans (h.trans ht))
  exact Except.ok.inj (hread.symm.trans hread')

/-- A path whose names are texts and whose positions can be written is read back from its text
exactly when no name in it is empty or holds a dot or a bracket. So such paths with different
segments have different texts, and what has been read from a text is read from its own text
again. -/
theorem text_roundtrip :
    (∀ p : Path, p.IsProper →
      ∃ s, p.text = .ok s ∧ ((∃ q, ofText s = .ok q ∧ q.eq p) ↔ p.IsClean)) ∧
    (∀ p q : Path, p.IsProper → q.IsProper → p.IsClean → q.IsClean → p.text = q.text → p.eq q) ∧
    (∀ t p, ofText t = .ok p →
      ∃ s, p.text = .ok s ∧ ∃ q, ofText s = .ok q ∧ q.eq p) := by
  refine ⟨fun p h => ofText_text_eq_iff h, fun p q hp hq hcp hcq h => ?_, fun t p ht => ?_⟩
  · exact (eq_iff hp hq).mpr (text_injective hp hq hcp hcq h)
  · obtain ⟨hp, hcp⟩ := isProper_and_isClean_of_ofText ht
    obtain ⟨s, hs, hread⟩ := ofText_text hp hcp
    exact ⟨s, hs, p, hread, (eq_iff hp hp).mpr rfl⟩

/-- A position at the start, two in a row, and a name of digits behind a break of line. -/
def samplePath : Path := ⟨[.index 0, .index 12, .name (.text "\n7")]⟩

def sampleDotted : Path := ⟨[.name (.text "a.b")]⟩

theorem isProper_of_small
    (h : ∀ s ∈ p.segments, (∃ n, s = .name (.text n)) ∨ ∃ i, s = .index i ∧ i < 10 ^ 2) :
    p.IsProper := by
  intro s hs
  refine Segment.isProper_iff.mpr ((h s hs).imp_right ?_)
  rintro ⟨i, rfl, hi⟩
  exact ⟨i, rfl, Nat.lt_of_lt_of_le hi (Nat.pow_le_pow_right (by decide) (by decide))⟩

theorem isProper_samplePath : samplePath.IsProper := isProper_of_small (by simp [samplePath])

theorem isProper_sampleDotted : sampleDotted.IsProper := isProper_of_small (by simp [sampleDotted])

theorem text_roundtrip_samplePath :
    (∃ s, samplePath.text = .ok s ∧ ∃ q, ofText s = .ok q ∧ q.eq samplePath) ∧
      (∃ s, sampleDotted.text = .ok s ∧ ¬ ∃ q, ofText s = .ok q ∧ q.eq sampleDotted) ∧
      samplePath.text ≠ (∅ : Path).text ∧
      ∃ s, Path.text ⟨[.name (.text "a"), .index 3]⟩ = .ok s ∧
        ∃ q, ofText s = .ok q ∧ q.eq ⟨[.name (.text "a"), .index 3]⟩ := by
  obtain ⟨hback, hinjective, hagain⟩ := text_roundtrip
  have hclean : samplePath.IsClean := by simp [samplePath, IsClean, Segment.IsClean]
  have hempty : (∅ : Path).IsProper ∧ (∅ : Path).IsClean := ⟨nofun, nofun⟩
  have hspells : Spells "a[٣]" [.name ['a'], .index ['٣']] := ⟨by decide, by decide⟩
  refine ⟨?_, ?_, fun h => ?_, hagain "a[٣]" _ hspells.ofText_eq⟩
  · obtain ⟨s, hs, hiff⟩ := hback samplePath isProper_samplePath
    exact ⟨s, hs, hiff.mpr hclean⟩
  · obtain ⟨s, hs, hiff⟩ := hback sampleDotted isProper_sampleDotted
    refine ⟨s, hs, fun hread => ?_⟩
    have hdotted : sampleDotted.IsClean := hiff.mp hread
    simp [sampleDotted, IsClean, Segment.IsClean] at hdotted
  · have heq := hinjective _ _ isProper_samplePath hempty.1 hclean hempty.2 h
    cases heq

end Path

end Assay
