import Assay.Proofs.Checks

/-! # Ready-made checks at work

The rule of a ready-made check passes, or reports a single issue at the empty
path. What could keep it from doing either is looked at when the rule is made,
as far as the arguments are looked at then: lengths are checked to be numbers,
but a bound of a range only if both are given, and a pattern only if it is text.
-/

namespace Assay

namespace Rule.Tests

variable {r : Rule} {p : Predicate} {v : Data} {f : Fault} {x : Validated Data}

theorem exists_issue (h : r.Tests p) :
    ∃ i : Issue, i.path = ∅ ∧ i.message.isTrue ∧ r = .ofIssue i p := by
  obtain ⟨message, code, hmake⟩ := h
  obtain ⟨hworded, rfl⟩ := make_eq_ok.mp hmake
  exact ⟨_, rfl, hworded, rfl⟩

theorem result_eq_error (h : r.Tests p) :
    (r.run v).result = .error f ↔ (p v).result = .error f := by
  obtain ⟨i, -, -, rfl⟩ := h.exists_issue
  rw [ofIssue, Traced.result_bind]
  exact Traced.except_bind_eq_error_of_ok fun b => by cases b <;> exact ⟨_, rfl⟩

/-- The rule passes when the predicate holds, and reports one issue when it does not. -/
theorem outcome (h : r.Tests p) {b : Bool} (hb : (p v).result = .ok b) :
    ∃ i : Issue, i.path = ∅ ∧ i.message.isTrue ∧
      (r.run v).result = .ok (if b then .passed else single i) := by
  obtain ⟨i, hpath, hworded, rfl⟩ := h.exists_issue
  refine ⟨i, hpath, hworded, ?_⟩
  rw [ofIssue, Traced.result_bind, hb]
  cases b <;> rfl

theorem verdict (h : r.Tests p) {b : Bool} (hb : (p v).result = .ok b) :
    ∃ x, (r.run v).result = .ok x ∧ (x.isValid ↔ b) ∧ (b → x = .passed) := by
  obtain ⟨i, -, -, hrun⟩ := h.outcome hb
  refine ⟨_, hrun, ?_⟩
  cases b with
  | true => exact ⟨iff_of_true rfl rfl, fun _ => rfl⟩
  | false => exact ⟨iff_of_false Bool.false_ne_true Bool.false_ne_true, nofun⟩

end Rule.Tests

namespace Check

variable {as : Arguments} {r : Rule} {v b : Data} {f : Fault} {min max : Option Data}

theorem unlessNull_eq_error {test : Data → Except Fault Bool} :
    (unlessNull test v).result = .error f ↔ ¬ v.isNull ∧ test v = .error f := by
  unfold unlessNull
  split
  · next h => simp [h]
  · next h => simp [h]

theorem exists_unlessNull (test : Data → Bool) (v : Data) :
    ∃ b, (unlessNull (fun v => .ok (test v)) v).result = .ok b := by
  unfold unlessNull
  split <;> exact ⟨_, rfl⟩

theorem lengthOf?_eq_error : lengthOf? v = .error f ↔
    v.length? = none ∧ (v.attribute? "__len__").isSome ∧ f = .noLength v.kind := by
  unfold lengthOf?
  cases v.length? with
  | some n => simp
  | none => cases (v.attribute? "__len__").isSome <;> simp [eq_comm]

theorem isSome_real?_of_checkLengthBound {name : String}
    (h : checkLengthBound name b = .ok ()) : b.real?.isSome := by
  obtain ⟨less, hless, -⟩ := Traced.except_bind_eq_ok.mp h
  cases b with
  | bool b => rfl
  | int n => rfl
  | float x => rfl
  | _ => cases hless

theorem real?_of_checkLengthBounds (h : checkLengthBounds min max = .ok ()) :
    (∀ a ∈ min, a.real?.isSome) ∧ ∀ b ∈ max, b.real?.isSome := by
  obtain ⟨_, hmin, h⟩ := Traced.except_bind_eq_ok.mp h
  obtain ⟨_, hmax, -⟩ := Traced.except_bind_eq_ok.mp h
  constructor
  · rintro a rfl
    exact isSome_real?_of_checkLengthBound hmin
  · rintro b rfl
    exact isSome_real?_of_checkLengthBound hmax

theorem exists_compare (h : b.real?.isSome) (n : Int) :
    ∃ less, (Data.int n).compare .less b = .ok less := by
  cases b with
  | bool b => exact ⟨_, rfl⟩
  | int m => exact ⟨_, rfl⟩
  | float x => exact ⟨_, rfl⟩
  | _ => cases h

theorem exists_atMost (h : b.real?.isSome) (n : Extent) : ∃ within, atMost n b = .ok within := by
  obtain ⟨x, hx⟩ := Option.isSome_iff_exists.mp h
  exact ⟨n.le x, by rw [atMost, hx]⟩

theorem exists_unless {short rest : Except Fault Bool} (hshort : ∃ b, short = .ok b)
    (hrest : ∃ b, rest = .ok b) :
    ∃ b, (do if ← short then pure false else rest) = .ok b := by
  obtain ⟨b, rfl⟩ := hshort
  cases b with
  | true => exact ⟨false, rfl⟩
  | false => exact hrest

theorem hasLengthWithin_eq_error (h : checkLengthBounds min max = .ok ()) :
    hasLengthWithin min max v = .error f ↔ lengthOf? v = .error f := by
  obtain ⟨hmin, hmax⟩ := real?_of_checkLengthBounds h
  refine Traced.except_bind_eq_error_of_ok fun size => ?_
  cases size with
  | none => exact ⟨false, rfl⟩
  | some n =>
    cases max with
    | none =>
      cases min with
      | none => exact ⟨true, rfl⟩
      | some a => exact exists_unless (exists_compare (hmin a rfl) n) ⟨true, rfl⟩
    | some b =>
      have hhigh := exists_atMost (hmax b rfl) (.ofInt n)
      cases min with
      | none => exact hhigh
      | some a => exact exists_unless (exists_compare (hmin a rfl) n) hhigh

/-- The value is a number that ranges are asked about. -/
def IsRanged : Data → Prop
  | .float x => ¬ x.isNaN
  | .int _ | .complex _ _ => True
  | _ => False

theorem not_isNull_of_isRanged (h : IsRanged v) : ¬ v.isNull := by
  cases v with
  | null => cases h
  | _ => exact Bool.false_ne_true

theorem isNumberWithin_eq_error :
    isNumberWithin min max v = .error f ↔ IsRanged v ∧ isWithin min max v = .error f := by
  cases v with
  | float x => cases h : x.isNaN <;> simp [isNumberWithin, IsRanged, h]
  | _ => simp [isNumberWithin, IsRanged]

/-- Converting the value fails, or else converting the bound does. -/
def Unconverted (v b : Data) (f : Fault) : Prop :=
  v.toBinary64 = .error f ∨ (∃ x, v.toBinary64 = .ok x) ∧ b.toBinary64 = .error f

theorem unconverted_of_ok {y : Binary64} (h : b.toBinary64 = .ok y) :
    Unconverted v b f ↔ v.toBinary64 = .error f := by
  simp [Unconverted, h]

theorem convert_eq_error {g : Binary64 → Binary64 → Bool} :
    (do let x ← v.toBinary64; let y ← b.toBinary64; pure (g x y)) = .error f ↔
      Unconverted v b f := by
  unfold Unconverted
  cases v.toBinary64 with
  | error e => simp [bind, Except.bind]
  | ok x =>
    simp only [reduceCtorEq, false_or, Except.ok.injEq, exists_eq', true_and]
    exact Traced.except_bind_eq_error_of_ok fun y => ⟨g x y, rfl⟩

theorem isWithin_low (a v : Data) : isWithin (some a) none v = (do
    let x ← v.toBinary64
    let y ← a.toBinary64
    pure (!x.lt y)) := by
  simp only [isWithin]
  refine bind_congr fun x => bind_congr fun y => ?_
  cases x.lt y <;> rfl

theorem isWithin_high (b v : Data) : isWithin none (some b) v = (do
    let x ← v.toBinary64
    let y ← b.toBinary64
    pure (x.le y)) := rfl

theorem isWithin_both {a : Data} {y z : Binary64} (ha : a.toBinary64 = .ok y)
    (hb : b.toBinary64 = .ok z) (v : Data) : isWithin (some a) (some b) v = (do
    let x ← v.toBinary64
    pure (!x.lt y && x.le z)) := by
  simp only [isWithin, ha, hb]
  cases v.toBinary64 with
  | error e => rfl
  | ok x => cases hlt : x.lt y <;> simp [hlt, pure, Except.pure, bind, Except.bind]

theorem converted_of_checkRangeBounds {a : Data}
    (h : checkRangeBounds (some a) (some b) = .ok ()) :
    (∃ x, a.toBinary64 = .ok x) ∧ ∃ y, b.toBinary64 = .ok y := by
  obtain ⟨x, hx, h⟩ := Traced.except_bind_eq_ok.mp h
  obtain ⟨y, hy, -⟩ := Traced.except_bind_eq_ok.mp h
  exact ⟨⟨x, hx⟩, y, hy⟩

theorem isWithin_eq_error (h : checkRangeBounds min max = .ok ()) :
    isWithin min max v = .error f ↔ ∃ b, (min = some b ∨ max = some b) ∧ Unconverted v b f := by
  cases min with
  | none =>
    cases max with
    | none =>
      have hpass : isWithin none none v = .ok true := rfl
      simp [hpass]
    | some b =>
      rw [isWithin_high, convert_eq_error]
      simp
  | some a =>
    cases max with
    | none =>
      rw [isWithin_low, convert_eq_error]
      simp
    | some b =>
      obtain ⟨⟨y, ha⟩, z, hb⟩ := converted_of_checkRangeBounds h
      rw [isWithin_both ha hb]
      refine (Traced.except_bind_eq_error_of_ok fun x => ⟨_, rfl⟩).trans ?_
      simp [or_and_right, exists_or, unconverted_of_ok ha, unconverted_of_ok hb]

section

variable [Pattern.Edition]

theorem matchesStart_eq_error {p : Pattern.Program} {text : List Nat} :
    Matcher.matchesStart p text = .error f ↔ p.search text = .crossed ∧ f = .captureCrossed := by
  unfold Matcher.matchesStart
  split <;> simp [*, eq_comm]

/-- What is no pattern is asked for a way to match, on every text. -/
def asked (w v : Data) : Run Data := do
  let g ← w.readAttribute "match"
  g.call v

/-- Why a pattern cannot tell whether a text matches. -/
inductive Unmatched (v : Data) : Matcher → Fault → Prop
  | crossed {p : Pattern.Program} {text : List Nat} : v.codes? = some text →
    p.search text = .crossed → Unmatched v (.program p) .captureCrossed
  | other {w : Data} {text : List Nat} {f : Fault} : v.codes? = some text →
    (asked w v).result = .error f → Unmatched v (.other w) f

theorem accepts_eq_error {m : Matcher} : (m.accepts v).result = .error f ↔ Unmatched v m f := by
  unfold Matcher.accepts
  split
  · next hnull =>
    have hcodes : v.codes? = none := by
      cases v with
      | null => rfl
      | _ => cases hnull
    refine iff_of_false nofun fun h => ?_
    cases h <;> simp_all
  · split
    · next text p hcodes =>
      refine matchesStart_eq_error.trans ⟨?_, ?_⟩
      · rintro ⟨hcrossed, rfl⟩
        exact .crossed hcodes hcrossed
      · rintro ⟨hcodes', hcrossed⟩
        cases hcodes.symm.trans hcodes'
        exact ⟨hcrossed, rfl⟩
    · next text w hcodes =>
      have hasked : (do
          let g ← w.readAttribute "match"
          let answer ← g.call v
          pure !answer.isNull : Run Bool) = (do pure !(← asked w v).isNull) := by
        simp only [asked, bind_assoc]
      rw [hasked, Traced.result_bind]
      refine (Traced.except_bind_eq_error_of_ok fun a => ⟨_, rfl⟩).trans ⟨.other hcodes, ?_⟩
      rintro (_ | ⟨-, h⟩)
      exact h
    · next hcodes =>
      refine iff_of_false nofun fun h => ?_
      cases h <;> simp_all

/-- What interrupts the rule of the check `name` on a value: something claims to have a length and
has none, the value or a bound cannot be converted to a double, or a pattern cannot tell whether a
text matches. -/
inductive Interrupts (as : Arguments) (v : Data) (name : String) : Fault → Prop
  | length : name = "not_empty" ∨ name = "length" → ¬ v.isNull → v.length? = none →
    (v.attribute? "__len__").isSome → Interrupts as v name (.noLength v.kind)
  | range {b : Data} {f : Fault} : name = "value_range" → IsRanged v →
    (boundsOf as).1 = some b ∨ (boundsOf as).2 = some b → Unconverted v b f →
    Interrupts as v name f
  | pattern {w : Data} {m : Matcher} {f : Fault} : name = "matches" →
    as.get? "pattern" = some w → Matcher.ofData w = .ok m → Unmatched v m f →
    Interrupts as v name f

theorem not_interrupts {name : String}
    (h : name ∉ ["not_empty", "length", "value_range", "matches"]) : ¬ Interrupts as v name f := by
  intro hf
  cases hf with
  | length hname => rcases hname with rfl | rfl <;> simp at h
  | range hname => simp [hname] at h
  | pattern hname => simp [hname] at h

theorem interrupts_length_iff {name : String} (h : name = "not_empty" ∨ name = "length") :
    Interrupts as v name f ↔ ¬ v.isNull ∧ lengthOf? v = .error f := by
  rw [lengthOf?_eq_error]
  constructor
  · intro hf
    cases hf with
    | length _ hnull hlength hoffered => exact ⟨hnull, hlength, hoffered, rfl⟩
    | range hname => simp [hname] at h
    | pattern hname => simp [hname] at h
  · rintro ⟨hnull, hlength, hoffered, rfl⟩
    exact .length h hnull hlength hoffered

theorem interrupts_range_iff : Interrupts as v "value_range" f ↔ IsRanged v ∧
    ∃ b, ((boundsOf as).1 = some b ∨ (boundsOf as).2 = some b) ∧ Unconverted v b f := by
  constructor
  · intro hf
    cases hf with
    | length hname => simp at hname
    | range _ hv hb hconvert => exact ⟨hv, _, hb, hconvert⟩
    | pattern hname => simp at hname
  · rintro ⟨hv, b, hb, hconvert⟩
    exact .range rfl hv hb hconvert

theorem interrupts_pattern_iff {w : Data} {m : Matcher} (hw : as.get? "pattern" = some w)
    (hm : Matcher.ofData w = .ok m) : Interrupts as v "matches" f ↔ Unmatched v m f := by
  constructor
  · intro hf
    cases hf with
    | length hname => simp at hname
    | range hname => simp at hname
    | pattern _ hw' hm' h =>
      cases hw.symm.trans hw'
      cases hm.symm.trans hm'
      exact h
  · exact .pattern rfl hw hm

/-- A predicate that asks only what it knows is never interrupted. -/
theorem never_interrupted {name : String} {p : Predicate}
    (h : name ∉ ["not_empty", "length", "value_range", "matches"])
    (hp : ∀ v, ∃ b, (p v).result = .ok b) (v : Data) (f : Fault) :
    (p v).result = .error f ↔ Interrupts as v name f := by
  obtain ⟨b, hb⟩ := hp v
  exact iff_of_false (fun hf => nomatch hb.symm.trans hf) (not_interrupts h)

/-- The predicate of a ready-made check fails exactly by what interrupts it. -/
theorem exists_tests {name : String} {c : Check} (hc : (name, c) ∈ functions)
    (hr : c as = .ok r) :
    ∃ p, r.Tests p ∧ ∀ v f, (p v).result = .error f ↔ Interrupts as v name f := by
  simp only [functions, List.mem_cons, List.not_mem_nil, or_false, Prod.mk.injEq] at hc
  rcases hc with ⟨rfl, rfl⟩ | ⟨rfl, rfl⟩ | ⟨rfl, rfl⟩ | ⟨rfl, rfl⟩ | ⟨rfl, rfl⟩ | ⟨rfl, rfl⟩ |
    ⟨rfl, rfl⟩ | ⟨rfl, rfl⟩
  · exact ⟨_, tests_of_plain hr, never_interrupted (by simp) fun v => ⟨_, rfl⟩⟩
  · exact ⟨_, tests_of_plain hr, never_interrupted (by simp) (exists_unlessNull isVisible)⟩
  · refine ⟨_, tests_of_plain hr, fun v f => ?_⟩
    rw [unlessNull_eq_error, interrupts_length_iff (.inl rfl)]
    exact and_congr_right fun _ => Traced.except_bind_eq_error_of_ok fun n => ⟨_, rfl⟩
  · obtain ⟨hbounds, hp⟩ := tests_of_length hr
    refine ⟨_, hp, fun v f => ?_⟩
    rw [unlessNull_eq_error, interrupts_length_iff (.inr rfl), hasLengthWithin_eq_error hbounds]
  · obtain ⟨hbounds, hp⟩ := tests_of_range hr
    refine ⟨_, hp, fun v f => ?_⟩
    rw [unlessNull_eq_error, interrupts_range_iff, isNumberWithin_eq_error,
      isWithin_eq_error hbounds, and_iff_right_of_imp fun h => not_isNull_of_isRanged h.1]
  · obtain ⟨w, m, hw, hm, hp⟩ := tests_of_pattern hr
    exact ⟨_, hp, fun v f => accepts_eq_error.trans (interrupts_pattern_iff hw hm).symm⟩
  · obtain ⟨sensitive, choices, hp⟩ := tests_of_oneOf hr
    exact ⟨_, hp, never_interrupted (by simp) (exists_unlessNull _)⟩
  · exact ⟨_, tests_of_plain hr, never_interrupted (by simp) (exists_unlessNull isNumerals)⟩

/-- The rule of a ready-made check passes or reports a single issue at the empty path, on every
value, unless one of three things interrupts it, and then it fails by that. -/
theorem interrupted_iff {name : String} {c : Check} (hc : (name, c) ∈ functions)
    (hr : c as = .ok r) (v : Data) :
    (∀ f, (r.run v).result = .error f ↔ Interrupts as v name f) ∧
    ∀ x, (r.run v).result = .ok x →
      x = .passed ∨ ∃ i : Issue, x = Rule.single i ∧ i.path = ∅ ∧ i.message.isTrue := by
  obtain ⟨p, hp, hinterrupts⟩ := exists_tests hc hr
  refine ⟨fun f => hp.result_eq_error.trans (hinterrupts v f), fun x hx => ?_⟩
  cases hb : (p v).result with
  | error f => cases hx.symm.trans (hp.result_eq_error.mpr hb)
  | ok b =>
    obtain ⟨i, hpath, hworded, hrun⟩ := hp.outcome hb
    cases hx.symm.trans hrun
    cases b with
    | true => exact .inl rfl
    | false => exact .inr ⟨i, rfl, hpath, hworded⟩

end

def sampleOffer : Data := .object [("__len__", .int 3)]

theorem notEmpty_interrupted : ∃ r, notEmpty [] = .ok r ∧
    (r.run sampleOffer).result = .error (.noLength sampleOffer.kind) ∧
    ∀ x, (r.run (.list [])).result = .ok x →
      x = .passed ∨ ∃ i : Issue, x = Rule.single i ∧ i.path = ∅ ∧ i.message.isTrue := by
  have hmem : ("not_empty", notEmpty) ∈ functions := by simp [functions]
  obtain ⟨r, hr⟩ : ∃ r, notEmpty [] = .ok r := ⟨_, rfl⟩
  have hinterrupts : Interrupts [] sampleOffer "not_empty" (.noLength sampleOffer.kind) :=
    .length (.inl rfl) Bool.false_ne_true rfl rfl
  exact ⟨r, hr, ((interrupted_iff hmem hr sampleOffer).1 _).mpr hinterrupts,
    (interrupted_iff hmem hr (.list [])).2⟩

/-- A single bound that is no number is found out only when a number comes; with another bound it is
refused. -/
theorem range_interrupted_by_bound :
    (∃ r, range [("min", .text "a")] = .ok r ∧
      (r.run (.int 5)).result = .error (.unreadableNumber (Text.quoted "a"))) ∧
    range [("min", .text "a"), ("max", .int 3)] =
      .error (.unreadableNumber (Text.quoted "a")) :=
  ⟨⟨_, rfl, rfl⟩, rfl⟩

end Check

end Assay
