import Mathlib.Data.List.TakeWhile
import Assay.Path.Notation
import Assay.Proofs.Digits
import Assay.Proofs.Run

/-! # The grammar of paths

A path is written with lexemes, each of which is a name or a position. Reading a
text finds the lexemes that it is written with, of which there is at most one
list, and refuses a text that is not written with any.
-/

namespace Assay.Path.Notation

/-- A segment as it is written: the characters of a name, or the digits of a position. -/
inductive Lexeme
  | name (label : List Char)
  | index (digits : List Char)

namespace Lexeme

/-- Neither kind is empty. Names hold no dots and no brackets; positions are decimal digits of any
script, and not too many of them. -/
def IsWellFormed : Lexeme → Prop
  | name cs => cs ≠ [] ∧ ∀ c ∈ cs, c ≠ '.' ∧ c ≠ '[' ∧ c ≠ ']'
  | index ds => ds ≠ [] ∧ (∀ d ∈ ds, Text.isDecimal d) ∧ ds.length ≤ Text.digitLimit

def segment : Lexeme → Segment
  | name cs => .name (.text (.ofList cs))
  | index ds => .index (Text.number ds)

end Lexeme

/-- The characters of the lexemes, of which a name has a dot before it unless it is the first of
all; `started` when others stand before them. -/
def spelling (started : Bool) : List Lexeme → List Char
  | [] => []
  | .name cs :: rest => (if started then ['.'] else []) ++ cs ++ spelling true rest
  | .index ds :: rest => '[' :: ds ++ ']' :: spelling true rest

variable {p : Char → Bool} {cs ds rest rest' : List Char}

theorem isNameChar_iff {c : Char} : isNameChar c ↔ c ≠ '.' ∧ c ≠ '[' ∧ c ≠ ']' := by
  simp [isNameChar, and_assoc]

/-- The characters do not go on with one of the class. -/
def Stops (p : Char → Bool) (cs : List Char) : Prop := ∀ c ∈ cs.head?, p c = false

theorem takeWhile_append_of_stops (h : ∀ c ∈ cs, p c) (hrest : Stops p rest) :
    (cs ++ rest).takeWhile p = cs := by
  rw [List.takeWhile_append_of_pos h]
  cases rest with
  | nil => exact List.append_nil cs
  | cons c rest => rw [List.takeWhile_cons_of_neg (by simp [hrest c rfl]), List.append_nil]

theorem dropWhile_append_of_stops (h : ∀ c ∈ cs, p c) (hrest : Stops p rest) :
    (cs ++ rest).dropWhile p = rest := by
  rw [List.dropWhile_append_of_pos h]
  cases rest with
  | nil => rfl
  | cons c rest => exact List.dropWhile_cons_of_neg (by simp [hrest c rfl])

theorem append_inj_of_stops (h : cs ++ rest = ds ++ rest') (hcs : ∀ c ∈ cs, p c)
    (hds : ∀ c ∈ ds, p c) (hrest : Stops p rest) (hrest' : Stops p rest') :
    cs = ds ∧ rest = rest' := by
  obtain rfl : cs = ds := by
    rw [← takeWhile_append_of_stops hcs hrest, h, takeWhile_append_of_stops hds hrest']
  exact ⟨rfl, List.append_cancel_left h⟩

theorem stops_isDecimal (cs : List Char) : Stops Text.isDecimal (']' :: cs) := by
  intro c hc
  obtain rfl := Option.some.inj hc
  decide

theorem stops_isNameChar (ls : List Lexeme) : Stops isNameChar (spelling true ls) := by
  intro c hc
  cases ls with
  | nil => cases hc
  | cons l rest => cases l <;> (obtain rfl := Option.some.inj hc; decide)

theorem nameToken_append (hne : cs ≠ []) (h : ∀ c ∈ cs, isNameChar c)
    (hrest : Stops isNameChar rest) :
    ∃ shorter, nameToken (cs ++ rest) = .name (.ofList cs) rest shorter := by
  cases cs with
  | nil => exact absurd rfl hne
  | cons c cs =>
    obtain ⟨hc, hcs⟩ := List.forall_mem_cons.mp h
    refine ⟨by rw [List.length_append, List.length_cons]; omega, ?_⟩
    simp only [List.cons_append, nameToken, if_pos hc, takeWhile_append_of_stops hcs hrest,
      dropWhile_append_of_stops hcs hrest]

theorem indexToken_append (hne : ds ≠ []) (h : ∀ d ∈ ds, Text.isDecimal d) :
    ∃ shorter, indexToken (ds ++ ']' :: rest) = .index ds rest shorter := by
  have htake := takeWhile_append_of_stops h (stops_isDecimal rest)
  have hdrop := dropWhile_append_of_stops h (stops_isDecimal rest)
  refine ⟨by simp only [List.length_cons, List.length_append]; omega, ?_⟩
  unfold indexToken
  split
  · next rest' heq =>
    obtain rfl : rest = rest' := (List.cons.inj (hdrop.symm.trans heq)).2
    simp [htake, hne]
  · next hno => exact absurd hdrop (hno rest)

theorem token_of_ne_bracket {c : Char} (h : c ≠ '[') : token (c :: cs) = nameToken (c :: cs) :=
  token.eq_2 _ fun _ heq => h (List.cons.inj heq).1

theorem position_of_isDecimal (h : ∀ d ∈ ds, Text.isDecimal d)
    (hlength : ds.length ≤ Text.digitLimit) : position ds = .ok (Text.number ds) := by
  rw [position, if_neg (Nat.not_lt.mpr hlength), Text.digitsValue_of_isDecimal h,
    Option.getD_some]

variable {bad : Fault} {started : Bool}

theorem read_name (hne : cs ≠ []) (h : ∀ c ∈ cs, isNameChar c) (hrest : Stops isNameChar rest) :
    read bad started ((if started then ['.'] else []) ++ cs ++ rest) = (do
      pure (.name (.text (.ofList cs)) :: (← read bad true rest))) := by
  obtain ⟨shorter, htoken⟩ := nameToken_append hne h hrest
  cases started with
  | true =>
    change read bad true ('.' :: (cs ++ rest)) = _
    rw [read]
    simp only [Bool.true_and, beq_self_eq_true, if_true, htoken]
  | false =>
    cases cs with
    | nil => exact absurd rfl hne
    | cons c cs =>
      have hc := isNameChar_iff.mp (h c List.mem_cons_self)
      have hfirst : token (c :: (cs ++ rest)) = .name (.ofList (c :: cs)) rest shorter :=
        (token_of_ne_bracket hc.2.1).trans htoken
      change read bad false (c :: (cs ++ rest)) = _
      rw [read]
      simp only [Bool.false_and, Bool.false_eq_true, if_false, hfirst]

theorem read_index (hne : ds ≠ []) (h : ∀ d ∈ ds, Text.isDecimal d) :
    read bad started ('[' :: ds ++ ']' :: rest) = (do
      let i ← position ds
      pure (.index i :: (← read bad true rest))) := by
  obtain ⟨shorter, htoken⟩ : ∃ shorter, indexToken (ds ++ ']' :: rest) = .index ds rest shorter :=
    indexToken_append hne h
  rw [List.cons_append, read]
  simp only [token, htoken, beq_eq_false_iff_ne.mpr (show '[' ≠ '.' by decide), Bool.and_false,
    Bool.false_eq_true, if_false]

/-- What is written with well-formed lexemes is read as their segments. -/
theorem read_spelling {ls : List Lexeme} (h : ∀ l ∈ ls, l.IsWellFormed) :
    read bad started (spelling started ls) = .ok (ls.map Lexeme.segment) := by
  induction ls generalizing started with
  | nil => rw [spelling, read, List.map_nil]
  | cons l ls ih =>
    obtain ⟨hl, hls⟩ := List.forall_mem_cons.mp h
    cases l with
    | name cs =>
      obtain ⟨hne, hcs⟩ := hl
      rw [spelling, read_name hne (fun c hc => isNameChar_iff.mpr (hcs c hc))
        (stops_isNameChar ls), ih hls]
      rfl
    | index ds =>
      obtain ⟨hne, hds, hlength⟩ := hl
      rw [spelling, read_index hne hds, position_of_isDecimal hds hlength, ih hls]
      rfl

theorem nameToken_eq_name {label : String} {shorter : rest.length < cs.length}
    (h : nameToken cs = .name label rest shorter) :
    ∃ w, (Lexeme.name w).IsWellFormed ∧ cs = w ++ rest ∧ label = .ofList w := by
  cases cs with
  | nil => cases h
  | cons c cs =>
    simp only [nameToken] at h
    split at h
    · next hc =>
      cases h
      refine ⟨c :: cs.takeWhile isNameChar, ⟨List.cons_ne_nil _ _, ?_⟩, ?_, rfl⟩
      · refine List.forall_mem_cons.mpr ⟨isNameChar_iff.mp hc, fun d hd => ?_⟩
        exact isNameChar_iff.mp (List.mem_takeWhile_imp hd)
      · rw [List.cons_append, List.takeWhile_append_dropWhile]
    · cases h

theorem nameToken_ne_index {shorter : rest.length < cs.length} :
    nameToken cs ≠ .index ds rest shorter := by
  intro h
  cases cs with
  | nil => cases h
  | cons c cs =>
    simp only [nameToken] at h
    split at h <;> cases h

theorem indexToken_ne_name {label : String} {shorter : rest.length < ('[' :: cs).length} :
    indexToken cs ≠ .name label rest shorter := by
  intro h
  unfold indexToken at h
  split at h
  · split at h <;> cases h
  · cases h

theorem indexToken_eq_index {shorter : rest.length < ('[' :: cs).length}
    (h : indexToken cs = .index ds rest shorter) :
    ds ≠ [] ∧ (∀ d ∈ ds, Text.isDecimal d) ∧ cs = ds ++ ']' :: rest := by
  unfold indexToken at h
  split at h
  · next rest' heq =>
    split at h
    · cases h
    · next hne =>
      cases h
      refine ⟨by simpa using hne, fun d hd => List.mem_takeWhile_imp hd, ?_⟩
      rw [← heq, List.takeWhile_append_dropWhile]
  · cases h

theorem token_eq_name {label : String} {shorter : rest.length < cs.length}
    (h : token cs = .name label rest shorter) : nameToken cs = .name label rest shorter := by
  unfold token at h
  split at h
  · exact absurd h indexToken_ne_name
  · exact h

theorem token_eq_index {shorter : rest.length < cs.length}
    (h : token cs = .index ds rest shorter) :
    ds ≠ [] ∧ (∀ d ∈ ds, Text.isDecimal d) ∧ cs = '[' :: ds ++ ']' :: rest := by
  unfold token at h
  split at h
  · obtain ⟨hne, hds, rfl⟩ := indexToken_eq_index h
    exact ⟨hne, hds, rfl⟩
  · exact absurd h nameToken_ne_index

theorem position_eq_ok {i : Nat} (h : position ds = .ok i) : ds.length ≤ Text.digitLimit := by
  unfold position at h
  split at h
  · cases h
  · next hlength => exact Nat.not_lt.mp hlength

/-- What is read as segments is written with well-formed lexemes of them. -/
theorem spelling_of_read {segments : List Segment} (h : read bad started cs = .ok segments) :
    ∃ ls : List Lexeme, (∀ l ∈ ls, l.IsWellFormed) ∧ spelling started ls = cs ∧
      segments = ls.map Lexeme.segment := by
  fun_induction read bad started cs generalizing segments with
  | case1 started =>
    cases h
    exact ⟨[], List.forall_mem_nil _, rfl, rfl⟩
  | case2 started c cs hdot label rest shorter htoken ih =>
    obtain ⟨segments, hrest, h⟩ := Traced.except_bind_eq_ok.mp h
    obtain ⟨ls, hls, hcs, rfl⟩ := ih hrest
    obtain ⟨w, hw, rfl, rfl⟩ := nameToken_eq_name htoken
    obtain ⟨rfl, hc⟩ := (Bool.and_eq_true _ _).mp hdot
    cases h
    refine ⟨.name w :: ls, List.forall_mem_cons.mpr ⟨hw, hls⟩, ?_, rfl⟩
    rw [spelling, hcs, eq_of_beq hc]
    rfl
  | case3 | case4 | case7 => cases h
  | case5 started c cs hdot label rest shorter htoken hstarted ih =>
    obtain ⟨segments, hrest, h⟩ := Traced.except_bind_eq_ok.mp h
    obtain ⟨ls, hls, hcs, rfl⟩ := ih hrest
    obtain ⟨w, hw, heq, rfl⟩ := nameToken_eq_name (token_eq_name htoken)
    obtain rfl : started = false := Bool.eq_false_iff.mpr hstarted
    cases h
    refine ⟨.name w :: ls, List.forall_mem_cons.mpr ⟨hw, hls⟩, ?_, rfl⟩
    rw [spelling, hcs, heq]
    rfl
  | case6 started c cs hdot digits rest shorter htoken ih =>
    obtain ⟨i, hi, h⟩ := Traced.except_bind_eq_ok.mp h
    obtain ⟨segments, hrest, h⟩ := Traced.except_bind_eq_ok.mp h
    obtain ⟨ls, hls, hcs, rfl⟩ := ih hrest
    obtain ⟨hne, hds, heq⟩ := token_eq_index htoken
    have hlength := position_eq_ok hi
    obtain rfl : Text.number digits = i :=
      Except.ok.inj ((position_of_isDecimal hds hlength).symm.trans hi)
    cases h
    refine ⟨.index digits :: ls, List.forall_mem_cons.mpr ⟨⟨hne, hds, hlength⟩, hls⟩, ?_, rfl⟩
    rw [spelling, hcs, heq]

theorem position_eq_error {f : Fault} (h : position ds = .error f) :
    ∃ n, Text.digitLimit < n ∧ f = .tooManyDigits n := by
  unfold position at h
  split at h
  · next hlength =>
    cases h
    exact ⟨ds.length, hlength, rfl⟩
  · cases h

/-- A text that cannot be read is malformed, or has a position with too many digits. -/
theorem read_eq_error {f : Fault} (h : read bad started cs = .error f) :
    f = bad ∨ ∃ n, Text.digitLimit < n ∧ f = .tooManyDigits n := by
  fun_induction read bad started cs with
  | case1 => cases h
  | case2 started c cs hdot label rest shorter htoken ih
  | case5 started c cs hdot label rest shorter htoken hstarted ih =>
    rcases Traced.except_bind_eq_error.mp h with hrest | ⟨segments, -, h⟩
    · exact ih hrest
    · cases h
  | case3 | case4 | case7 =>
    cases h
    exact .inl rfl
  | case6 started c cs hdot digits rest shorter htoken ih =>
    rcases Traced.except_bind_eq_error.mp h with hi | ⟨i, -, h⟩
    · exact .inr (position_eq_error hi)
    rcases Traced.except_bind_eq_error.mp h with hrest | ⟨segments, -, h⟩
    · exact ih hrest
    · cases h

theorem spelling_ne_nil {l : Lexeme} (h : l.IsWellFormed) (ls : List Lexeme) :
    spelling started (l :: ls) ≠ [] := by
  cases l with
  | name cs => simp [spelling, h.1]
  | index ds => exact List.cons_ne_nil _ _

theorem spelling_name_ne_index (hne : cs ≠ []) (h : ∀ c ∈ cs, isNameChar c) (ls ms : List Lexeme) :
    spelling started (.name cs :: ls) ≠ spelling started (.index ds :: ms) := by
  intro heq
  cases started with
  | true => exact absurd (List.cons.inj heq).1 (by decide)
  | false =>
    cases cs with
    | nil => exact hne rfl
    | cons c cs =>
      have hc := isNameChar_iff.mp (h c List.mem_cons_self)
      exact hc.2.1 (List.cons.inj heq).1

theorem spelling_injective {ls ms : List Lexeme} (hls : ∀ l ∈ ls, l.IsWellFormed)
    (hms : ∀ m ∈ ms, m.IsWellFormed) (h : spelling started ls = spelling started ms) :
    ls = ms := by
  induction ls generalizing started ms with
  | nil =>
    cases ms with
    | nil => rfl
    | cons m ms => exact absurd h.symm (spelling_ne_nil (hms m List.mem_cons_self) ms)
  | cons l ls ih =>
    obtain ⟨hl, hrest⟩ := List.forall_mem_cons.mp hls
    cases ms with
    | nil => exact absurd h (spelling_ne_nil hl ls)
    | cons m ms =>
      obtain ⟨hm, hrest'⟩ := List.forall_mem_cons.mp hms
      cases l with
      | name cs =>
        have hcs : ∀ c ∈ cs, isNameChar c := fun c hc => isNameChar_iff.mpr (hl.2 c hc)
        cases m with
        | index ds => exact absurd h (spelling_name_ne_index hl.1 hcs ls ms)
        | name ds =>
          have hds : ∀ d ∈ ds, isNameChar d := fun d hd => isNameChar_iff.mpr (hm.2 d hd)
          rw [spelling, spelling, List.append_assoc, List.append_assoc] at h
          obtain ⟨rfl, heq⟩ := append_inj_of_stops (List.append_cancel_left h) hcs hds
            (stops_isNameChar ls) (stops_isNameChar ms)
          rw [ih hrest hrest' heq]
      | index cs =>
        cases m with
        | name ds =>
          have hds : ∀ d ∈ ds, isNameChar d := fun d hd => isNameChar_iff.mpr (hm.2 d hd)
          exact absurd h.symm (spelling_name_ne_index hm.1 hds ms ls)
        | index ds =>
          obtain ⟨rfl, heq⟩ := append_inj_of_stops (List.cons.inj h).2 hl.2.1 hm.2.1
            (stops_isDecimal _) (stops_isDecimal _)
          rw [ih hrest hrest' (List.cons.inj heq).2]

/-- The text is written with the lexemes. -/
structure Spells (s : String) (ls : List Lexeme) : Prop where
  wellFormed : ∀ l ∈ ls, l.IsWellFormed
  spelled : spelling false ls = s.toList

-- the quantifiers are over characters, of which only those of the list are to be tried
instance : DecidablePred Lexeme.IsWellFormed
  | .name cs => @instDecidableAnd _ _ inferInstance (List.decidableBAll _ cs)
  | .index ds =>
    @instDecidableAnd _ _ inferInstance
      (@instDecidableAnd _ _ (List.decidableBAll _ ds) inferInstance)

variable {s : String}

theorem Spells.ofText_eq {ls : List Lexeme} (h : Spells s ls) :
    ofText s = .ok ⟨ls.map Lexeme.segment⟩ := by
  rw [ofText, ← h.spelled, read_spelling h.wellFormed]
  rfl

theorem Spells.unique {ls ms : List Lexeme} (h : Spells s ls) (h' : Spells s ms) : ls = ms :=
  spelling_injective h.wellFormed h'.wellFormed (h.spelled.trans h'.spelled.symm)

theorem spells_of_ofText {p : Path} (h : ofText s = .ok p) :
    ∃ ls, Spells s ls ∧ p = ⟨ls.map Lexeme.segment⟩ := by
  obtain ⟨segments, hread, h⟩ := Traced.except_bind_eq_ok.mp h
  obtain ⟨ls, hls, hs, rfl⟩ := spelling_of_read hread
  cases h
  exact ⟨ls, ⟨hls, hs⟩, rfl⟩

/-- The text of a path is read as the segments of the lexemes that it is written with, of which
there is one list only. Every other text is refused as a wrong value: it is malformed, or a
position in it has too many digits. -/
theorem ofText_accepts_grammar (s : String) :
    (∀ ls, Spells s ls →
      ofText s = .ok ⟨ls.map Lexeme.segment⟩ ∧ ∀ ms, Spells s ms → ms = ls) ∧
    ((¬ ∃ ls, Spells s ls) → ∃ f, ofText s = .error f ∧ f.family = .value ∧
      (f = .malformedPath (Text.quoted s) ∨ ∃ n, Text.digitLimit < n ∧ f = .tooManyDigits n)) := by
  refine ⟨fun ls h => ⟨h.ofText_eq, fun ms h' => h'.unique h⟩, fun hno => ?_⟩
  cases h : ofText s with
  | ok p =>
    obtain ⟨ls, hls, -⟩ := spells_of_ofText h
    exact absurd ⟨ls, hls⟩ hno
  | error f =>
    rcases Traced.except_bind_eq_error.mp h with hread | ⟨segments, -, h⟩
    · rcases read_eq_error hread with rfl | ⟨n, hn, rfl⟩
      · exact ⟨_, rfl, rfl, .inl rfl⟩
      · exact ⟨_, rfl, rfl, .inr ⟨n, hn, rfl⟩⟩
    · cases h

def sampleLexemes : List Lexeme :=
  [.name ['a', ' '], .index ['٣'], .index ['0', '7'], .name ['7']]

theorem spells_sampleLexemes : Spells "a [٣][07].7" sampleLexemes := ⟨by decide, by decide⟩

theorem not_spells_dot_bracket : ¬ ∃ ls, Spells "a.[0]" ls := by
  rintro ⟨ls, hls, hs⟩
  have hread : read .emptyMessage false (spelling false ls) = .ok (ls.map Lexeme.segment) :=
    read_spelling hls
  have hrefused : read .emptyMessage false "a.[0]".toList = .error .emptyMessage := by cbv
  rw [hs, hrefused] at hread
  cases hread

theorem ofText_sampleText :
    ofText "a [٣][07].7" =
        .ok ⟨[.name (.text "a "), .index 3, .index 7, .name (.text "7")]⟩ ∧
      (∀ ms, Spells "a [٣][07].7" ms → ms = sampleLexemes) ∧
      ∃ f, ofText "a.[0]" = .error f ∧ f.family = .value ∧
        (f = .malformedPath (Text.quoted "a.[0]") ∨
          ∃ n, Text.digitLimit < n ∧ f = .tooManyDigits n) := by
  obtain ⟨hread, hunique⟩ := (ofText_accepts_grammar _).1 sampleLexemes spells_sampleLexemes
  exact ⟨hread, hunique, (ofText_accepts_grammar _).2 not_spells_dot_bracket⟩

end Assay.Path.Notation
