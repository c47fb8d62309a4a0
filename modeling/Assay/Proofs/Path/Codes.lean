import Assay.Proofs.Path.Grammar

/-! # Paths by code points

A path is read from code points as it is read from characters: the names, which
are cut out of the code points once the segments are known, are those that the
characters make. So a text is the same path whichever way it is read.
-/

namespace Assay.Path

namespace Notation

variable {cs : List Char} {ss : List Segment} {started : Bool}

theorem toNat_beq (c d : Char) : (c.toNat == d.toNat) = (c == d) :=
  Bool.eq_iff_iff.mpr (by rw [beq_iff_eq, beq_iff_eq, Char.toNat_inj])

theorem rename_name (v : Data) (cs : List Char) :
    rename (.name v :: ss) (cs.map Char.toNat) =
      .name (.text (.ofList ((cs.dropWhile (· == '.')).takeWhile isNameChar))) ::
        rename ss (((cs.dropWhile (· == '.')).dropWhile isNameChar).map Char.toNat) := by
  have hdot : (fun n => n == '.'.toNat) ∘ Char.toNat = fun c => c == '.' :=
    funext fun c => toNat_beq c '.'
  have hlabel : (fun n => isNameChar (Char.ofNat n)) ∘ Char.toNat = isNameChar :=
    funext fun c => congrArg isNameChar (Char.ofNat_toNat c)
  rw [rename]
  simp only [List.dropWhile_map, List.takeWhile_map, hdot, hlabel]
  rw [← Data.ofCodes_toNat, String.toList_ofList]

theorem rename_index (i : Nat) (cs : List Char) :
    rename (.index i :: ss) (cs.map Char.toNat) =
      .index i :: rename ss (((cs.dropWhile (· != ']')).drop 1).map Char.toNat) := by
  have hbracket : (fun n => n != ']'.toNat) ∘ Char.toNat = fun c => c != ']' :=
    funext fun c => congrArg not (toNat_beq c ']')
  rw [rename]
  · rw [List.dropWhile_map, hbracket, List.map_drop]
  · nofun

/-- The segments of lexemes have the names that they are written with. -/
theorem rename_spelling {ls : List Lexeme} (h : ∀ l ∈ ls, l.IsWellFormed) :
    rename (ls.map Lexeme.segment) ((spelling started ls).map Char.toNat) =
      ls.map Lexeme.segment := by
  induction ls generalizing started with
  | nil => rfl
  | cons l ls ih =>
    obtain ⟨hl, hls⟩ := List.forall_mem_cons.mp h
    cases l with
    | name cs =>
      obtain ⟨c, cs, rfl⟩ := List.exists_cons_of_ne_nil hl.1
      have hname : ∀ d ∈ c :: cs, isNameChar d := fun d hd => isNameChar_iff.mpr (hl.2 d hd)
      have hdrop : (spelling started (.name (c :: cs) :: ls)).dropWhile (· == '.') =
          (c :: cs) ++ spelling true ls := by
        have hdot : ¬ (c == '.') = true := by simpa using (hl.2 c List.mem_cons_self).1
        cases started <;> simp [spelling, hdot]
      rw [List.map_cons, Lexeme.segment, rename_name, hdrop,
        takeWhile_append_of_stops hname (stops_isNameChar ls),
        dropWhile_append_of_stops hname (stops_isNameChar ls), ih hls]
    | index ds =>
      have hdrop : (spelling started (.index ds :: ls)).dropWhile (· != ']') =
          ']' :: spelling true ls := by
        have hdigits : ∀ d ∈ '[' :: ds, (d != ']') = true := by
          refine List.forall_mem_cons.mpr ⟨rfl, fun d hd => bne_iff_ne.mpr ?_⟩
          rintro rfl
          exact absurd (hl.2.1 ']' hd) (by decide)
        rw [spelling, dropWhile_append_of_stops hdigits]
        intro c hc
        obtain rfl := Option.some.inj hc
        rfl
      rw [List.map_cons, Lexeme.segment, rename_index, hdrop, List.drop_one, List.tail_cons,
        ih hls]

end Notation

open Notation

/-- A text is read from its code points as it is read from its characters. -/
theorem ofCodes_toNat (s : String) : ofCodes (s.toList.map Char.toNat) = ofText s := by
  rw [ofCodes, ofText, Text.map_ofNat_toNat, Text.quotedCodes_toNat]
  cases h : read (.malformedPath (Text.quoted s)) false s.toList with
  | error f => rfl
  | ok segments =>
    obtain ⟨ls, hls, hs, rfl⟩ := spelling_of_read h
    rw [← hs]
    exact congrArg (fun ss => (.ok ⟨ss⟩ : Except Fault Path)) (rename_spelling hls)

end Assay.Path
