import Assay.Proofs.Extent
import Assay.Proofs.Path.Rendering
import Assay.Scope.Step

/-! # Joined paths

The text of joined paths is made of their texts, with a dot between them where a
name follows something. A path without empty names, and without dots and
brackets in names, can be joined by its text.
-/

namespace Assay.Path

variable {p q : Path}

def startsWithName (p : Path) : Bool := p.segments.head?.any Segment.isName

theorem tailCodes_append (ss ts : List Segment) :
    tailCodes (ss ++ ts) = (do
      let ms ← tailCodes ss
      let ns ← tailCodes ts
      pure (ms ++ ns)) := by
  induction ss with
  | nil => exact (bind_pure (tailCodes ts)).symm
  | cons s rest ih =>
    simp only [List.cons_append, tailCodes, ih, bind_assoc, pure_bind, List.append_assoc]

theorem tailCodes_segments (q : Path) :
    tailCodes q.segments = (do
      let ns ← q.codes
      pure ((if q.startsWithName then ['.'.toNat] else []) ++ ns)) := by
  unfold codes startsWithName
  cases q.segments with
  | nil => rfl
  | cons s rest =>
    simp only [tailCodes, bind_assoc, pure_bind, List.head?_cons, Option.any_some]
    refine bind_congr fun ms => bind_congr fun ns => ?_
    by_cases h : s.isName <;> simp [h]

theorem codes_join (p q : Path) :
    (p.join q).codes = (do
      let ms ← p.codes
      let ns ← q.codes
      pure (ms ++ (if !p.isEmpty && q.startsWithName then ['.'.toNat] else []) ++ ns)) := by
  obtain ⟨ss⟩ := p
  cases ss with
  | nil => exact (bind_pure q.codes).symm
  | cons s rest =>
    change (do
      let ms ← s.codes
      pure (ms ++ (← tailCodes (rest ++ q.segments)))) = _
    simp only [codes, tailCodes_append, tailCodes_segments, bind_assoc, pure_bind,
      List.append_assoc, isEmpty, List.isEmpty_cons, Bool.not_false, Bool.true_and]

theorem text_join (p q : Path) :
    (p.join q).text = (do
      let s ← p.text
      let t ← q.text
      pure (s ++ (if !p.isEmpty && q.startsWithName then "." else "") ++ t)) := by
  simp only [text, codes_join, bind_assoc, pure_bind, Text.ofCodes_append]
  split <;> rfl

theorem ofItems_position (i : Nat) : ofItems [.int i] = .ok ⟨[.index i]⟩ := by
  rw [ofItems, List.mapM_cons, Segment.ofItem, Segment.ofPosition, Data.compare_less_int,
    decide_eq_false (Int.not_lt.mpr (Int.natCast_nonneg i))]
  rfl

theorem joinText_text (p : Path) (h : q.IsProper) (hc : q.IsClean) :
    ∃ t, q.text = .ok t ∧ p.joinText (.text t) = .ok (p.join q) := by
  obtain ⟨t, ht, hread⟩ := ofText_text h hc
  exact ⟨t, ht, by rw [joinText, ofData, hread]; rfl⟩

theorem IsProper.join (hp : p.IsProper) (hq : q.IsProper) : (p.join q).IsProper :=
  List.forall_mem_append.mpr ⟨hp, hq⟩

/-- Joining is associative, the empty path changes nothing, and a name or a position is added by
joining a path of one segment. The text of joined paths is the text of the first, a dot if the first
is not empty and the second starts with a name, and the text of the second; a path whose names are
texts and whose positions can be written has a text. A path without empty names and without dots and
brackets in names is joined as well by its text, so that an issue is put under a path by its path as
by the text of its path. -/
theorem join_and_text :
    (∀ p q r : Path, (p.join q).join r = p.join (q.join r) ∧ p.join ∅ = p ∧ (∅ : Path).join p = p) ∧
    (∀ (p : Path) (name : String) (i : Nat),
      (∃ q : Path, ofItems [.text name] = .ok q ∧ q.length = 1 ∧ p.child (.text name) = p.join q) ∧
      ∃ q : Path, ofItems [.int i] = .ok q ∧ q.length = 1 ∧ p.index i = p.join q) ∧
    (∀ p q : Path, p.IsProper → q.IsProper → ∃ s t, p.text = .ok s ∧ q.text = .ok t ∧
      (p.join q).text =
        .ok (s ++ (if !p.isEmpty && q.startsWithName then "." else "") ++ t)) ∧
    (∀ p q : Path, q.IsProper → q.IsClean →
      ∃ t r, q.text = .ok t ∧ p.joinText (.text t) = .ok r ∧ r = p.join q ∧
        (p.IsProper → r.eq (p.join q))) ∧
    ∀ (p : Path) (i : Issue), i.path.IsProper → i.path.IsClean →
      ∃ t, i.path.text = .ok t ∧ p.joinText (.text t) = .ok (Scope.reparent p i).path := by
  refine ⟨fun p q r => ⟨join_assoc p q r, join_empty p, empty_join p⟩,
    fun p name i => ⟨⟨_, rfl, rfl, rfl⟩, ?_⟩, fun p q hp hq => ?_, fun p q hq hc => ?_,
    fun p i hi hc => joinText_text p hi hc⟩
  · exact ⟨_, ofItems_position i, rfl, rfl⟩
  · refine ⟨_, _, text_eq hp, text_eq hq, ?_⟩
    rw [text_join, text_eq hp, text_eq hq]
    rfl
  · obtain ⟨t, ht, hjoin⟩ := joinText_text p hq hc
    exact ⟨t, _, ht, hjoin, rfl, fun hp => (eq_iff (hp.join hq) (hp.join hq)).mpr rfl⟩

def sampleBase : Path := ⟨[.name (.text ""), .index 0]⟩

def sampleTail : Path := ⟨[.name (.text "a"), .index 3]⟩

theorem join_and_text_sampleTail :
    sampleBase.IsProper ∧ sampleTail.IsProper ∧ sampleTail.IsClean ∧
      (∃ s t, sampleBase.text = .ok s ∧ sampleTail.text = .ok t ∧
        (sampleBase.join sampleTail).text = .ok (s ++ "." ++ t) ∧
        (sampleTail.join sampleBase).text = .ok (t ++ "." ++ s)) ∧
      (∃ t r, sampleTail.text = .ok t ∧ sampleBase.joinText (.text t) = .ok r ∧
        r.eq (sampleBase.join sampleTail)) ∧
      ∃ t, sampleTail.text = .ok t ∧ sampleBase.joinText (.text t) =
        .ok (Scope.reparent sampleBase ⟨sampleTail, .text "is late", .null, .null⟩).path := by
  obtain ⟨-, -, htext, hback, hreparent⟩ := join_and_text
  have hbase : sampleBase.IsProper := isProper_of_small (by simp [sampleBase])
  have htail : sampleTail.IsProper := isProper_of_small (by simp [sampleTail])
  have hclean : sampleTail.IsClean := by simp [sampleTail, IsClean, Segment.IsClean]
  obtain ⟨s, t, hs, ht, hjoined⟩ := htext _ _ hbase htail
  obtain ⟨t', s', ht', hs', hjoined'⟩ := htext _ _ htail hbase
  obtain rfl : s = s' := Except.ok.inj (hs.symm.trans hs')
  obtain rfl : t = t' := Except.ok.inj (ht.symm.trans ht')
  obtain ⟨u, r, hu, hr, -, heq⟩ := hback sampleBase sampleTail htail hclean
  exact ⟨hbase, htail, hclean, ⟨s, t, hs, ht, hjoined, hjoined'⟩, ⟨u, r, hu, hr, heq hbase⟩,
    hreparent sampleBase ⟨sampleTail, _, _, _⟩ htail hclean⟩

end Assay.Path
