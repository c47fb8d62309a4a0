import Mathlib.Data.Char
import Mathlib.Data.List.Lex
import Assay.Data.Order
import Assay.Proofs.Sorting

/-! # Texts in order

Texts are ordered by their code points, whether all of those are characters or
not. A list of texts can therefore always be sorted.
-/

namespace Assay.Data

variable {s t : String} {v : Data} {vs : List Data}

def points (v : Data) : List Nat := v.codes?.getD []

theorem map_toNat_lt_iff : s.toList.map Char.toNat < t.toList.map Char.toNat ↔ s < t := by
  have hmap : ∀ {cs ds : List Char}, cs < ds → cs.map Char.toNat < ds.map Char.toNat :=
    fun hlt => List.map_lt (fun c d h => h) hlt
  change _ ↔ s.toList < t.toList
  constructor
  · intro h
    rcases lt_trichotomy s.toList t.toList with hlt | heq | hgt
    · exact hlt
    · rw [heq] at h
      exact absurd h (lt_irrefl _)
    · exact absurd h (lt_asymm (hmap hgt))
  · exact hmap

theorem compares_isText : Sorting.Compares (fun v => v.isText) points (compare .less) := by
  intro v w hv hw
  cases v <;> cases w <;> first
    | exact absurd hv Bool.false_ne_true
    | exact absurd hw Bool.false_ne_true
    | exact congrArg Except.ok (decide_eq_decide.mpr Iff.rfl)
    | exact congrArg Except.ok (decide_eq_decide.mpr map_toNat_lt_iff.symm)

/-- Texts are sorted by their code points. -/
theorem sort_of_isText (h : ∀ v ∈ vs, v.isText) :
    sort vs = .ok (vs.insertionSort fun v w => v.points ≤ w.points) := by
  cases vs with
  | nil => rfl
  | cons v rest =>
    let _ : Inhabited Data := ⟨v⟩
    exact Sorting.sort_eq fun v w hv hw => compares_isText (h v hv) (h w hw)

end Assay.Data
