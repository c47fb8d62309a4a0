import Assay.Data.Spelling

/-! # Values that can be spelled

A value has a text unless it holds a whole number that is too long, and asking
for the text of such a value is the one way to fail. Texts can be spelled, and
so can a number that counts as false.
-/

namespace Assay

theorem tenTo_pos (n : Nat) : 0 < tenTo n := Nat.pow_pos (Nat.succ_pos 9)

namespace Data

theorem spell_eq_ok {v : Data} {s : String} : v.spell = .ok s ↔ v.isSpellable ∧ v.shown = s := by
  unfold spell
  cases v.isSpellable <;> simp

theorem spell_of_isSpellable {v : Data} (h : v.isSpellable) : v.spell = .ok v.shown :=
  spell_eq_ok.mpr ⟨h, rfl⟩

theorem spell_eq_error {v : Data} {f : Fault} :
    v.spell = .error f ↔ f = .numberTooLong ∧ ¬ v.isSpellable := by
  unfold spell
  cases v.isSpellable <;> simp [eq_comm]

theorem isSpellable_of_isText {v : Data} (h : v.isText) : v.isSpellable := by
  cases v with
  | text s => rfl
  | codes ns => rfl
  | _ => cases h

theorem areSpellable_of_isText {vs : List Data} (h : ∀ v ∈ vs, v.isText) : areSpellable vs := by
  induction vs with
  | nil => rfl
  | cons v rest ih =>
    obtain ⟨hv, hrest⟩ := List.forall_mem_cons.mp h
    rw [areSpellable, ih hrest, isSpellable_of_isText hv]
    rfl

theorem isSpellable_zero : (int 0).isSpellable := by
  rw [isSpellable, decide_eq_true_eq]
  exact tenTo_pos _

end Data

end Assay
