import Assay.Proofs.Checks

/-! # Faults of ready-made checks

The constructors of the ready-made checks refuse their arguments with faults
that a configuration reports, with three exceptions: what is no pattern is
asked for the text of one, bounds may be too large to be compared, and patterns
may be too large to be compiled.
-/

namespace Assay

/-- Where the computation fails, its fault has the property. -/
def FailsOnly {α : Type} (x : Except Fault α) (Q : Fault → Prop) : Prop := ∀ f, x = .error f → Q f

namespace FailsOnly

variable {α β : Type} {Q S : Fault → Prop} {x : Except Fault α}

theorem ok (a : α) : FailsOnly (.ok a) Q := nofun

theorem error {f : Fault} (h : Q f) : FailsOnly (.error f : Except Fault α) Q := by
  intro g hg
  cases hg
  exact h

theorem mono (h : FailsOnly x Q) (hQS : ∀ f, Q f → S f) : FailsOnly x S :=
  fun f hf => hQS f (h f hf)

theorem bind_of_ok {g : α → Except Fault β} (hx : FailsOnly x Q)
    (hg : ∀ a, x = .ok a → FailsOnly (g a) Q) : FailsOnly (x >>= g) Q := by
  intro f hf
  obtain hf | ⟨a, ha, hf⟩ := Traced.except_bind_eq_error.mp hf
  · exact hx f hf
  · exact hg a ha f hf

theorem bind {g : α → Except Fault β} (hx : FailsOnly x Q) (hg : ∀ a, FailsOnly (g a) Q) :
    FailsOnly (x >>= g) Q := hx.bind_of_ok fun a _ => hg a

theorem result_bind {ε : Type} {m : Traced ε α} {g : α → Traced ε β} (hm : FailsOnly m.result Q)
    (hg : ∀ a, m.result = .ok a → FailsOnly (g a).result Q) : FailsOnly (m >>= g).result Q := by
  rw [Traced.result_bind]
  exact hm.bind_of_ok hg

theorem ite {c : Prop} [Decidable c] {y : Except Fault α} (hx : c → FailsOnly x Q)
    (hy : ¬ c → FailsOnly y Q) : FailsOnly (if c then x else y) Q := by
  split
  · exact hx ‹_›
  · exact hy ‹_›

theorem mapM {g : α → Except Fault β} {as : List α} (h : ∀ a ∈ as, FailsOnly (g a) Q) :
    FailsOnly (as.mapM g) Q := by
  induction as with
  | nil => exact ok _
  | cons a rest ih =>
    obtain ⟨ha, hrest⟩ := List.forall_mem_cons.mp h
    rw [List.mapM_cons]
    exact ha.bind fun _ => (ih hrest).bind fun _ => ok _

theorem foldlM {g : β → α → Except Fault β} {as : List α} (b : β)
    (h : ∀ b, ∀ a ∈ as, FailsOnly (g b a) Q) : FailsOnly (as.foldlM g b) Q := by
  induction as generalizing b with
  | nil => exact ok _
  | cons a rest ih =>
    rw [List.foldlM_cons]
    exact (h b a List.mem_cons_self).bind fun c =>
      ih c fun b d hd => h b d (List.mem_cons_of_mem a hd)

end FailsOnly

namespace Fault

def IsRefusal (f : Fault) : Prop := f.family = .type ∨ f.family = .value

end Fault

namespace Data

theorem failsOnly_items {Q : Fault → Prop} (hQ : ∀ kind, Q (.notIterable kind)) (v : Data) :
    FailsOnly v.items Q := by
  unfold items
  split
  all_goals try exact .ok _
  split
  · exact .ok _
  · exact .error (hQ _)

variable {Q : Fault → Prop} (hQ : ∀ f : Fault, f.IsRefusal → Q f)

include hQ

end Data

namespace Check

section

variable {Q : Fault → Prop} (hQ : ∀ f : Fault, f.IsRefusal → Q f)

include hQ

theorem failsOnly_expect (as : Arguments) (function : String) (known : List String) :
    FailsOnly (as.expect function known) Q := by
  unfold Arguments.expect
  split
  · exact .error (hQ _ (.inl rfl))
  · exact .ok _

theorem failsOnly_make (message : Data) (p : Predicate) (code group : Data) :
    FailsOnly (Rule.make message p code group) Q := by
  unfold Rule.make Rule.ofPredicate Issue.make
  refine FailsOnly.bind (.ite (fun _ => .ok _) fun _ => .error (hQ _ (.inr rfl))) fun _ => .ok _

end

variable [Pattern.Edition] {Q : Fault → Prop}

end Check

end Assay
