import Assay.Traced

/-! # Laws of recorded computations

Recorded computations form a lawful monad. A computation that is continued
either completes, and then the events of the rest follow its own, or ends with
a fault, and then the rest is never reached.
-/

namespace Assay.Traced

variable {ε α β γ : Type}

@[simp] theorem events_pure (a : α) : (pure a : Traced ε α).events = [] := rfl

@[simp] theorem result_pure (a : α) : (pure a : Traced ε α).result = .ok a := rfl

@[simp] theorem events_ofExcept (r : Except Fault α) : (ofExcept r : Traced ε α).events = [] := rfl

@[simp] theorem result_ofExcept (r : Except Fault α) : (ofExcept r : Traced ε α).result = r := rfl

@[simp] theorem ofExcept_ok (a : α) : (ofExcept (.ok a) : Traced ε α) = pure a := rfl

@[simp] theorem ofExcept_pure (a : α) : (ofExcept (pure a) : Traced ε α) = pure a := rfl

@[simp] theorem liftM_eq_ofExcept (r : Except Fault α) :
    (liftM r : Traced ε α) = ofExcept r := rfl

@[simp] theorem throw_eq_ofExcept (f : Fault) :
    (throw f : Traced ε α) = ofExcept (.error f) := rfl

theorem bind_of_ok {x : Traced ε α} {a : α} (h : x.result = .ok a) (f : α → Traced ε β) :
    x >>= f = ⟨x.events ++ (f a).events, (f a).result⟩ := by
  change bind x f = _
  simp only [bind, h]

theorem bind_of_error {x : Traced ε α} {e : Fault} (h : x.result = .error e)
    (f : α → Traced ε β) : x >>= f = ⟨x.events, .error e⟩ := by
  change bind x f = _
  simp only [bind, h]

theorem bind_congr_of_ok {x : Traced ε α} {a : α} (h : x.result = .ok a)
    {f g : α → Traced ε β} (hfg : f a = g a) : x >>= f = x >>= g := by
  rw [bind_of_ok h, bind_of_ok h, hfg]

@[simp] theorem ofExcept_error_bind (e : Fault) (f : α → Traced ε β) :
    ofExcept (.error e) >>= f = ofExcept (.error e) := rfl

theorem ofExcept_bind (r : Except Fault α) (f : α → Except Fault β) :
    (ofExcept (r >>= f) : Traced ε β) = ofExcept r >>= fun a => ofExcept (f a) := by
  cases r <;> rfl

theorem result_bind (x : Traced ε α) (f : α → Traced ε β) :
    (x >>= f).result = x.result >>= fun a => (f a).result := by
  cases h : x.result with
  | ok a => rw [bind_of_ok h]; rfl
  | error e => rw [bind_of_error h]; rfl

theorem except_bind_eq_ok {x : Except Fault α} {f : α → Except Fault β} {b : β} :
    x >>= f = .ok b ↔ ∃ a, x = .ok a ∧ f a = .ok b := by
  constructor
  · intro h
    cases x with
    | ok a => exact ⟨a, rfl, h⟩
    | error e => cases h
  · rintro ⟨a, rfl, h⟩
    exact h

theorem except_bind_eq_error {x : Except Fault α} {f : α → Except Fault β} {e : Fault} :
    x >>= f = .error e ↔ x = .error e ∨ ∃ a, x = .ok a ∧ f a = .error e := by
  constructor
  · intro h
    cases x with
    | ok a => exact .inr ⟨a, rfl, h⟩
    | error e' => exact .inl (congrArg Except.error (Except.error.inj h))
  · rintro (rfl | ⟨a, rfl, h⟩)
    · rfl
    · exact h

theorem except_bind_eq_error_of_ok {x : Except Fault α} {f : α → Except Fault β} {e : Fault}
    (h : ∀ a, ∃ b, f a = .ok b) : x >>= f = .error e ↔ x = .error e := by
  rw [except_bind_eq_error]
  refine or_iff_left ?_
  rintro ⟨a, -, hf⟩
  obtain ⟨b, hb⟩ := h a
  cases hb.symm.trans hf

theorem except_forM_eq_ok {as : List α} {f : α → Except Fault Unit} :
    forM as f = .ok () ↔ ∀ a ∈ as, f a = .ok () := by
  induction as with
  | nil => exact iff_of_true rfl nofun
  | cons a rest ih =>
    rw [List.forM_cons, except_bind_eq_ok, List.forall_mem_cons, ← ih]
    exact ⟨fun ⟨_, ha, hrest⟩ => ⟨ha, hrest⟩, fun ⟨ha, hrest⟩ => ⟨⟨⟩, ha, hrest⟩⟩

theorem exists_of_except_mapM_eq_ok {f : α → Except Fault β} {as : List α} {bs : List β}
    (h : as.mapM f = .ok bs) : ∀ a ∈ as, ∃ b, f a = .ok b := by
  induction as generalizing bs with
  | nil => exact nofun
  | cons a rest ih =>
    rw [List.mapM_cons] at h
    obtain ⟨b, hb, h⟩ := except_bind_eq_ok.mp h
    obtain ⟨bs, hbs, -⟩ := except_bind_eq_ok.mp h
    exact List.forall_mem_cons.mpr ⟨⟨b, hb⟩, ih hbs⟩

theorem exists_of_except_foldlM_eq_ok {f : β → α → Except Fault β} {as : List α} {b b' : β}
    (h : as.foldlM f b = .ok b') : ∀ a ∈ as, ∃ c c', f c a = .ok c' := by
  induction as generalizing b with
  | nil => exact nofun
  | cons a rest ih =>
    rw [List.foldlM_cons] at h
    obtain ⟨c, hc, h⟩ := except_bind_eq_ok.mp h
    exact List.forall_mem_cons.mpr ⟨⟨b, c, hc⟩, ih h⟩

/-- A continued computation gives a value exactly when both of its parts do. -/
theorem result_bind_eq_ok {x : Traced ε α} {f : α → Traced ε β} {b : β} :
    (x >>= f).result = .ok b ↔ ∃ a, x.result = .ok a ∧ (f a).result = .ok b := by
  cases h : x.result with
  | ok a => simp [bind_of_ok h]
  | error e => simp [bind_of_error h]

theorem result_bind_pure_eq_ok {x : Traced ε α} {g : α → β} {b : β} :
    (x >>= fun a => pure (g a)).result = .ok b ↔ ∃ a, x.result = .ok a ∧ b = g a := by
  rw [result_bind_eq_ok]
  refine exists_congr fun a => and_congr_right fun _ => ?_
  rw [result_pure, Except.ok.injEq, eq_comm]

theorem events_bind_pure (x : Traced ε α) (g : α → β) :
    (x >>= fun a => pure (g a)).events = x.events := by
  cases h : x.result with
  | ok a => rw [bind_of_ok h, events_pure, List.append_nil]
  | error e => rw [bind_of_error h]

theorem id_map (x : Traced ε α) : id <$> x = x := by
  change (x >>= fun a => pure a) = x
  cases h : x.result with
  | ok a => rw [bind_of_ok h, events_pure, result_pure, List.append_nil, ← h]
  | error e => rw [bind_of_error h, ← h]

theorem bind_assoc (x : Traced ε α) (f : α → Traced ε β) (g : β → Traced ε γ) :
    x >>= f >>= g = x >>= fun a => f a >>= g := by
  cases h : x.result with
  | error e => rw [bind_of_error h, bind_of_error h, bind_of_error rfl]
  | ok a =>
    rw [bind_of_ok h, bind_of_ok h]
    cases hf : (f a).result with
    | error e => rw [bind_of_error rfl, bind_of_error hf]
    | ok b => rw [bind_of_ok rfl, bind_of_ok hf, List.append_assoc]

instance : LawfulMonad (Traced ε) := LawfulMonad.mk' (Traced ε) id_map (fun _ _ => rfl) bind_assoc

end Assay.Traced
