import Assay.Proofs.Run
import Assay.Verdict

/-! # Verdicts in pipelines

A pipeline runs on two tracks. As long as a value is accepted, the functions of
values are called on it, each once. The first continuation that rejects leads to
the other track, where actions on issues are called and the issues stay.
-/

namespace Assay

/-- Computations that leave a trace, and that may read and change what surrounds them. -/
abbrev Acting (σ ε : Type) := StateT σ (Traced ε)

namespace Acting

variable {σ ε α β : Type} {s s' s'' : σ} {es es' : List ε} {a : α} {b : β}
  {x : Acting σ ε α} {f : α → Acting σ ε β}

/-- In surroundings `s` the computation leaves the trace `es`, ends with `a` and leaves the
surroundings as `s'`. -/
def Gives (x : Acting σ ε α) (s : σ) (es : List ε) (a : α) (s' : σ) : Prop :=
  x.run s = ⟨es, .ok (a, s')⟩

/-- Calls of the function end with a value. -/
def Answers (f : α → Acting σ ε β) : Prop := ∀ a s, ∃ es b s', Gives (f a) s es b s'

theorem gives_pure (a : α) (s : σ) : Gives (pure a : Acting σ ε α) s [] a s := rfl

theorem Gives.unique {a' : α} (h : Gives x s es a s') (h' : Gives x s es' a' s'') :
    es = es' ∧ a = a' ∧ s' = s'' := by
  cases h.symm.trans h'
  exact ⟨rfl, rfl, rfl⟩

theorem Gives.bind (hx : Gives x s es a s') (hf : Gives (f a) s' es' b s'') :
    Gives (x >>= f) s (es ++ es') b s'' := by
  unfold Gives at hx hf ⊢
  rw [StateT.run_bind, hx, Traced.bind_of_ok rfl]
  change Traced.mk (es ++ ((f a).run s').events) ((f a).run s').result = _
  rw [hf]

theorem Gives.bind_pure (hx : Gives x s es a s') (g : α → β) :
    Gives (x >>= fun a => pure (g a)) s es (g a) s' := by
  have h := hx.bind (f := fun a => pure (g a)) (gives_pure (g a) s')
  rwa [List.append_nil] at h

end Acting

namespace Issue

variable {i : Issue} {is : List Issue}

def IsLocatable (i : Issue) : Prop := ∃ t, i.path.text = .ok t

/-- The path can be written, and the message is text. -/
def IsTold (i : Issue) : Prop := i.IsLocatable ∧ ∃ m, i.message = .text m

theorem mapM_of_forall {β : Type} {f : Issue → Except Fault β} {Q : β → Prop}
    (h : ∀ i ∈ is, ∃ b, f i = .ok b ∧ Q b) : ∃ bs, is.mapM f = .ok bs ∧ ∀ b ∈ bs, Q b := by
  induction is with
  | nil => exact ⟨[], rfl, nofun⟩
  | cons i rest ih =>
    obtain ⟨⟨b, hb, hQ⟩, hrest⟩ := List.forall_mem_cons.mp h
    obtain ⟨bs, hbs, hQs⟩ := ih hrest
    refine ⟨b :: bs, ?_, List.forall_mem_cons.mpr ⟨hQ, hQs⟩⟩
    rw [List.mapM_cons, hb, hbs]
    rfl

theorem exists_toData (h : i.IsLocatable) : ∃ d, i.toData = .ok d := by
  obtain ⟨t, ht⟩ := h
  obtain ⟨ns, hns, -⟩ := Traced.except_bind_eq_ok.mp ht
  exact ⟨_, by rw [toData, hns]; rfl⟩

theorem exists_summaryPart (h : i.IsTold) : ∃ s, i.summaryPart = .ok (.text s) := by
  obtain ⟨⟨t, ht⟩, m, hm⟩ := h
  rw [summaryPart, ht, hm]
  change ∃ s, (if t.isEmpty then pure (.text m) else pure (.text s!"{t}: {m}")) =
    Except.ok (ε := Fault) (Data.text s)
  split
  · exact ⟨m, rfl⟩
  · exact ⟨_, rfl⟩

theorem exists_joinTexts {parts : List Data} (h : ∀ v ∈ parts, ∃ s, v = .text s) (n : Nat) :
    ∃ ss, joinTexts n parts = .ok ss := by
  induction parts generalizing n with
  | nil => exact ⟨[], rfl⟩
  | cons v rest ih =>
    obtain ⟨⟨s, rfl⟩, hrest⟩ := List.forall_mem_cons.mp h
    obtain ⟨ss, hss⟩ := ih hrest (n + 1)
    exact ⟨s :: ss, by rw [joinTexts, hss]; rfl⟩

/-- A rejection with issues that can be told carries them all. -/
theorem exists_rejection (h : ∀ i ∈ is, i.IsTold) :
    ∃ summary, rejection is = .ok (.rejected is summary) := by
  obtain ⟨parts, hparts, htexts⟩ := mapM_of_forall (f := summaryPart)
    (Q := fun v => ∃ s, v = .text s) fun i hi => by
      obtain ⟨s, hs⟩ := exists_summaryPart (h i hi)
      exact ⟨_, hs, s, rfl⟩
  obtain ⟨ss, hss⟩ := exists_joinTexts htexts 0
  exact ⟨_, by rw [rejection, hparts]; change (joinTexts 0 parts >>= _) = _; rw [hss]; rfl⟩

end Issue

namespace Verdict

open Acting

variable {σ ε α : Type}

/-- All that is read off the verdict is that it accepts `b`. -/
structure Accepts (y : Verdict α) (b : α) : Prop where
  isAccepted : y.isAccepted
  issues : y.issues = []
  value? : y.value? = some b
  valueOr {m : Type → Type} [Monad m] (default : Unit → m α) : y.valueOr default = pure b
  value : y.value = .ok b
  toValidated : y.toValidated = .passed
  toData : y.toData = .ok (.mapping [(.text "valid", .bool true), (.text "errors", .list [])])
  ofValidated : Verdict.ofValidated b y.toValidated = y

/-- All that is read off the verdict is that it was reached with the issues `is`. -/
structure Rejects (y : Verdict α) (is : List Issue) : Prop where
  isAccepted : ¬ y.isAccepted
  issues : y.issues = is
  value? : y.value? = none
  valueOr {m : Type → Type} [Monad m] (default : Unit → m α) : y.valueOr default = default ()
  value : ∃ f, y.value = .error f ∧ (Issue.rejection is = .ok f ∨ Issue.rejection is = .error f)
  value_of_told : (∀ i ∈ is, i.IsTold) → ∃ summary, y.value = .error (.rejected is summary)
  toValidated : ∃ h, y.toValidated = .invalid is h
  toData : y.toData = (is.mapM Issue.toData).map fun es =>
    .mapping [(.text "valid", .bool false), (.text "errors", .list es)]
  toData_of_locatable : (∀ i ∈ is, i.IsLocatable) → ∃ es, is.mapM Issue.toData = .ok es ∧
    y.toData = .ok (.mapping [(.text "valid", .bool false), (.text "errors", .list es)])
  ofValidated (v : α) : Verdict.ofValidated v y.toValidated = y

section

variable {is : List Issue}

theorem accepts_accepted (b : α) : (accepted b).Accepts b where
  isAccepted := rfl
  issues := rfl
  value? := rfl
  valueOr _ := rfl
  value := rfl
  toValidated := rfl
  toData := rfl
  ofValidated := rfl

theorem value_rejected (h : is ≠ []) :
    (rejected is h : Verdict α).value = Issue.rejection is >>= throw := rfl

theorem toData_rejected (h : is ≠ []) : (rejected is h : Verdict α).toData =
    (is.mapM Issue.toData).map fun es =>
      .mapping [(.text "valid", .bool false), (.text "errors", .list es)] := rfl

theorem rejects_rejected (h : is ≠ []) : (rejected is h : Verdict α).Rejects is where
  isAccepted := Bool.false_ne_true
  issues := rfl
  value? := rfl
  valueOr _ := rfl
  value := by
    rw [value_rejected]
    cases hf : Issue.rejection is with
    | ok f => exact ⟨f, rfl, .inl rfl⟩
    | error f => exact ⟨f, rfl, .inr rfl⟩
  value_of_told htold := by
    obtain ⟨summary, hsummary⟩ := Issue.exists_rejection htold
    exact ⟨summary, by rw [value_rejected, hsummary]; rfl⟩
  toValidated := ⟨h, rfl⟩
  toData := toData_rejected h
  toData_of_locatable hloc := by
    obtain ⟨es, hes, -⟩ := Issue.mapM_of_forall (f := Issue.toData) (Q := fun _ => True)
      fun i hi => by
        obtain ⟨d, hd⟩ := Issue.exists_toData (hloc i hi)
        exact ⟨d, hd, trivial⟩
    exact ⟨es, hes, by rw [toData_rejected, hes]; rfl⟩
  ofValidated v := dif_neg h

end

/-- A stage of a pipeline, with the function that is handed in for it. -/
inductive Stage (σ ε α : Type)
  | map (f : α → Acting σ ε α)
  | andThen (f : α → Acting σ ε (Verdict α))
  | onAccepted (action : α → Acting σ ε Unit)
  | onRejected (action : List Issue → Acting σ ε Unit)

namespace Stage

def apply (x : Verdict α) : Stage σ ε α → Acting σ ε (Verdict α)
  | map f => x.map f
  | andThen f => x.andThen f
  | onAccepted action => x.onAccepted action
  | onRejected action => x.onRejected action

/-- The function of the stage does not fail. -/
def IsSafe : Stage σ ε α → Prop
  | map f => Answers f
  | andThen f => Answers f
  | onAccepted action => Answers action
  | onRejected action => Answers action

/-- What the stage does with an accepted value `a`: it calls its function on the value, which gives
the next value, unless the function is one of issues. -/
inductive Carries : Stage σ ε α → α → σ → List ε → α → σ → Prop
  | map {f : α → Acting σ ε α} {a s es b s'} (h : Gives (f a) s es b s') :
      Carries (.map f) a s es b s'
  | andThen {f : α → Acting σ ε (Verdict α)} {a s es b s'} (h : Gives (f a) s es (accepted b) s') :
      Carries (.andThen f) a s es b s'
  | onAccepted {action : α → Acting σ ε Unit} {a s es s'} (h : Gives (action a) s es () s') :
      Carries (.onAccepted action) a s es a s'
  | onRejected {action : List Issue → Acting σ ε Unit} {a s} :
      Carries (.onRejected action) a s [] a s

/-- What the stage does with the issues `is`: it calls its function on them, unless the function is
one of values. -/
inductive Handles (is : List Issue) : Stage σ ε α → σ → List ε → σ → Prop
  | onRejected {action : List Issue → Acting σ ε Unit} {s es s'}
      (h : Gives (action is) s es () s') : Handles is (.onRejected action) s es s'
  | map {f : α → Acting σ ε α} {s} : Handles is (.map f) s [] s
  | andThen {f : α → Acting σ ε (Verdict α)} {s} : Handles is (.andThen f) s [] s
  | onAccepted {action : α → Acting σ ε Unit} {s} : Handles is (.onAccepted action) s [] s

variable {s s' : σ} {es : List ε} {a b : α} {is : List Issue} {t : Stage σ ε α}

theorem Carries.gives (h : t.Carries a s es b s') :
    Gives (t.apply (accepted a)) s es (accepted b) s' := by
  cases h with
  | map h => exact h.bind_pure accepted
  | andThen h => exact h
  | onAccepted h => exact h.bind_pure fun _ => accepted a
  | onRejected => exact gives_pure _ _

theorem Handles.gives (h : t.Handles is s es s') (hne : is ≠ []) :
    Gives (t.apply (rejected is hne)) s es (rejected is hne) s' := by
  cases h with
  | onRejected h => exact h.bind_pure fun _ => rejected is hne
  | map => exact gives_pure _ _
  | andThen => exact gives_pure _ _
  | onAccepted => exact gives_pure _ _

/-- A value is carried on, or the stage is a continuation that rejects it. -/
theorem IsSafe.carries (h : t.IsSafe) (a : α) (s : σ) : (∃ es b s', t.Carries a s es b s') ∨
    ∃ f es is hne s', t = .andThen f ∧ Gives (f a) s es (rejected is hne) s' := by
  cases t with
  | map f =>
    obtain ⟨es, b, s', hf⟩ := h a s
    exact .inl ⟨es, b, s', .map hf⟩
  | andThen f =>
    obtain ⟨es, y, s', hf⟩ := h a s
    cases y with
    | accepted b => exact .inl ⟨es, b, s', .andThen hf⟩
    | rejected is hne => exact .inr ⟨f, es, is, hne, s', rfl, hf⟩
  | onAccepted action =>
    obtain ⟨es, ⟨⟩, s', haction⟩ := h a s
    exact .inl ⟨es, a, s', .onAccepted haction⟩
  | onRejected action => exact .inl ⟨[], a, s, .onRejected⟩

theorem IsSafe.handles (h : t.IsSafe) (is : List Issue) (s : σ) :
    ∃ es s', t.Handles is s es s' := by
  cases t with
  | map f => exact ⟨[], s, .map⟩
  | andThen f => exact ⟨[], s, .andThen⟩
  | onAccepted action => exact ⟨[], s, .onAccepted⟩
  | onRejected action =>
    obtain ⟨es, ⟨⟩, s', haction⟩ := h is s
    exact ⟨es, s', .onRejected haction⟩

end Stage

def pipe (ts : List (Stage σ ε α)) (x : Verdict α) : Acting σ ε (Verdict α) :=
  ts.foldlM Stage.apply x

/-- Stage after stage carries the value on, from `a` to `b`. -/
inductive Carried : List (Stage σ ε α) → α → σ → List ε → α → σ → Prop
  | nil {a s} : Carried [] a s [] a s
  | cons {t ts a s es b s' es' c s''} (ht : t.Carries a s es b s')
      (hts : Carried ts b s' es' c s'') : Carried (t :: ts) a s (es ++ es') c s''

/-- Stage after stage handles the same issues. -/
inductive Handled (is : List Issue) : List (Stage σ ε α) → σ → List ε → σ → Prop
  | nil {s} : Handled is [] s [] s
  | cons {t ts s es s' es' s''} (ht : t.Handles is s es s') (hts : Handled is ts s' es' s'') :
      Handled is (t :: ts) s (es ++ es') s''

/-- The stages end where the issues `is` are met: at the start of a pipeline that is given a
rejection, or with the first continuation that rejects the value it is called on. -/
inductive Turns (is : List Issue) : List (Stage σ ε α) → Verdict α → σ → List ε → σ → Prop
  | start {hne s} : Turns is [] (rejected is hne) s [] s
  | switch {ts a s es b s' es' hne s''} {f : α → Acting σ ε (Verdict α)}
      (hts : Carried ts a s es b s') (hf : Gives (f b) s' es' (rejected is hne) s'') :
      Turns is (ts ++ [.andThen f]) (accepted a) s (es ++ es') s''

variable {s s' s'' : σ} {es es' : List ε} {a b c : α} {is : List Issue} {t : Stage σ ε α}
  {ts us : List (Stage σ ε α)} {x y z : Verdict α}

theorem gives_pipe_cons (ht : Gives (t.apply x) s es y s')
    (hts : Gives (pipe ts y) s' es' z s'') : Gives (pipe (t :: ts) x) s (es ++ es') z s'' := by
  rw [pipe, List.foldlM_cons]
  exact ht.bind hts

theorem gives_pipe_singleton (h : Gives (t.apply x) s es y s') :
    Gives (pipe [t] x) s es y s' := by
  rw [← List.append_nil es]
  exact gives_pipe_cons h (gives_pure y s')

theorem gives_pipe_append (hts : Gives (pipe ts x) s es y s')
    (hus : Gives (pipe us y) s' es' z s'') : Gives (pipe (ts ++ us) x) s (es ++ es') z s'' := by
  rw [pipe, List.foldlM_append]
  exact hts.bind hus

theorem Carried.gives_pipe (h : Carried ts a s es b s') :
    Gives (pipe ts (accepted a)) s es (accepted b) s' := by
  induction h with
  | nil => exact gives_pure _ _
  | cons ht _ ih => exact gives_pipe_cons ht.gives ih

theorem Handled.gives_pipe (h : Handled is ts s es s') (hne : is ≠ []) :
    Gives (pipe ts (rejected is hne)) s es (rejected is hne) s' := by
  induction h with
  | nil => exact gives_pure _ _
  | cons ht _ ih => exact gives_pipe_cons (ht.gives hne) ih

theorem Turns.ne_nil (h : Turns is ts x s es s') : is ≠ [] := by
  cases h with
  | start => assumption
  | switch => assumption

theorem Turns.gives_pipe (h : Turns is ts x s es s') :
    Gives (pipe ts x) s es (rejected is h.ne_nil) s' := by
  cases h with
  | start => exact gives_pure _ _
  | switch hts hf => exact gives_pipe_append hts.gives_pipe (gives_pipe_singleton hf)

theorem Turns.gives_pipe_append (h : Turns is ts x s es s') (hus : Handled is us s' es' s'') :
    Gives (pipe (ts ++ us) x) s (es ++ es') (rejected is h.ne_nil) s'' :=
  Verdict.gives_pipe_append h.gives_pipe (hus.gives_pipe h.ne_nil)

theorem Turns.cons (ht : t.Carries a s es b s') (h : Turns is ts (accepted b) s' es' s'') :
    Turns is (t :: ts) (accepted a) s (es ++ es') s'' := by
  cases h with
  | switch hts hf =>
    rw [← List.append_assoc]
    exact .switch (.cons ht hts) hf

theorem Carried.of_append (h : Carried (ts ++ us) a s es c s'') :
    ∃ es₁ b s', Carried ts a s es₁ b s' := by
  induction ts generalizing a s es with
  | nil => exact ⟨[], a, s, .nil⟩
  | cons t ts ih =>
    cases h with
    | cons ht hts =>
      obtain ⟨es₁, b, s', hts⟩ := ih hts
      exact ⟨_, b, s', .cons ht hts⟩

theorem Handled.of_append (h : Handled is (ts ++ us) s es s'') :
    ∃ es₁ s', Handled is ts s es₁ s' := by
  induction ts generalizing s es with
  | nil => exact ⟨[], s, .nil⟩
  | cons t ts ih =>
    cases h with
    | cons ht hts =>
      obtain ⟨es₁, s', hts⟩ := ih hts
      exact ⟨_, s', .cons ht hts⟩

theorem Carried.gives_of_prefix (h : Carried ts a s es b s') (hus : us <+: ts) :
    ∃ es c s', Gives (pipe us (accepted a)) s es (accepted c) s' := by
  obtain ⟨rest, rfl⟩ := hus
  obtain ⟨es₁, c, s₁, hus⟩ := h.of_append
  exact ⟨es₁, c, s₁, hus.gives_pipe⟩

theorem Turns.gives_of_prefix (h : Turns is ts x s es s') (hus : us <+: ts) (hne : us ≠ ts) :
    ∃ es c s', Gives (pipe us x) s es (accepted c) s' := by
  cases h with
  | start => exact absurd (List.prefix_nil.mp hus) hne
  | switch hts hf => exact hts.gives_of_prefix ((List.prefix_concat_iff.mp hus).resolve_left hne)

theorem Turns.gives_append_of_prefix (h : Turns is ts x s es s') (hus : Handled is us s' es' s'')
    {vs : List (Stage σ ε α)} (hvs : vs <+: us) :
    ∃ es s', Gives (pipe (ts ++ vs) x) s es (rejected is h.ne_nil) s' := by
  obtain ⟨rest, rfl⟩ := hvs
  obtain ⟨es₁, s₁, hvs⟩ := hus.of_append
  exact ⟨_, s₁, h.gives_pipe_append hvs⟩

theorem exists_handled (hts : ∀ t ∈ ts, t.IsSafe) (is : List Issue) (s : σ) :
    ∃ es s', Handled is ts s es s' := by
  induction ts generalizing s with
  | nil => exact ⟨[], s, .nil⟩
  | cons t rest ih =>
    obtain ⟨ht, hrest⟩ := List.forall_mem_cons.mp hts
    obtain ⟨es, s', ht⟩ := ht.handles is s
    obtain ⟨es', s'', hrest⟩ := ih hrest s'
    exact ⟨es ++ es', s'', .cons ht hrest⟩

/-- A value is carried on to the end, or up to a continuation that rejects. -/
theorem carried_or_turns (hts : ∀ t ∈ ts, t.IsSafe) (a : α) (s : σ) :
    (∃ es b s', Carried ts a s es b s') ∨
      ∃ us rest is es s', ts = us ++ rest ∧ Turns is us (accepted a) s es s' := by
  induction ts generalizing a s with
  | nil => exact .inl ⟨[], a, s, .nil⟩
  | cons t rest ih =>
    obtain ⟨ht, hrest⟩ := List.forall_mem_cons.mp hts
    rcases ht.carries a s with ⟨es, b, s', ht⟩ | ⟨f, es, is, hne, s', rfl, hf⟩
    · rcases ih hrest b s' with ⟨es', c, s'', hcarried⟩ | ⟨us, vs, is, es', s'', rfl, hturns⟩
      · exact .inl ⟨es ++ es', c, s'', .cons ht hcarried⟩
      · exact .inr ⟨t :: us, vs, is, es ++ es', s'', rfl, hturns.cons ht⟩
    · exact .inr ⟨[.andThen f], rest, is, es, s', rfl, .switch .nil hf⟩

/-- A pipeline whose functions do not fail runs on two tracks. Either the value that it is given is
carried to its end, or issues are met at some point of it. Up to that point a value is carried;
behind it every stage handles the issues, and they stay. What is read off the last verdict agrees
with the track on which the pipeline ends. -/
theorem pipe_on_two_tracks (hts : ∀ t ∈ ts, t.IsSafe) (x : Verdict α) (s : σ) :
    ∃ es y s', Gives (pipe ts x) s es y s' ∧
      ((∃ a b, x = accepted a ∧ Carried ts a s es b s' ∧ y.Accepts b ∧
          ∀ us, us <+: ts → ∃ es c s', Gives (pipe us x) s es (accepted c) s') ∨
        ∃ before after is hne es₁ s₁ es₂, ts = before ++ after ∧ es = es₁ ++ es₂ ∧
          Turns is before x s es₁ s₁ ∧ Handled is after s₁ es₂ s' ∧ y.Rejects is ∧
          (∀ us, us <+: before → us ≠ before → ∃ es c s', Gives (pipe us x) s es (accepted c) s') ∧
          ∀ us, us <+: after →
            ∃ es s', Gives (pipe (before ++ us) x) s es (rejected is hne) s') := by
  have hcases : (∃ a es b s', x = accepted a ∧ Carried ts a s es b s') ∨
      ∃ us rest is es s', ts = us ++ rest ∧ Turns is us x s es s' := by
    cases x with
    | rejected is hne => exact .inr ⟨[], ts, is, [], s, rfl, .start⟩
    | accepted a =>
      refine (carried_or_turns hts a s).imp_left ?_
      rintro ⟨es, b, s', h⟩
      exact ⟨a, es, b, s', rfl, h⟩
  rcases hcases with ⟨a, es, b, s', rfl, h⟩ | ⟨us, rest, is, es, s₁, rfl, h⟩
  · exact ⟨es, accepted b, s', h.gives_pipe, .inl ⟨a, b, rfl, h, accepts_accepted b,
      fun us hus => h.gives_of_prefix hus⟩⟩
  · obtain ⟨es₂, s', hrest⟩ := exists_handled (List.forall_mem_append.mp hts).2 is s₁
    refine ⟨es ++ es₂, _, s', h.gives_pipe_append hrest, .inr ⟨us, rest, is, h.ne_nil, es, s₁, es₂,
      rfl, rfl, h, hrest, rejects_rejected _, ?_, ?_⟩⟩
    · exact fun vs hvs hne => h.gives_of_prefix hvs hne
    · exact fun vs hvs => h.gives_append_of_prefix hrest hvs

def sampleIssue : Issue := ⟨∅, .text "is late", .null, .null⟩

def sampleCall {β : Type} (label : String) (b : β) : Acting Nat String β :=
  fun calls => ⟨[label], .ok (b, calls + 1)⟩

/-- The value is listed with the number of calls before, and refused then. -/
def sampleStages : List (Stage Nat String Data) :=
  [.onRejected fun _ => sampleCall "too early" (),
    .map fun v calls => sampleCall "listed" (.list [v, .int calls]) calls,
    .onAccepted fun _ => sampleCall "seen" (),
    .andThen fun _ => sampleCall "refused" (rejected [sampleIssue] (List.cons_ne_nil _ _)),
    .map fun v => sampleCall "too late" v,
    .onRejected fun _ => sampleCall "reported" ()]

theorem pipe_sampleStages : (∀ t ∈ sampleStages, t.IsSafe) ∧
    ∃ before after es₁ s₁ es₂, sampleStages = before ++ after ∧
      es₁ ++ es₂ = ["listed", "seen", "refused", "reported"] ∧
      Turns [sampleIssue] before (accepted (.int 7)) 0 es₁ s₁ ∧
      Handled [sampleIssue] after s₁ es₂ 4 := by
  have hsafe : ∀ t ∈ sampleStages, t.IsSafe := by
    unfold sampleStages
    simp only [List.forall_mem_cons]
    exact ⟨fun _ _ => ⟨_, _, _, rfl⟩, fun _ _ => ⟨_, _, _, rfl⟩, fun _ _ => ⟨_, _, _, rfl⟩,
      fun _ _ => ⟨_, _, _, rfl⟩, fun _ _ => ⟨_, _, _, rfl⟩, fun _ _ => ⟨_, _, _, rfl⟩, nofun⟩
  have hrun : Gives (pipe sampleStages (accepted (.int 7))) 0
      ["listed", "seen", "refused", "reported"]
      (rejected [sampleIssue] (List.cons_ne_nil _ _)) 4 := rfl
  obtain ⟨es, y, s', hgives, hcases⟩ := pipe_on_two_tracks hsafe (accepted (.int 7)) 0
  obtain ⟨rfl, rfl, rfl⟩ := hgives.unique hrun
  rcases hcases with ⟨a, b, -, -, hy, -⟩ |
    ⟨before, after, is, hne, es₁, s₁, es₂, hts, hes, hturns, hhandled, hy, -, -⟩
  · exact absurd hy.isAccepted Bool.false_ne_true
  · obtain rfl : [sampleIssue] = is := hy.issues
    exact ⟨hsafe, before, after, es₁, s₁, es₂, hts, hes.symm, hturns, hhandled⟩

end Verdict

end Assay
