import Assay.Proofs.Guards.Engine
import Assay.Proofs.Extent

/-! # Rules and scopes with guards

What a rule reports has messages when its parts are as they should be, and so
has what a scope gathers from such rules. Made by constructors that may refuse,
they are the same rules and the same outcomes.
-/

namespace Assay

variable {R : Fault → Prop}

theorem bind_checked_eq {α : Type} {m : Run α} {check : α → Except Fault α}
    (h : ∀ x, m.result = .ok x → check x = .ok x) :
    (do let x ← m; (check x : Run α)) = m := by
  cases hm : m.result with
  | ok x =>
    have hchecked : (check x : Run α) = pure x := by
      rw [h x hm]
      rfl
    rw [Traced.bind_congr_of_ok hm hchecked, bind_pure]
  | error f =>
    rw [Traced.bind_of_error hm, ← hm]

theorem Issue.mapM_remake_eq_ok {is js : List Issue} :
    is.mapM Issue.remake = .ok js ↔ js = is ∧ ∀ i ∈ is, i.IsWorded := by
  induction is generalizing js with
  | nil =>
    constructor
    · intro h
      cases h
      exact ⟨rfl, nofun⟩
    · rintro ⟨rfl, -⟩
      rfl
  | cons i rest ih =>
    rw [List.mapM_cons]
    constructor
    · intro h
      obtain ⟨j, hj, h⟩ := Traced.except_bind_eq_ok.mp h
      obtain ⟨ks, hks, h⟩ := Traced.except_bind_eq_ok.mp h
      cases h
      obtain ⟨hworded, rfl⟩ := Issue.make_eq_ok.mp hj
      obtain ⟨rfl, hrest⟩ := ih.mp hks
      exact ⟨rfl, List.forall_mem_cons.mpr ⟨hworded, hrest⟩⟩
    · rintro ⟨rfl, h⟩
      obtain ⟨hi, hrest⟩ := List.forall_mem_cons.mp h
      have hremake : i.remake = .ok i := if_pos hi
      rw [hremake, ih.mpr ⟨rfl, hrest⟩]
      rfl

theorem Validated.remake_eq_ok {α : Type} {x : Validated α} :
    x.remake = .ok x ↔ ∀ i ∈ x.issues, i.IsWorded := by
  cases x with
  | valid a => exact iff_of_true rfl nofun
  | invalid is hne =>
    constructor
    · intro h
      obtain ⟨js, hjs, -⟩ := Traced.except_bind_eq_ok.mp h
      exact (Issue.mapM_remake_eq_ok.mp hjs).2
    · intro h
      exact Traced.except_bind_eq_ok.mpr ⟨is, Issue.mapM_remake_eq_ok.mpr ⟨rfl, h⟩, dif_neg hne⟩

theorem Verdict.remake_eq_ok {α : Type} {x : Verdict α} :
    x.remake = .ok x ↔ ∀ i ∈ x.issues, i.IsWorded := by
  cases x with
  | accepted a => exact iff_of_true rfl nofun
  | rejected is hne =>
    constructor
    · intro h
      obtain ⟨js, hjs, -⟩ := Traced.except_bind_eq_ok.mp h
      exact (Issue.mapM_remake_eq_ok.mp hjs).2
    · intro h
      exact Traced.except_bind_eq_ok.mpr ⟨is, Issue.mapM_remake_eq_ok.mpr ⟨rfl, h⟩, dif_neg hne⟩

theorem Path.item_eq (p : Path) (i : Nat) : p.item i = .ok (p.index i) := by
  have hless : (Data.int i).compare .less (.int 0) = .ok false := by
    rw [Data.compare_less_int, decide_eq_false (Int.not_lt.mpr (Int.natCast_nonneg i))]
  rw [item, ofItems, List.mapM_cons, Segment.ofItem, Segment.ofPosition, hless]
  rfl

namespace Rule

variable {r r' : Rule}

theorem remade_eq (h : r.Ends Issue.IsWorded R) : r.remade = r := by
  unfold remade
  congr 1
  exact funext fun v => bind_checked_eq fun x hx => Validated.remake_eq_ok.mpr (h.issues hx)

theorem Ends.located {path : Path} (h : r.Ends Issue.IsWorded R) :
    (r.located path).Ends Issue.IsWorded R := by
  refine h.mapIssues fun i hi => ?_
  unfold settle
  split <;> exact hi

theorem Ends.labelled {label : Data} (h : r.Ends Issue.IsWorded R) :
    (r.labelled label).Ends Issue.IsWorded R := h.mapIssues fun _ hi => hi

theorem Rebuilt.assembled (h : r.Rebuilt R r') : r.Assembled R fun _ => True := by
  induction h with
  | function hr => exact .function (hr.mono fun _ hi => ⟨trivial, hi⟩)
  | predicate hp made => exact .predicate trivial hp made
  | andThen _ _ hr hs => exact .andThen hr hs
  | combine _ _ hr hs => exact .combine hr hs
  | forbid _ made _ hr => exact .forbid hr made
  | located _ hr => exact .located hr trivial

/-- Constructors that refuse put a rule together as those that do not. -/
theorem Rebuilt.eq (h : r.Rebuilt R r') : r' = r := by
  -- the parts are rebuilt as they are, so that only the whole is left to be made anew
  induction h with
  | function hr => exact remade_eq hr
  | predicate hp made => exact remade_eq (Rebuilt.predicate hp made).assembled.worded
  | andThen hr hs ihr ihs =>
    rw [ihr, ihs]
    exact remade_eq (hr.andThen hs).assembled.worded
  | combine hr hs ihr ihs =>
    rw [ihr, ihs]
    exact remade_eq (hr.combine hs).assembled.worded
  | forbid hr made made' ihr =>
    subst ihr
    obtain rfl := Except.ok.inj (made.symm.trans made')
    exact remade_eq (hr.forbid made made).assembled.worded
  | located hr ihr =>
    rw [ihr]
    exact remade_eq hr.located.assembled.worded

theorem Assembled.exists_rebuilt {G : Path → Prop} (h : r.Assembled R G) :
    ∃ r', r.Rebuilt R r' := by
  induction h with
  | function hr => exact ⟨_, .function (hr.mono fun _ hi => hi.2)⟩
  | predicate _ hp made => exact ⟨_, .predicate hp made⟩
  | andThen _ _ hr hs =>
    obtain ⟨r', hr⟩ := hr
    obtain ⟨s', hs⟩ := hs
    exact ⟨_, .andThen hr hs⟩
  | combine _ _ hr hs =>
    obtain ⟨r', hr⟩ := hr
    obtain ⟨s', hs⟩ := hs
    exact ⟨_, .combine hr hs⟩
  | forbid _ made hr =>
    obtain ⟨r', hr⟩ := hr
    obtain rfl := hr.eq
    exact ⟨_, .forbid hr made made⟩
  | located _ _ hr =>
    obtain ⟨r', hr⟩ := hr
    exact ⟨_, .located hr⟩

end Rule

namespace Guarded

variable {s : Scope} {c : Scope.Configure} {path : Path}

theorem attach_eq {r : Rule} (h : r.Ends Issue.IsWorded R) : attach s r = s.attach r := by
  unfold attach Scope.attach
  rw [Rule.remade_eq h.labelled]

theorem attachLocated_eq {r : Rule} (h : r.Ends Issue.IsWorded R) (hasPredicate : Bool) :
    attachLocated s r hasPredicate = s.attachLocated r hasPredicate := by
  unfold attachLocated Scope.attachLocated
  rw [Rule.remade_eq h.located, attach_eq h.located]

theorem ends_ofPredicate {message code group : Data} {p : Predicate} {r : Rule}
    (h : Rule.ofPredicate path message p code group = .ok r) :
    r.Ends Issue.IsWorded fun _ => True :=
  (Rule.Assembled.predicate trivial (fun _ _ _ => trivial) h).worded

theorem attachInline_eq (message : Data) (p : Option Predicate) (code group : Data) :
    attachInline s message p code group = s.attachInline message p code group := by
  have huncallable (kind : String) : (Rule.uncallable kind).Ends Issue.IsWorded fun _ => True :=
    ⟨nofun, fun _ _ _ => trivial⟩
  unfold attachInline Scope.attachInline
  split
  · cases p with
    | none => rfl
    | some p =>
      dsimp only
      cases h : Rule.ofPredicate s.path message p code group with
      | error f => rfl
      | ok r =>
        have hends := ends_ofPredicate h
        exact congrArg Except.ok (by rw [Rule.remade_eq hends, attach_eq hends])
  · exact attachLocated_eq (huncallable _) _

theorem attachChain_eq (links : List Link) : attachChain s links = s.attachChain links := by
  have hlink : (fun (c : Option Rule) (l : Link) =>
      (do pure (Rule.append c (← l.rule s.path).remade) : Except Fault (Option Rule))) =
      fun c l => (do pure (Rule.append c (← l.rule s.path))) := by
    funext c l
    cases h : l.rule s.path with
    | error f => rfl
    | ok r =>
      have hremade := Rule.remade_eq (ends_ofPredicate h)
      exact congrArg (fun r => Except.ok (Rule.append c r)) hremade
  unfold attachChain Scope.attachChain Rule.chain
  exact congrArg (fun f => links.foldlM f none >>= _) hlink

theorem check_eq {label v : Data}
    (h : ∀ x, (Scope.check c path label v).result = .ok x → ∀ i ∈ x.issues, i.IsWorded) :
    check c path label v = Scope.check c path label v := by
  refine Eq.trans ?_ (bind_checked_eq fun x hx => Validated.remake_eq_ok.mpr (h x hx))
  unfold check evaluate Scope.check
  rw [bind_assoc]

section

variable (h : ∀ path v x, (Scope.check c path .null v).result = .ok x →
  ∀ i ∈ x.issues, i.IsWorded)

include h

theorem checkFrom_eq (position : Nat) (vs : List Data) :
    checkFrom c path position vs = Scope.checkFrom c path position vs := by
  induction vs generalizing position with
  | nil => rfl
  | cons v rest ih =>
    rw [checkFrom, Scope.checkFrom, Path.item_eq]
    -- the path of the item is a lifted value, which the bind passes on as it is
    change (check c (path.index position) .null v >>= _) = _
    rw [check_eq (h _ _)]
    simp only [ih]

theorem worded_of_checkFrom {position : Nat} {vs : List Data} {xs : List (Validated Data)}
    (hxs : (Scope.checkFrom c path position vs).result = .ok xs) :
    ∀ x ∈ xs, ∀ i ∈ x.issues, i.IsWorded := by
  induction vs generalizing position xs with
  | nil => cases hxs; nofun
  | cons v rest ih =>
    obtain ⟨x, hx, hxs⟩ := Traced.result_bind_eq_ok.mp hxs
    obtain ⟨ys, hys, hxs⟩ := Traced.result_bind_eq_ok.mp hxs
    cases hxs
    exact List.forall_mem_cons.mpr ⟨h _ _ x hx, ih hys⟩

theorem checkEach_eq (v : Data) : checkEach c path v = Scope.checkEach c path v := by
  have hworded : ∀ x, (Scope.checkEach c path v).result = .ok x →
      ∀ i ∈ x.issues, i.IsWorded := by
    intro x hx
    obtain ⟨vs, -, hx⟩ := Traced.result_bind_eq_ok.mp hx
    obtain ⟨xs, hxs, rfl⟩ := Traced.result_bind_pure_eq_ok.mp hx
    rw [Scope.summary_eq, Validated.issues_check]
    intro i hi
    obtain ⟨y, hy, hi⟩ := List.mem_flatMap.mp hi
    exact worded_of_checkFrom h hxs y hy i hi
  refine Eq.trans ?_ (bind_checked_eq fun x hx => Validated.remake_eq_ok.mpr (hworded x hx))
  unfold checkEach Scope.checkEach
  simp only [checkFrom_eq h, bind_assoc, pure_bind]

end

end Guarded

end Assay
