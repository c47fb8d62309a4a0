import Assay.Proofs.Relocation

/-! # Items of lists

A list is checked item by item, each item at the path of the list followed by
its position. Where the block leaves the places to its scopes an item is found
wanting in the same way at every position, so that the issues of a list are
those of its items, moved to where the items stand.
-/

namespace Assay

open Visit

def Segment.advanced (n : Nat) : Segment → Segment
  | index i => index (i + n)
  | s => s

namespace Path

/-- The path with the position right behind the base moved on by `n`. -/
def advanced (base : Path) (n : Nat) (p : Path) : Path :=
  ⟨p.segments.take base.length ++ (p.segments.drop base.length).modifyHead (Segment.advanced n)⟩

/-- The path goes on with the position right behind the base. -/
def Enters (base : Path) (i : Nat) (p : Path) : Prop := ∃ q, p = (base.index i).join q

variable {base p : Path} {i j : Nat}

theorem segments_index_join (base : Path) (i : Nat) (q : Path) :
    ((base.index i).join q).segments = base.segments ++ .index i :: q.segments :=
  List.append_assoc _ _ _

theorem Enters.unique (h : base.Enters i p) (h' : base.Enters j p) : i = j := by
  obtain ⟨q, rfl⟩ := h
  obtain ⟨r, hr⟩ := h'
  have hsegments := congrArg segments hr
  rw [segments_index_join, segments_index_join] at hsegments
  have hheads := List.append_cancel_left hsegments
  exact Segment.index.inj (List.cons.inj hheads).1

theorem advanced_index_join (base : Path) (n i : Nat) (q : Path) :
    base.advanced n ((base.index i).join q) = (base.index (i + n)).join q := by
  unfold advanced
  rw [segments_index_join, length, List.take_left, List.drop_left]
  exact congrArg mk (segments_index_join base (i + n) q).symm

end Path

def Issue.advanced (base : Path) (n : Nat) (i : Issue) : Issue :=
  i.withPath (base.advanced n i.path)

namespace Step

/-- Checking the value by itself, as the block does at the empty path, gives an outcome. -/
def Finishes (block : List Step) (v : Data) : Prop :=
  ∃ is, (runAll (visits block ∅ .null v)).result = .ok is

/-- What the block finds on the value by itself. -/
def findings (block : List Step) (v : Data) : List Issue :=
  match (runAll (visits block ∅ .null v)).result with
  | .ok is => is
  | .error _ => []

/-- What the block finds on items of a list that stand from position `n` on. -/
def remarks (block : List Step) (base : Path) (n : Nat) : List Data → List Issue
  | [] => []
  | v :: rest =>
    (findings block v).map (Scope.reparent (base.index n)) ++ remarks block base (n + 1) rest

section

variable {block : List Step} {base : Path} {n : Nat} {v : Data} {xs ys : List Data} {i : Issue}

theorem runAll_visits_eq_ok (h : Unplaced block) (path : Path) {is : List Issue} :
    (runAll (visits block path .null v)).result = .ok is ↔
      Finishes block v ∧ is = (findings block v).map (Scope.reparent path) := by
  have hjoin := visits_join h path ∅ .null v
  rw [Path.join_empty] at hjoin
  rw [hjoin, runAll_under, Traced.result_bind_pure_eq_ok]
  unfold Finishes findings
  cases (runAll (visits block ∅ .null v)).result with
  | ok js => simp
  | error e => simp

/-- Checking items completes exactly when each of them can be checked by itself. -/
theorem runAll_items_eq_ok (h : Unplaced block) {is : List Issue} :
    (runAll ((xs.zipIdx n).flatMap fun e => visits block (base.index e.2) .null e.1)).result =
        .ok is ↔
      (∀ v ∈ xs, Finishes block v) ∧ is = remarks block base n xs := by
  induction xs generalizing n is with
  | nil => simp [remarks, eq_comm]
  | cons v rest ih =>
    rw [List.zipIdx_cons, List.flatMap_cons, runAll_append, Traced.result_bind_eq_ok,
      List.forall_mem_cons, remarks]
    simp only [Traced.result_bind_pure_eq_ok, runAll_visits_eq_ok h, ih]
    constructor
    · rintro ⟨_, ⟨hv, rfl⟩, _, ⟨hrest, rfl⟩, rfl⟩
      exact ⟨⟨hv, hrest⟩, rfl⟩
    · rintro ⟨⟨hv, hrest⟩, rfl⟩
      exact ⟨_, ⟨hv, rfl⟩, _, ⟨hrest, rfl⟩, rfl⟩

theorem remarks_append (block : List Step) (base : Path) (n : Nat) (xs ys : List Data) :
    remarks block base n (xs ++ ys) =
      remarks block base n xs ++ remarks block base (n + xs.length) ys := by
  induction xs generalizing n with
  | nil => rfl
  | cons v rest ih =>
    rw [List.cons_append, remarks, remarks, ih, List.append_assoc, List.length_cons,
      Nat.add_right_comm, Nat.add_assoc]

theorem advanced_reparent (base : Path) (k n : Nat) (i : Issue) :
    (Scope.reparent (base.index n) i).advanced base k = Scope.reparent (base.index (n + k)) i := by
  simp only [Issue.advanced, Scope.reparent, Issue.withPath, Path.advanced_index_join]

theorem remarks_add (block : List Step) (base : Path) (n k : Nat) (xs : List Data) :
    remarks block base (n + k) xs = (remarks block base n xs).map (Issue.advanced base k) := by
  induction xs generalizing n with
  | nil => rfl
  | cons v rest ih =>
    rw [remarks, remarks, Nat.add_right_comm, ih, List.map_append, List.map_map]
    congr 2
    exact funext fun i => (advanced_reparent base k n i).symm

theorem enters_of_mem_map_reparent {is : List Issue}
    (h : i ∈ is.map (Scope.reparent (base.index n))) : base.Enters n i.path := by
  obtain ⟨j, -, rfl⟩ := List.mem_map.mp h
  exact ⟨j.path, rfl⟩

theorem enters_of_mem_remarks (h : i ∈ remarks block base n xs) :
    ∃ k, n ≤ k ∧ k < n + xs.length ∧ base.Enters k i.path := by
  induction xs generalizing n with
  | nil => cases h
  | cons v rest ih =>
    rcases List.mem_append.mp h with h | h
    · exact ⟨n, Nat.le_refl n, by simp, enters_of_mem_map_reparent h⟩
    · obtain ⟨k, hle, hlt, hk⟩ := ih h
      exact ⟨k, by omega, by rw [List.length_cons]; omega, hk⟩

/-- The second issue does not stand at an earlier position than the first one. -/
def Ascends (base : Path) (i j : Issue) : Prop :=
  ∀ m n, base.Enters m i.path → base.Enters n j.path → m ≤ n

theorem pairwise_ascends_remarks (block : List Step) (base : Path) (n : Nat) (xs : List Data) :
    (remarks block base n xs).Pairwise (Ascends base) := by
  induction xs generalizing n with
  | nil => exact .nil
  | cons v rest ih =>
    refine List.pairwise_append.mpr ⟨?_, ih (n + 1), ?_⟩
    · refine List.pairwise_of_forall_mem_list fun i hi j hj k m hk hm => ?_
      obtain rfl := hk.unique (enters_of_mem_map_reparent hi)
      exact Nat.le_of_eq (hm.unique (enters_of_mem_map_reparent hj)).symm
    · intro i hi j hj k m hk hm
      obtain ⟨l, hle, -, hl⟩ := enters_of_mem_remarks hj
      rw [hk.unique (enters_of_mem_map_reparent hi), hm.unique hl]
      omega

/-- Another item at a position leaves alone what is found at the others. -/
theorem exists_remarks_set (block : List Step) (base : Path) {k : Nat} (hk : k < xs.length)
    (v : Data) : ∃ before w after,
      remarks block base 0 xs =
        before ++ (findings block w).map (Scope.reparent (base.index k)) ++ after ∧
      remarks block base 0 (xs.set k v) =
        before ++ (findings block v).map (Scope.reparent (base.index k)) ++ after ∧
      ∀ i ∈ before ++ after, ¬ base.Enters k i.path := by
  obtain ⟨before, after, hsplit, rfl, hset⟩ : ∃ before after, xs = before ++ xs[k] :: after ∧
    before.length = k ∧ xs.set k v = before ++ v :: after := List.exists_of_set hk
  generalize xs[before.length] = w at hsplit
  refine ⟨remarks block base 0 before, w, remarks block base (before.length + 1) after, ?_, ?_, ?_⟩
  · rw [hsplit, remarks_append, remarks, Nat.zero_add, List.append_assoc]
  · rw [hset, remarks_append, remarks, Nat.zero_add, List.append_assoc]
  · intro i hi hk
    rcases List.mem_append.mp hi with hi | hi
    · obtain ⟨j, -, hlt, hj⟩ := enters_of_mem_remarks hi
      have := hk.unique hj
      omega
    · obtain ⟨j, hle, -, hj⟩ := enters_of_mem_remarks hi
      have := hk.unique hj
      omega

theorem remarks_eq_nil : remarks block base n xs = [] ↔ ∀ v ∈ xs, findings block v = [] := by
  induction xs generalizing n with
  | nil => simp [remarks]
  | cons v rest ih => simp [remarks, ih]

end

/-- The ways to check the items of a value with a block: by a step of the value's own scope, by a
step for a field that holds the value, and by a declaration for such a field. The items are reported
behind the path `base`. -/
inductive Itemwise (block : List Step) : (base : Path) → (items : List Data) →
    Run (Validated Data) → Prop
  | items {path : Path} {label v : Data} {read : Run Data} {vs : List Data} :
    read.result = .ok v → v.items = .ok vs →
      Itemwise block path vs (evaluation [.items block] path label read)
  | fieldItems {path : Path} {label name owner v : Data} {getter : Option Getter} {read : Run Data}
      {vs : List Data} : ensureReadable name getter = .ok () → read.result = .ok owner →
    (readField name getter owner).result = .ok v → v.items = .ok vs →
      Itemwise block (path.child name) vs
        (evaluation [.fieldItems name getter block] path label read)
  | declared {title name target v : Data} {getter : Option Getter} {w : Validator} {base : Path}
      {vs : List Data} :
    (Validator.ofDeclarations title [.fieldItems name getter block]).result = .ok w →
    Validator.fieldPath name = .ok base → (readField name getter target).result = .ok v →
    v.items = .ok vs →
      Itemwise block base vs (do pure (← w.validate target).toValidated)

section

variable {block : List Step} {base : Path} {vs : List Data} {r : Run (Validated Data)}
  {x : Validated Data}

theorem result_ofRead {owner : Option Data} {found : Run Data} {v : Data}
    (h : found.result = .ok v) (f : Data → List Visit) :
    (runAll (ofRead owner found f)).result = (runAll (f v)).result := by
  rw [runAll_ofRead, Traced.bind_of_ok h]

theorem result_ofItems {v : Data} (h : v.items = .ok vs) (f : Nat → Data → List Visit) :
    (runAll (ofItems v f)).result = (runAll (vs.zipIdx.flatMap fun e => f e.2 e.1)).result := by
  rw [runAll_ofItems, h]
  rfl

theorem result_evaluation_inner {t : Step} (hmade : t.made = pure ())
    (hsites : ∀ path label v, t.sites path label v = []) {path : Path} {label v : Data}
    {read : Run Data} (hread : read.result = .ok v) :
    (evaluation [t] path label read).result =
      (do pure (.check .null (← (runAll (t.inner path label v)).result))) := by
  have hvisits : runAll (visitsRead [t] path label read) =
      runAll (ofRead none read (t.inner path label)) := by
    rw [visitsRead, runAll_declares_append, forM_made_of_forall (by simpa using hmade), pure_bind]
    simp only [List.flatMap_singleton, hsites, List.map_nil, List.nil_append, innerAll_singleton]
  rw [evaluation_eq_runAll, hvisits, Traced.result_bind, result_ofRead hread]
  rfl

/-- All ways to check a list give the outcome of its items, one after the other. -/
theorem Itemwise.result_eq (h : Itemwise block base vs r) : r.result = (do
    pure (.check .null (← (runAll (vs.zipIdx.flatMap fun e =>
      visits block (base.index e.2) .null e.1)).result))) := by
  cases h with
  | items hread hitems =>
    rw [result_evaluation_inner rfl (fun _ _ _ => rfl) hread, inner]
    exact congrArg (· >>= _) (result_ofItems hitems _)
  | @fieldItems path label name owner v getter read vs hreadable hread hfield hitems =>
    have hmade : (Step.fieldItems name getter block).made = pure () :=
      congrArg Traced.ofExcept hreadable
    rw [result_evaluation_inner hmade (fun _ _ _ => rfl) hread, inner, result_ofRead hfield]
    exact congrArg (· >>= _) (result_ofItems hitems _)
  | declared hbuilt hpath hfield hitems =>
    have hcheck : ∀ (v : Data) is, (Verdict.of v is).toValidated = .check .null is := by
      intro v is
      cases is <;> rfl
    simp only [Validator.validate_eq, Validator.issues_eq_runAll hbuilt, bind_assoc, pure_bind,
      hcheck, Traced.result_bind, Declaration.visitsAll, Declaration.visits, hpath,
      List.append_nil, result_ofRead hfield]
    exact congrArg (· >>= _) (result_ofItems hitems _)

theorem Itemwise.result_eq_ok (h : Itemwise block base vs r) (hb : Unplaced block) :
    r.result = .ok x ↔
      (∀ v ∈ vs, Finishes block v) ∧ x = .check .null (remarks block base 0 vs) := by
  rw [h.result_eq, Traced.except_bind_eq_ok]
  simp only [runAll_items_eq_ok hb]
  constructor
  · rintro ⟨_, ⟨hvs, rfl⟩, hx⟩
    cases hx
    exact ⟨hvs, rfl⟩
  · rintro ⟨hvs, rfl⟩
    exact ⟨_, ⟨hvs, rfl⟩, rfl⟩

theorem check_eq_valid (hb : Unplaced block) (path : Path) (v : Data) :
    (Scope.check (applyAll block) path .null v).result = .ok (.valid .null) ↔
      Finishes block v ∧ findings block v = [] := by
  rw [Scope.check_eq_runAll, Traced.result_bind_pure_eq_ok]
  simp only [eq_comm (a := Validated.valid _), Validated.check_eq_valid, and_true,
    runAll_visits_eq_ok hb]
  constructor
  · rintro ⟨_, ⟨hv, rfl⟩, hnil⟩
    exact ⟨hv, List.map_eq_nil_iff.mp hnil⟩
  · rintro ⟨hv, hnil⟩
    exact ⟨[], ⟨hv, by rw [hnil, List.map_nil]⟩, rfl⟩

end

/-- What is found on the items of two lists, one behind the other, is what is found on the first,
followed by what is found on the second with its positions moved on by the length of the first. The
issues of a list come in the order of the positions, another item in one place changes the issues
of that position alone, and the list is valid exactly when each of its items is, by itself and at
whatever path. All ways to check a list at the same base path agree in this. -/
theorem items_local_and_additive {block : List Step} (hb : Unplaced block) {base : Path}
    {xs ys : List Data} {r s t : Run (Validated Data)} {x y : Validated Data}
    (hr : Itemwise block base xs r) (hs : Itemwise block base ys s)
    (ht : Itemwise block base (xs ++ ys) t) (hx : r.result = .ok x) (hy : s.result = .ok y) :
    (∃ z, t.result = .ok z ∧
      z.issues = x.issues ++ y.issues.map (Issue.advanced base xs.length)) ∧
    (∀ i ∈ x.issues, ∃ k < xs.length, base.Enters k i.path) ∧
    x.issues.Pairwise (Ascends base) ∧
    (∀ k < xs.length, ∀ v u x', Itemwise block base (xs.set k v) u → u.result = .ok x' →
      ∃ before here here' after, x.issues = before ++ here ++ after ∧
        x'.issues = before ++ here' ++ after ∧ (∀ i ∈ here ++ here', base.Enters k i.path) ∧
        ∀ i ∈ before ++ after, ¬ base.Enters k i.path) ∧
    ∀ path, x = .valid .null ↔ ∀ v ∈ xs,
      (Scope.check (applyAll block) path .null v).result = .ok (.valid .null) := by
  obtain ⟨hxs, rfl⟩ := (hr.result_eq_ok hb).mp hx
  obtain ⟨hys, rfl⟩ := (hs.result_eq_ok hb).mp hy
  simp only [Validated.issues_check]
  refine ⟨⟨_, (ht.result_eq_ok hb).mpr ⟨List.forall_mem_append.mpr ⟨hxs, hys⟩, rfl⟩, ?_⟩, ?_,
    pairwise_ascends_remarks block base 0 xs, ?_, fun path => ?_⟩
  · rw [Validated.issues_check, remarks_append, remarks_add]
  · intro i hi
    obtain ⟨k, -, hk, hi⟩ := enters_of_mem_remarks hi
    exact ⟨k, by omega, hi⟩
  · intro k hk v u x' hu hx'
    obtain ⟨-, rfl⟩ := (hu.result_eq_ok hb).mp hx'
    obtain ⟨before, w, after, hbefore, hafter, hothers⟩ := exists_remarks_set block base hk v
    refine ⟨before, _, _, after, hbefore, by rw [Validated.issues_check, hafter], ?_, hothers⟩
    intro i hi
    rw [← List.map_append] at hi
    exact enters_of_mem_map_reparent hi
  · simp only [check_eq_valid hb, Validated.check_eq_valid, remarks_eq_nil, and_true]
    exact forall₂_congr fun v hv => (and_iff_right (hxs v hv)).symm

def sampleRow : List Step :=
  [.group (.text "shape") [.rule (.text "is empty") (some fun v => pure v.isTrue) .null .null],
    .items [.unlessNull [.rule (.text "is blank") (some fun v => pure v.isTrue) .null .null]]]

theorem unplaced_sampleRow : Unplaced sampleRow := by
  intro source p r hw
  simp [sampleRow, within_cons, Step.block] at hw

def sampleRows (rows : List Data) : Data := .mapping [(.text "rows", .list rows)]

/-- Rows that are checked by a scope, by the scope of their owner, and by a validator of it. -/
theorem sampleRows_local_and_additive : ∃ w x y z,
    (evaluation [.items sampleRow] (.ofName (.text "rows")) .null
      (pure (.list [.list [.text "a"], .list []]))).result = .ok x ∧
    (evaluation [.fieldItems (.text "rows") none sampleRow] ∅ .null
      (pure (sampleRows [.list [.null, .text ""]]))).result = .ok y ∧
    (Validator.ofDeclarations .null
      [.fieldItems (.text "rows") none sampleRow]).result = .ok w ∧
    (do pure (← w.validate (sampleRows
      [.list [.text "a"], .list [], .list [.null, .text ""]])).toValidated).result = .ok z ∧
    x.issues.map (fun i => (i.path, i.group)) =
      [((Path.ofName (.text "rows")).index 1, .text "shape")] ∧
    y.issues.map (fun i => (i.path, i.group)) =
      [(((Path.ofName (.text "rows")).index 0).index 1, .null)] ∧
    z.issues = x.issues ++ y.issues.map (Issue.advanced (.ofName (.text "rows")) 2) := by
  obtain ⟨w, hw⟩ : ∃ w, (Validator.ofDeclarations .null
      [.fieldItems (.text "rows") none sampleRow]).result = .ok w := ⟨_, rfl⟩
  have hfirst : Itemwise sampleRow (.ofName (.text "rows")) [.list [.text "a"], .list []]
      (evaluation [.items sampleRow] (.ofName (.text "rows")) .null
        (pure (.list [.list [.text "a"], .list []]))) := .items rfl rfl
  have hsecond : Itemwise sampleRow (Path.child ∅ (.text "rows")) [.list [.null, .text ""]]
      (evaluation [.fieldItems (.text "rows") none sampleRow] ∅ .null
        (pure (sampleRows [.list [.null, .text ""]]))) := .fieldItems rfl rfl rfl rfl
  have hboth : Itemwise sampleRow (.ofName (.text "rows"))
      [.list [.text "a"], .list [], .list [.null, .text ""]] (do
        pure (← w.validate (sampleRows
          [.list [.text "a"], .list [], .list [.null, .text ""]])).toValidated) :=
    .declared hw rfl rfl rfl
  obtain ⟨⟨z, hz, hissues⟩, -⟩ :=
    items_local_and_additive unplaced_sampleRow hfirst hsecond hboth rfl rfl
  exact ⟨w, _, _, z, rfl, rfl, hw, hz, rfl, rfl, hissues⟩

end Step

end Assay
