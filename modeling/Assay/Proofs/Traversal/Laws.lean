import Assay.Proofs.Traversal

/-! # Running a list of visits

Running a list of visits distributes over its parts, and what it records and
finds is read off the single visits up to the first that ends with a fault.
A change of the visits one by one is a change of the run.
-/

namespace Assay

namespace Visit

@[simp] theorem runAll_nil : runAll [] = pure [] := rfl

theorem runAll_cons (x : Visit) (rest : List Visit) :
    runAll (x :: rest) = (do
      let is ← x.run
      let js ← runAll rest
      pure (is ++ js)) := rfl

theorem runAll_append (xs ys : List Visit) :
    runAll (xs ++ ys) = (do
      let is ← runAll xs
      let js ← runAll ys
      pure (is ++ js)) := by
  induction xs with
  | nil => simp
  | cons x xs ih =>
    simp only [List.cons_append, runAll_cons, ih, bind_assoc, pure_bind, List.append_assoc]

theorem runAll_singleton (x : Visit) : runAll [x] = x.run := by
  simp [runAll_cons]

theorem runAll_checks_append (ss : List Site) (xs : List Visit) :
    runAll (ss.map .check ++ xs) = (do
      let is ← runAll (ss.map .check)
      let js ← runAll xs
      pure (is ++ js)) :=
  runAll_append _ _

theorem runAll_declares (block : List Step) :
    runAll (block.map fun t => .declare t.made) = (do
      forM block Step.made
      pure []) := by
  induction block with
  | nil => rfl
  | cons t rest ih => simp [runAll_cons, run, ih]

theorem runAll_declares_append (block : List Step) (xs : List Visit) :
    runAll (block.map (fun t => .declare t.made) ++ xs) = (do
      forM block Step.made
      runAll xs) := by
  simp [runAll_append, runAll_declares]

theorem runAll_ofRead (owner : Option Data) (found : Run Data) (visits : Data → List Visit) :
    runAll (ofRead owner found visits) = (do
      let v ← found
      runAll (visits v)) := by
  unfold ofRead
  cases h : found.result with
  | ok v =>
    simp only [runAll_cons, run, bind_assoc, pure_bind, List.nil_append, bind_pure]
    rw [Traced.bind_of_ok h, Traced.bind_of_ok h]
  | error e =>
    simp only [runAll_cons, run, bind_assoc, pure_bind]
    rw [Traced.bind_of_error h, Traced.bind_of_error h]

theorem runAll_ofItems (owner : Data) (visits : Nat → Data → List Visit) :
    runAll (ofItems owner visits) = (do
      let vs ← Traced.ofExcept owner.items
      runAll (vs.zipIdx.flatMap fun e => visits e.2 e.1)) := by
  unfold ofItems
  cases h : owner.items with
  | ok vs => simp [runAll_cons, run, h]
  | error e => simp only [runAll_cons, run, h, Traced.ofExcept_error_bind]

theorem runAll_map {g : Visit → Visit} {h : Issue → Issue}
    (hg : ∀ x : Visit, (g x).run = (do pure ((← x.run).map h))) (xs : List Visit) :
    runAll (xs.map g) = (do pure ((← runAll xs).map h)) := by
  induction xs with
  | nil => simp
  | cons x xs ih => simp [runAll_cons, hg, ih]

theorem map_ofRead {g : Visit → Visit} {owner : Option Data} {found : Run Data}
    (hg : g (.read owner found) = .read owner found) (visits : Data → List Visit) :
    (ofRead owner found visits).map g = ofRead owner found fun v => (visits v).map g := by
  unfold ofRead
  rw [List.map_cons, hg]
  cases found.result <;> rfl

theorem map_ofItems {g : Visit → Visit} {owner : Data} (hg : g (.list owner) = .list owner)
    (visits : Nat → Data → List Visit) :
    (ofItems owner visits).map g = ofItems owner fun i v => (visits i v).map g := by
  unfold ofItems
  rw [List.map_cons, hg]
  cases owner.items with
  | ok vs => simp [List.map_flatMap]
  | error e => rfl

theorem run_under (path : Path) (x : Visit) :
    (x.under path).run = (do pure ((← x.run).map (Scope.reparent path))) := by
  cases x <;> simp [under, run, Site.under]

/-- Moving every visit under a path moves every issue that is found. -/
theorem runAll_under (path : Path) (xs : List Visit) :
    runAll (xs.map (under path)) = (do pure ((← runAll xs).map (Scope.reparent path))) :=
  runAll_map (run_under path) xs

variable {x : Visit}

theorem mem_ofRead {owner : Option Data} {found : Run Data} {visits : Data → List Visit} :
    x ∈ ofRead owner found visits ↔
      x = .read owner found ∨ ∃ w, found.result = .ok w ∧ x ∈ visits w := by
  unfold ofRead
  cases found.result <;> simp

theorem mem_ofItems {owner : Data} {visits : Nat → Data → List Visit} :
    x ∈ ofItems owner visits ↔ x = .list owner ∨
      ∃ vs, owner.items = .ok vs ∧ ∃ i u, vs[i]? = some u ∧ x ∈ visits i u := by
  unfold ofItems
  cases owner.items with
  | error e => simp
  | ok vs =>
    simp only [List.mem_cons, List.mem_flatMap, Prod.exists, List.mem_zipIdx_iff_getElem?,
      Except.ok.injEq, exists_eq_left']
    constructor
    · rintro (h | ⟨u, i, hu, hx⟩)
      · exact .inl h
      · exact .inr ⟨i, u, hu, hx⟩
    · rintro (h | ⟨i, u, hu, hx⟩)
      · exact .inl h
      · exact .inr ⟨u, i, hu, hx⟩

/-- What a visit finds, which is nothing when it ends with a fault. -/
def issues (x : Visit) : List Issue :=
  match x.run.result with
  | .ok is => is
  | .error _ => []

def Completes (x : Visit) : Prop := ∃ is, x.run.result = .ok is

theorem Completes.result_eq {x : Visit} (h : x.Completes) : x.run.result = .ok x.issues := by
  obtain ⟨is, his⟩ := h
  simp [issues, his]

theorem runAll_of_completes {xs : List Visit} (h : ∀ x ∈ xs, x.Completes) :
    runAll xs = ⟨xs.flatMap (·.run.events), .ok (xs.flatMap issues)⟩ := by
  induction xs with
  | nil => rfl
  | cons x xs ih =>
    have hx := (h x List.mem_cons_self).result_eq
    have hrest := ih fun y hy => h y (List.mem_cons_of_mem x hy)
    rw [runAll_cons, Traced.bind_of_ok hx, hrest, Traced.bind_of_ok (a := xs.flatMap issues) rfl]
    simp

theorem runAll_of_fault {before : List Visit} {x : Visit} {f : Fault} (after : List Visit)
    (h : ∀ y ∈ before, y.Completes) (hx : x.run.result = .error f) :
    runAll (before ++ x :: after) = ⟨(before ++ [x]).flatMap (·.run.events), .error f⟩ := by
  rw [runAll_append, runAll_of_completes h, Traced.bind_of_ok rfl, runAll_cons,
    Traced.bind_of_error hx, Traced.bind_of_error rfl]
  simp

theorem completes_or_fault (xs : List Visit) :
    (∀ x ∈ xs, x.Completes) ∨ ∃ before x after f, xs = before ++ x :: after ∧
      (∀ y ∈ before, y.Completes) ∧ x.run.result = .error f := by
  induction xs with
  | nil => simp
  | cons x xs ih =>
    cases hx : x.run.result with
    | error f => exact Or.inr ⟨[], x, xs, f, rfl, by simp, hx⟩
    | ok is =>
      rcases ih with h | ⟨before, y, after, f, rfl, hb, hy⟩
      · exact Or.inl (List.forall_mem_cons.mpr ⟨⟨is, hx⟩, h⟩)
      · exact Or.inr ⟨x :: before, y, after, f, rfl, List.forall_mem_cons.mpr ⟨⟨is, hx⟩, hb⟩, hy⟩

/-- A run ends with a value exactly when all of its visits complete. -/
theorem runAll_eq_ok {xs : List Visit} {is : List Issue} :
    (runAll xs).result = .ok is ↔ (∀ x ∈ xs, x.Completes) ∧ is = xs.flatMap issues := by
  constructor
  · intro h
    rcases completes_or_fault xs with hc | ⟨before, x, after, f, rfl, hb, hx⟩
    · rw [runAll_of_completes hc, Except.ok.injEq] at h
      exact ⟨hc, h.symm⟩
    · rw [runAll_of_fault after hb hx] at h
      cases h
  · rintro ⟨hc, rfl⟩
    rw [runAll_of_completes hc]

def Only (Q : Issue → Prop) (x : Visit) : Prop :=
  ∀ is, x.run.result = .ok is → ∀ i ∈ is, Q i

section

variable {Q R : Issue → Prop} {x : Visit}

theorem only_of_silent (h : ∀ is, x.run.result = .ok is → is = []) : x.Only Q := by
  intro is his i hi
  rw [h is his] at hi
  cases hi

theorem only_declare (made : Run Unit) : (declare made).Only Q :=
  only_of_silent fun is h => by
    obtain ⟨_, -, h⟩ := Traced.result_bind_eq_ok.mp h
    cases h
    rfl

theorem only_read (owner : Option Data) (found : Run Data) : (read owner found).Only Q :=
  only_of_silent fun is h => by
    obtain ⟨_, -, h⟩ := Traced.result_bind_eq_ok.mp h
    cases h
    rfl

theorem only_list (owner : Data) : (list owner).Only Q :=
  only_of_silent fun is h => by
    obtain ⟨_, -, h⟩ := Traced.result_bind_eq_ok.mp h
    cases h
    rfl

theorem Only.under {path : Path} (h : x.Only Q) (hQ : ∀ i, Q i → R (Scope.reparent path i)) :
    (x.under path).Only R := by
  intro is his i hi
  rw [run_under] at his
  obtain ⟨js, hjs, his⟩ := Traced.result_bind_eq_ok.mp his
  cases his
  obtain ⟨j, hj, rfl⟩ := List.mem_map.mp hi
  exact hQ j (h js hjs j hj)

theorem only_runAll {xs : List Visit} (h : ∀ x ∈ xs, x.Only Q) {is : List Issue}
    (his : (runAll xs).result = .ok is) : ∀ i ∈ is, Q i := by
  obtain ⟨hc, rfl⟩ := runAll_eq_ok.mp his
  intro i hi
  obtain ⟨x, hx, hi⟩ := List.mem_flatMap.mp hi
  exact h x hx x.issues (hc x hx).result_eq i hi

end

theorem runAll_eq_ok_nil {xs : List Visit} :
    (runAll xs).result = .ok [] ↔ ∀ x ∈ xs, x.run.result = .ok [] := by
  rw [runAll_eq_ok, eq_comm, List.flatMap_eq_nil_iff]
  constructor
  · rintro ⟨hc, hn⟩ x hx
    rw [(hc x hx).result_eq, hn x hx]
  · intro h
    exact ⟨fun x hx => ⟨[], h x hx⟩, fun x hx => by simp [issues, h x hx]⟩

end Visit

theorem Rule.of_mem_ofIssue {i j : Issue} {p : Predicate} {v : Data} {x : Validated Data}
    (h : ((ofIssue i p).run v).result = .ok x) (hj : j ∈ x.issues) :
    (p v).result = .ok false ∧ j = i := by
  obtain ⟨b, hb, h⟩ := Traced.result_bind_eq_ok.mp h
  cases b with
  | true => cases h; cases hj
  | false => cases h; exact ⟨hb, List.mem_singleton.mp hj⟩

namespace Site

variable {path : Path} {label v : Data} {is : List Issue} {i : Issue}

theorem of_mem_ofPredicate {message code tag : Data} {p : Predicate}
    (h : (ofPredicate path label v message code tag p).findings.result = .ok is) (hi : i ∈ is) :
    (p v).result = .ok false ∧ i = ⟨path, message, code, if label.isNull then tag else label⟩ := by
  obtain ⟨b, hb, h⟩ := Traced.result_bind_eq_ok.mp h
  cases b with
  | true => cases h; cases hi
  | false => cases h; exact ⟨hb, List.mem_singleton.mp hi⟩

theorem of_mem_ofRule {r : Rule} (h : (ofRule path label v r).findings.result = .ok is)
    (hi : i ∈ is) : ∃ x, (r.run v).result = .ok x ∧ ∃ j ∈ x.issues, i = stamp path label j := by
  obtain ⟨x, hx, h⟩ := Traced.result_bind_eq_ok.mp h
  cases h
  obtain ⟨j, hj, rfl⟩ := List.mem_map.mp hi
  exact ⟨x, hx, j, hj, rfl⟩

theorem of_mem_ofLinks {links : List Link}
    (h : (ofLinks path v links).findings.result = .ok is) (hi : i ∈ is) :
    ∃ l ∈ links, (l.predicate v).result = .ok false ∧ i = ⟨path, l.message, l.code, .null⟩ := by
  change (firstRefusal path v links).result = .ok is at h
  induction links with
  | nil => cases h; cases hi
  | cons l rest ih =>
    obtain ⟨b, hb, h⟩ := Traced.result_bind_eq_ok.mp h
    cases b with
    | true =>
      obtain ⟨k, hk, hfound⟩ := ih h
      exact ⟨k, List.mem_cons_of_mem l hk, hfound⟩
    | false =>
      cases h
      exact ⟨l, List.mem_cons_self, hb, List.mem_singleton.mp hi⟩

end Site

namespace Step

theorem forM_made_of_forall {block : List Step} (h : ∀ t ∈ block, t.made = pure ()) :
    forM block made = pure () := by
  induction block with
  | nil => rfl
  | cons t rest ih =>
    obtain ⟨ht, hrest⟩ := List.forall_mem_cons.mp h
    rw [List.forM_cons, ht, pure_bind, ih hrest]

theorem applyAll_append (xs ys : List Step) (s : Scope) :
    applyAll (xs ++ ys) s = applyAll xs s >>= applyAll ys := by
  induction xs generalizing s with
  | nil => rfl
  | cons t rest ih => simp only [List.cons_append, applyAll, ih, bind_assoc]

theorem innerAll_append (xs ys : List Step) (path : Path) (label v : Data) :
    innerAll (xs ++ ys) path label v = innerAll xs path label v ++ innerAll ys path label v := by
  induction xs with
  | nil => rfl
  | cons t rest ih => rw [List.cons_append, innerAll, innerAll, ih, List.append_assoc]

theorem innerAll_singleton (t : Step) (path : Path) (label v : Data) :
    innerAll [t] path label v = t.inner path label v := by
  rw [innerAll, innerAll, List.append_nil]

end Step

theorem Declaration.applyAll_append (xs ys : List Declaration) (w : Validator) :
    Declaration.applyAll (xs ++ ys) w = Declaration.applyAll xs w >>= Declaration.applyAll ys := by
  induction xs generalizing w with
  | nil => rfl
  | cons d rest ih => simp only [List.cons_append, Declaration.applyAll, ih, bind_assoc]

theorem Declaration.visitsAll_append (xs ys : List Declaration) (v : Data) :
    Declaration.visitsAll (xs ++ ys) v =
      Declaration.visitsAll xs v ++ Declaration.visitsAll ys v := by
  induction xs with
  | nil => rfl
  | cons d rest ih =>
    rw [List.cons_append, Declaration.visitsAll, ih, Declaration.visitsAll, List.append_assoc]

end Assay
