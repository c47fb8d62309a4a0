import Assay.Proofs.Configuration.Registered
import Assay.Proofs.Rule.Laws

/-! # Chains of links

There are four ways to a chain of links: appending them one after the other at
a path, extending the rule of the first one, folding the entries of a
configuration, and putting the rules of the links together in pairs. They all
lead to the same rule, which asks the links in order until one of them does
not accept the value.
-/

namespace Assay

variable {path : Path} {v : Data} {links : List Link}

namespace Link

def reporting (path : Path) (l : Link) : Rule :=
  .ofIssue ⟨path, l.message, l.code, .null⟩ l.predicate

theorem rule_eq (path : Path) (l : Link) : l.rule path = (do
    Step.ensureWorded l.message
    pure (l.reporting path)) :=
  Rule.ofPredicate_eq path l.message l.code .null l.predicate

def Accepts (l : Link) (v : Data) : Prop := (l.predicate v).result = .ok true

/-- What is recorded while the predicates are called one after the other. -/
def events (links : List Link) (v : Data) : List String :=
  links.flatMap fun l => (l.predicate v).events

/-- The links are asked from the first one on, up to the one that refuses the value or fails, and
the outcome is decided by that link. -/
inductive Asked (path : Path) (v : Data) (links : List Link) : Run (Validated Data) → Prop
  | passed : (∀ l ∈ links, l.Accepts v) → Asked path v links ⟨events links v, .ok (.valid .null)⟩
  | refused (before : List Link) (l : Link) (after : List Link) :
    links = before ++ l :: after → (∀ k ∈ before, k.Accepts v) →
    (l.predicate v).result = .ok false →
    Asked path v links
      ⟨events (before ++ [l]) v, .ok (.invalid [⟨path, l.message, l.code, .null⟩] nofun)⟩
  | failed (before : List Link) (l : Link) (after : List Link) (f : Fault) :
    links = before ++ l :: after → (∀ k ∈ before, k.Accepts v) →
    (l.predicate v).result = .error f →
    Asked path v links ⟨events (before ++ [l]) v, .error f⟩

theorem Asked.cons {l : Link} {m : Run (Validated Data)} (hl : l.Accepts v)
    (h : Asked path v links m) :
    Asked path v (l :: links) ⟨(l.predicate v).events ++ m.events, m.result⟩ := by
  cases h with
  | passed h => exact .passed (List.forall_mem_cons.mpr ⟨hl, h⟩)
  | refused before k after hlinks hbefore hk =>
    exact .refused (l :: before) k after (congrArg (l :: ·) hlinks)
      (List.forall_mem_cons.mpr ⟨hl, hbefore⟩) hk
  | failed before k after f hlinks hbefore hk =>
    exact .failed (l :: before) k after f (congrArg (l :: ·) hlinks)
      (List.forall_mem_cons.mpr ⟨hl, hbefore⟩) hk

theorem asked_firstRefusal (path : Path) (v : Data) (links : List Link) :
    Asked path v links (do pure (.check .null (← Site.firstRefusal path v links))) := by
  induction links with
  | nil => exact .passed nofun
  | cons l rest ih =>
    rw [Site.firstRefusal, bind_assoc]
    cases hl : (l.predicate v).result with
    | error f =>
      rw [Traced.bind_of_error hl]
      simpa [events] using Asked.failed [] l rest f rfl nofun hl
    | ok b =>
      rw [Traced.bind_of_ok hl]
      cases b with
      | true => exact ih.cons hl
      | false => simpa [events, Validated.check] using Asked.refused [] l rest rfl nofun hl

end Link

namespace Bracketing

/-- The rules of the links at a path, made from left to right and put together in pairs. -/
def chained (path : Path) : Bracketing Link → Except Fault Rule
  | single l => l.rule path
  | pair left right => do
    let r ← left.chained path
    pure (r.andThen (← right.chained path))

def map {α β : Type} (f : α → β) : Bracketing α → Bracketing β
  | single a => single (f a)
  | pair left right => pair (left.map f) (right.map f)

theorem leaves_map {α β : Type} (f : α → β) (t : Bracketing α) :
    (t.map f).leaves = t.leaves.map f := by
  induction t with
  | single a => rfl
  | pair left right ihl ihr => rw [map, leaves, leaves, ihl, ihr, List.map_append]

theorem chained_eq (path : Path) (t : Bracketing Link) :
    t.chained path = (do
      forM t.leaves fun l => Step.ensureWorded l.message
      pure ((t.map (Link.reporting path)).fold Rule.andThen)) := by
  induction t with
  | single l => rw [chained, Link.rule_eq]; simp [leaves, map, fold]
  | pair left right ihl ihr =>
    simp only [chained, ihl, ihr, leaves, map, fold, List.forM_append, bind_assoc, pure_bind]

end Bracketing

namespace Rule

theorem followedBy_accepting_cons (path : Path) (l : Link) (rest : List Link) :
    followedBy path accepting (l :: rest) = followedBy path (l.reporting path) rest := rfl

theorem Bare.followedBy {r : Rule} (h : r.Bare) (path : Path) (links : List Link) :
    (followedBy path r links).Bare := by
  induction links generalizing r with
  | nil => exact h
  | cons l rest ih => exact ih (h.andThen (bare_ofIssue _ _))

/-- A chain asks its links. -/
theorem asked_followedBy (path : Path) (v : Data) (links : List Link) :
    Link.Asked path v links ((followedBy path accepting links).run v) := by
  rw [(bare_accepting.followedBy path links).run_eq, reports, finds_followedBy]
  exact Link.asked_firstRefusal path v links

theorem built_chain (path : Path) (l : Link) (rest : List Link) :
    (do let b ← (← l.rule ∅).extend rest; pure (some (b.located path)) : Except Fault _) =
      chain path (l :: rest) := by
  simp only [Link.rule_eq, extend_eq, chain_eq, List.forM_cons, bind_assoc, pure_bind,
    located_followedBy, followedBy_accepting_cons, List.isEmpty_cons]
  rw [Link.reporting, located_ofIssue rfl]
  rfl

theorem located_chain (path : Path) (links : List Link) :
    (do pure ((← chain ∅ links).map (·.located path)) : Except Fault _) = chain path links := by
  simp only [chain_eq, bind_assoc, pure_bind]
  refine bind_congr fun _ => ?_
  cases links with
  | nil => rfl
  | cons l rest => simp only [List.isEmpty_cons, Bool.false_eq_true, if_false, Option.map_some,
      located_followedBy]; rfl

theorem bracketed_chain (path : Path) {t : Bracketing Link} {l : Link} {rest : List Link}
    (h : t.leaves = l :: rest) :
    (do pure (some (← t.chained path)) : Except Fault _) = chain path (l :: rest) := by
  have hleaves : (t.map (Link.reporting path)).leaves =
      l.reporting path :: rest.map (Link.reporting path) := by
    rw [Bracketing.leaves_map, h, List.map_cons]
  rw [Bracketing.chained_eq, h, Bracketing.fold_eq_foldl _ hleaves, List.foldl_map, chain_eq,
    bind_assoc]
  rfl

end Rule

namespace Configuration

variable {registry : Registry} {owner : Data}

/-- The chain of entries that describe the rules of the links. -/
theorem chain_of_links {shown : String} {entries : List Data} (howner : owner.spell = .ok shown)
    (h : entries.map (rule registry owner) = links.map (·.rule ∅)) :
    chain registry owner (.list entries) = Rule.chain ∅ links := by
  have hfold : ∀ {α : Type} (f : α → Except Fault Rule) (as : List α),
      as.foldlM (fun c a => do pure (Rule.append c (← f a))) none =
        (as.map f).foldlM (fun c r => do pure (Rule.append c (← r))) none :=
    fun f as => by rw [List.foldlM_map]
  rw [Rule.chain, hfold, ← h, ← hfold, chain, howner]
  rfl

/-- A check that makes the rule of the link at a position. -/
def linkAt (links : List Link) : Check := fun as =>
  match (as.getD "position" .null).whole?.bind fun n => links[n.toNat]? with
  | some l => l.rule ∅
  | none => Predicate.unfit "link" "no such position"

theorem linkAt_eq {l : Link} {i : Nat} (h : links[i]? = some l) :
    linkAt links [("position", .int i)] = l.rule ∅ := by
  change (match links[i]? with
    | some l => l.rule ∅
    | none => Predicate.unfit "link" "no such position") = _
  rw [h]

theorem exists_entries (owner : Data) (h : ∀ l ∈ links, l.message.isTrue) :
    ∃ (registry : Registry) (entries : List Data),
      entries.map (rule registry owner) = links.map (·.rule ∅) := by
  refine ⟨⟨.text "links", [(.text "link", linkAt links)]⟩,
    links.zipIdx.map fun e => ruleEntry "link" [("position", .int e.2)], ?_⟩
  conv_rhs => rw [← List.zipIdx_map_fst 0 links, List.map_map]
  rw [List.map_map]
  refine List.map_congr_left fun e he => ?_
  have hlink : links[e.2]? = some e.1 := List.mem_zipIdx_iff_getElem?.mp he
  have hrule : e.1.rule ∅ = .ok (e.1.reporting ∅) := by
    rw [Link.rule_eq, Step.ensureWorded, if_pos (h e.1 (List.mem_of_getElem? hlink))]
    rfl
  rw [Function.comp_apply, Function.comp_apply, hrule]
  refine rule_ruleEntry_eq_ok (by decide) (by simp [reservedNames]) ?_
  have hlower : Text.lower "link" = "link" := by decide
  rw [hlower, ← hrule, ← linkAt_eq hlink]
  rfl

end Configuration

namespace Rule

theorem forM_ensureWorded (links : List Link) :
    (forM links fun l => Step.ensureWorded l.message) =
      if ∀ l ∈ links, l.message.isTrue then .ok () else .error .emptyMessage := by
  induction links with
  | nil => exact (if_pos nofun).symm
  | cons l rest ih =>
    rw [List.forM_cons, ih, Step.ensureWorded]
    by_cases hl : l.message.isTrue
    · simp only [hl, if_true, List.forall_mem_cons, true_and]
      rfl
    · simp only [hl, Bool.false_eq_true, if_false, List.forall_mem_cons, false_and]
      rfl

/-- The links of a chain, of which there is at least one, can be put together in any of four ways.
Extending the rule of the first link and moving the whole to the path, folding entries that
describe the links and moving the whole to the path, and putting the rules of the links at the path
together in pairs all end as the chain at the path does: with the fault of a missing message if
there is one, and otherwise with one and the same rule. On every value that rule asks its links
from the first on; the first that refuses the value decides with its single issue, the first that
fails with its fault, and the value passes if there is none. -/
theorem chains_agree (path : Path) (l : Link) (rest : List Link) :
    (do let b ← (← l.rule ∅).extend rest; pure (some (b.located path))) = chain path (l :: rest) ∧
    (∀ (registry : Registry) (owner : Data) (shown : String) (entries : List Data),
      owner.spell = .ok shown →
      entries.map (Configuration.rule registry owner) = (l :: rest).map (·.rule ∅) →
      (do pure ((← Configuration.chain registry owner (.list entries)).map (·.located path))) =
        chain path (l :: rest)) ∧
    (∀ t : Bracketing Link, t.leaves = l :: rest →
      (do pure (some (← t.chained path))) = chain path (l :: rest)) ∧
    ((∃ k ∈ l :: rest, ¬ k.message.isTrue) → chain path (l :: rest) = .error .emptyMessage) ∧
    ((∀ k ∈ l :: rest, k.message.isTrue) → ∃ c, chain path (l :: rest) = .ok (some c) ∧
      ∀ v, Link.Asked path v (l :: rest) (c.run v)) := by
  refine ⟨built_chain path l rest, fun registry owner shown entries howner hentries => ?_,
    fun t ht => bracketed_chain path ht, fun ⟨k, hk, hmessage⟩ => ?_, fun hworded => ?_⟩
  · rw [Configuration.chain_of_links howner hentries, located_chain]
  · rw [chain_eq, forM_ensureWorded, if_neg fun h => hmessage (h k hk)]
    rfl
  · refine ⟨followedBy path accepting (l :: rest), ?_, fun v => asked_followedBy path v _⟩
    rw [chain_eq, forM_ensureWorded, if_pos hworded]
    rfl

def sampleFirst : Link :=
  ⟨.text "must be numeric", marked (some "numeric") Predicate.isDigits, .null⟩

def sampleRest : List Link :=
  [⟨.text "must be an adult", marked (some "adult") (Predicate.integerAtLeast 18), .text "adult"⟩,
    ⟨.text "must not be 99", marked (some "known") (Predicate.differs (.text "99")), .null⟩]

def sampleBracketing : Bracketing Link :=
  .pair (.single sampleFirst) (.pair (.single sampleRest[0]) (.single sampleRest[1]))

theorem sampleRest_chains_agree : ∃ (registry : Registry) (entries : List Data) (c : Rule),
    (do
      let b ← (← sampleFirst.rule ∅).extend sampleRest
      pure (some (b.located (.ofName (.text "age"))))) = .ok (some c) ∧
    (do
      let f ← Configuration.chain registry (.text "age") (.list entries)
      pure (f.map (·.located (.ofName (.text "age")))) : Except Fault _) = .ok (some c) ∧
    (do pure (some (← sampleBracketing.chained (.ofName (.text "age"))))) = .ok (some c) ∧
    chain (.ofName (.text "age")) (sampleFirst :: sampleRest) = .ok (some c) ∧
    c.run (.text "17") = ⟨["numeric", "adult"], .ok (.invalid
      [⟨.ofName (.text "age"), .text "must be an adult", .text "adult", .null⟩] nofun)⟩ ∧
    c.run (.int 17) = ⟨["numeric"], .error (.raised .type "is_digit: not a string")⟩ := by
  have hworded : ∀ k ∈ sampleFirst :: sampleRest, k.message.isTrue := by
    simp [sampleFirst, sampleRest, Data.isTrue]
  obtain ⟨registry, entries, hentries⟩ := Configuration.exists_entries (.text "age") hworded
  obtain ⟨hbuilder, hfactory, hbrackets, -, hchain⟩ :=
    chains_agree (.ofName (.text "age")) sampleFirst sampleRest
  obtain ⟨c, hc, -⟩ := hchain hworded
  refine ⟨registry, entries, c, hbuilder.trans hc,
    (hfactory registry _ _ entries rfl hentries).trans hc,
    (hbrackets sampleBracketing rfl).trans hc, hc, ?_⟩
  cases hc
  exact ⟨rfl, rfl⟩

end Rule

end Assay
