import Assay.Configuration
import Assay.Proofs.Exchange
import Assay.Proofs.Rule.Laws

/-! # Accumulation of rules

Rules can be attached to a scope one by one, or put side by side first and
attached as one. A rule with a message can be made by the scope, or elsewhere.
None of this makes a difference, wherever in a program it is done.
-/

namespace Assay

open Assay.Configuration (attachment)

namespace Rule

theorem reports_fold_combine (t : Bracketing Rule) (v : Data) :
    (t.fold combine).reports v = Validator.issues t.leaves v := by
  obtain ⟨r, rest, h⟩ := t.exists_leaves_eq_cons
  rw [Bracketing.fold_eq_foldl t h, reports_foldl_combine, h]

end Rule

namespace Scope

/-- A rule as it is put into the scope. -/
def placed (s : Scope) (r : Rule) : Rule :=
  if s.label.isNull then r.located s.path else (r.located s.path).labelled s.label

theorem reports_placed (s : Scope) (r : Rule) (v : Data) :
    (s.placed r).reports v = (do pure ((← r.reports v).map (Site.stamp s.path s.label))) := by
  rw [Rule.reports, placed, r.finds_ofRule s.path s.label v, Visit.runAll_singleton]
  simp only [Visit.run, Site.ofRule, Rule.reports, bind_assoc, pure_bind]

theorem issues_map_placed (s : Scope) (rs : List Rule) (v : Data) :
    Validator.issues (rs.map s.placed) v =
      (do pure ((← Validator.issues rs v).map (Site.stamp s.path s.label))) := by
  induction rs with
  | nil => rfl
  | cons r rest ih =>
    simp only [List.map_cons, Validator.issues_cons_eq, reports_placed, ih, bind_assoc, pure_bind,
      List.map_append]

end Scope

namespace Step

theorem applyAll_attachments (rs : List Rule) (s : Scope) :
    applyAll (rs.map attachment) s = pure { s with rules := s.rules ++ rs.map s.placed } := by
  induction rs generalizing s with
  | nil => rw [List.map_nil, List.map_nil, List.append_nil]; rfl
  | cons r rest ih =>
    change applyAll (rest.map attachment) (s.attachBare (s.placed r)) = _
    rw [ih, List.map_cons, List.append_cons]
    rfl

theorem interchangeable_attachments {rs : List Rule} {r : Rule}
    (h : ∀ v, r.reports v = Validator.issues rs v) :
    Interchangeable (rs.map attachment) [attachment r] := by
  intro s s' hs
  rw [applyAll_attachments, show [attachment r] = [r].map attachment from rfl,
    applyAll_attachments]
  refine .pure ⟨hs.path, hs.label, fun v => ?_, hs.nested⟩
  rw [Validator.issues_append, Validator.issues_append, hs.rules, Scope.issues_map_placed,
    Scope.issues_map_placed, Validator.issues_singleton, h, hs.path, hs.label]

theorem apply_make {message : Data} (h : message.isText) (p : Predicate) (code group : Data) :
    (Step.rule message (some p) code group).apply =
      (Step.attach (do pure (some (← (Rule.make message p code group : Run Rule))))
        none).apply := by
  funext s
  simp only [apply, Scope.attachInline, if_pos h, Rule.make, Rule.ofPredicate_eq,
    Traced.liftM_eq_ofExcept, Traced.ofExcept_bind, Traced.ofExcept_pure, bind_assoc, pure_bind]
  refine bind_congr fun _ => ?_
  change _ = pure (s.attach ((Rule.ofIssue _ p).located s.path))
  rw [Rule.located_ofIssue rfl]
  rfl

/-- Another way to give the same rules to a scope. -/
inductive Regathered : List Step → List Step → Prop
  /-- Rules that are attached one after the other are attached as one. -/
  | allOf (rs : List Rule) : Regathered (rs.map attachment) [attachment (.allOf rs)]
  /-- They are first combined in pairs, in some bracketing. -/
  | combined (t : Bracketing Rule) :
    Regathered (t.leaves.map attachment) [attachment (t.fold .combine)]
  /-- A rule with a message is made elsewhere and then attached. -/
  | made {message : Data} : message.isText → ∀ (p : Predicate) (code group : Data),
    Regathered [.rule message (some p) code group]
      [.attach (do pure (some (← (Rule.make message p code group : Run Rule)))) none]

theorem Regathered.interchangeable {xs ys : List Step} (h : Regathered xs ys) :
    Interchangeable xs ys := by
  cases h with
  | allOf rs => exact interchangeable_attachments (Rule.reports_allOf rs)
  | combined t => exact interchangeable_attachments (Rule.reports_fold_combine t)
  | made htext p code group => exact .of_apply_eq (apply_make htext p code group)

/-- Attaching rules one by one, as one rule that holds them all, or as their combination in some
bracketing evaluates to the same outcome, after the same calls in the same order, at every path and
under every label; a fault is the same fault. The same is true anywhere in a program, and of making
a rule with a message elsewhere: exchanged blocks evaluate alike, and exchanged declarations build
the same validator with the same reports. -/
theorem accumulations_agree :
    (∀ (rs : List Rule) (path : Path) (label : Data) (read : Run Data),
      evaluation [attachment (.allOf rs)] path label read =
          evaluation (rs.map attachment) path label read ∧
        ∀ t : Bracketing Rule, t.leaves = rs →
          evaluation [attachment (t.fold .combine)] path label read =
            evaluation (rs.map attachment) path label read) ∧
    (∀ (xs ys : List Step), ExchangedAll Regathered xs ys →
      ∀ (path : Path) (label : Data) (read : Run Data),
        evaluation xs path label read = evaluation ys path label read) ∧
    ∀ (ds es : List Declaration), Declaration.ExchangedAll Regathered ds es → ∀ name : Data,
      Validator.ofDeclarations name ds = Validator.ofDeclarations name es := by
  have hR : ∀ xs ys, Regathered xs ys → Interchangeable xs ys := fun _ _ h => h.interchangeable
  refine ⟨fun rs path label read => ⟨?_, fun t ht => ?_⟩, fun xs ys h path label read => ?_,
    fun ds es h name => ?_⟩
  · rw [(Regathered.allOf rs).interchangeable.evaluation_eq]
  · rw [← ht, (Regathered.combined t).interchangeable.evaluation_eq]
  · rw [(h.interchangeable hR).evaluation_eq]
  · rw [Validator.ofDeclarations, h.applyAll_eq hR, Validator.ofDeclarations]

def sampleHost : Rule :=
  .ofIssue ⟨.ofName (.text "host"), .text "no host", .null, .null⟩
    (marked (some "host") (Predicate.constant (.bool false)))

def sampleLookup : Rule :=
  ⟨fun _ => do
    Traced.mark (some "lookup")
    pure .passed⟩

def sampleStart : Rule :=
  .ofIssue ⟨∅, .text "must start with x", .text "start", .null⟩
    (marked (some "start") (Predicate.startsWith "x"))

def sampleCombination : Bracketing Rule :=
  .pair (.single sampleHost) (.pair (.single sampleLookup) (.single sampleStart))

/-- The block is used for every tag, in a validator of its own and under a label. -/
def sampleStyled (block : List Step) : List Declaration :=
  [.field (.text "tags") none [.items [.use (.text "Tag") [.root [.group (.text "style") block]]]]]

theorem exchangedAll_sampleStyled {xs ys : List Step} (h : Regathered xs ys) :
    Declaration.ExchangedAll Regathered (sampleStyled xs) (sampleStyled ys) := by
  have hgroup :
      ExchangedAll Regathered [.group (.text "style") xs] [.group (.text "style") ys] := by
    have := ExchangedAll.here [] [] h
    simp only [List.nil_append, List.append_nil] at this
    exact .inside [] [] (.group _ this)
  exact .inside [] [] (.field _ _ (.inside [] [] (.items (.inside [] [] (.use _
    (.inside [] [] (.root hgroup)))))))

theorem sampleStyled_accumulations_agree : ∃ w,
    (Validator.ofDeclarations (.text "Post")
      (sampleStyled ([sampleHost, sampleLookup, sampleStart].map attachment))).result = .ok w ∧
    (Validator.ofDeclarations (.text "Post")
      (sampleStyled [attachment (sampleCombination.fold .combine)])).result = .ok w ∧
    ∃ is, w.validate (.mapping [(.text "tags", .list [.text "a"])]) =
        ⟨["host", "lookup", "start"], .ok (.of (.mapping [(.text "tags", .list [.text "a"])]) is)⟩ ∧
      is = [⟨(Path.ofName (.text "tags")).index 0 |>.join (.ofName (.text "host")),
          .text "no host", .null, .text "style"⟩,
        ⟨(Path.ofName (.text "tags")).index 0, .text "must start with x", .text "start",
          .text "style"⟩] := by
  have heq := accumulations_agree.2.2 _ _
    (exchangedAll_sampleStyled (.combined sampleCombination)) (.text "Post")
  refine ⟨_, rfl, by rw [← heq]; rfl, _, rfl, rfl⟩

end Step

end Assay
