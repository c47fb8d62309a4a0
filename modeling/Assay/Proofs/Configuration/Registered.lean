import Assay.Proofs.Configuration.Refinement

/-! # Registered checks in configurations

A rule entry reaches the check whose key is its type in lower case. The rule
that it builds is the one that the registry creates under that key, with the
parameters of the entry, and the entry alone is a configuration.
-/

namespace Assay

namespace Arguments

def entries (as : Arguments) : List (Data × Data) := as.map fun a => (.text a.1, a.2)

theorem ofEntries_entries (as : Arguments) : ofEntries as.entries = .ok as := by
  induction as with
  | nil => rfl
  | cons a rest ih =>
    simp only [ofEntries, entries, List.map_cons, List.mapM_cons] at ih ⊢
    rw [ih]
    rfl

end Arguments

namespace Site

theorem stamp_empty_null (i : Issue) : stamp ∅ .null i = i := by
  obtain ⟨⟨segments⟩, message, code, group⟩ := i
  cases segments <;> rfl

end Site

namespace Configuration

open Visit

variable {registry : Registry} {owner : Data} {k : String} {as : Arguments} {r : Rule}

/-- The rule entry that names a type and gives arguments for its check. -/
def ruleEntry (type : String) (as : Arguments) : Data :=
  .mapping ((.text "type", .text type) :: as.entries)

/-- The options that ask for one rule for the whole value. -/
def ruleOptions (type : String) (as : Arguments) : Arguments :=
  [("root", .list [ruleEntry type as])]

/-- The names of arguments that an entry cannot hand on, because they say something about the
entry itself. -/
def reservedNames : List String := ["type", "forbidden", "forbidden_code"]

theorem isAmong_entryKeys (name : String) :
    (Data.text name).isAmong entryKeys = reservedNames.contains name := rfl

theorem eq_reserved_of_not_mem {name key : String} (hkey : key ∈ reservedNames)
    (h : name ∉ reservedNames) : (Data.text key).eq (.text name) = false := by
  change (key == name) = false
  rw [beq_eq_false_iff_ne]
  rintro rfl
  exact h hkey

theorem lookup?_entries_of_reserved {key : String} (hkey : key ∈ reservedNames)
    (h : ∀ a ∈ as, a.1 ∉ reservedNames) : Data.lookup? (.text key) as.entries = none := by
  rw [Data.lookup?, Option.map_eq_none_iff, List.find?_eq_none]
  intro e he
  obtain ⟨a, ha, rfl⟩ := List.mem_map.mp he
  simp [eq_reserved_of_not_mem hkey (h a ha)]

theorem get_ruleEntry_type : get ((.text "type", .text k) :: as.entries) "type" = .text k := rfl

theorem get_ruleEntry_forbidden (h : ∀ a ∈ as, a.1 ∉ reservedNames) :
    get ((.text "type", .text k) :: as.entries) "forbidden" = .null := by
  change (Data.lookup? (.text "forbidden") as.entries).getD .null = .null
  rw [lookup?_entries_of_reserved (show "forbidden" ∈ reservedNames by decide) h]
  rfl

theorem filter_ruleEntry (h : ∀ a ∈ as, a.1 ∉ reservedNames) :
    ((Data.text "type", Data.text k) :: as.entries).filter (fun e => !e.1.isAmong entryKeys) =
      as.entries := by
  rw [List.filter_cons_of_neg (by simp [isAmong_entryKeys, reservedNames]), List.filter_eq_self]
  intro e he
  obtain ⟨a, ha, rfl⟩ := List.mem_map.mp he
  simpa [isAmong_entryKeys] using h a ha

theorem forbidding_of_not_isTrue {es : List (Data × Data)} (h : ¬ (get es "forbidden").isTrue)
    (r : Rule) : forbidding es r = .ok r := if_neg h

theorem rule_ruleEntry (hk : k ≠ "") (has : ∀ a ∈ as, a.1 ∉ reservedNames) :
    rule registry owner (ruleEntry k as) = (do
      let c ← checkOf registry (Text.lower k) owner
      construct c (Text.lower k) owner as.entries) := by
  have htype : (Data.text k).isTrue := by simpa [Data.isTrue] using hk
  have hforbidden : ¬ (get ((.text "type", .text k) :: as.entries) "forbidden").isTrue := by
    rw [get_ruleEntry_forbidden has]
    exact Bool.false_ne_true
  unfold ruleEntry rule
  dsimp only
  rw [get_ruleEntry_type, if_pos htype, filter_ruleEntry has]
  change (do
    let c ← checkOf registry (Text.lower k) owner
    let base ← construct c (Text.lower k) owner as.entries
    forbidding _ base) = _
  simp only [forbidding_of_not_isTrue hforbidden]
  refine bind_congr fun c => ?_
  exact bind_pure _

/-- An entry builds exactly the rules that the registry creates under the type in lower case, the
arguments that the registry takes for itself apart. -/
theorem rule_ruleEntry_eq_ok (hk : k ≠ "") (has : ∀ a ∈ as, a.1 ∉ reservedNames)
    (h : registry.create (.text (Text.lower k)) as = .ok r) :
    rule registry owner (ruleEntry k as) = .ok r := by
  unfold Registry.create at h
  split at h
  · cases h
  obtain ⟨c, hc, hr⟩ := Traced.except_bind_eq_ok.mp h
  have hfind : registry.find? (.text (Text.lower k)) = some c := by
    unfold Registry.get at hc
    obtain ⟨_, -, hc⟩ := Traced.except_bind_eq_ok.mp hc
    split at hc
    · next h => cases hc; exact h
    · unfold Fault.raise at hc
      split at hc <;> cases hc
  have hcheck : checkOf registry (Text.lower k) owner = .ok c := by rw [checkOf, hfind]
  have hmade : (do c (← Arguments.ofEntries as.entries)) = .ok r := by
    rw [Arguments.ofEntries_entries]
    exact hr
  rw [rule_ruleEntry hk has, hcheck]
  change construct c _ owner as.entries = _
  rw [construct, hmade]

theorem rule_ruleEntry_of_missing (hk : k ≠ "") (has : ∀ a ∈ as, a.1 ∉ reservedNames)
    (h : registry.has (.text (Text.lower k)) = .ok false) :
    rule registry owner (ruleEntry k as) =
      .error (.checkUnknown (Text.lower k) owner registry.keys) := by
  have hfind : registry.find? (.text (Text.lower k)) = none := by
    obtain ⟨_, -, h⟩ := Traced.except_bind_eq_ok.mp h
    simpa [pure, Except.pure] using h
  have hcheck : checkOf registry (Text.lower k) owner =
      .error (.checkUnknown (Text.lower k) owner registry.keys) := by rw [checkOf, hfind]
  rw [rule_ruleEntry hk has, hcheck]
  rfl

/-- The owner of the rules for the whole value of a validator without a name. -/
def unnamedRoot : Data := .text "unnamed_validator.root"

theorem rules_singleton (owner e : Data) {shown : String} (h : owner.spell = .ok shown) :
    rules registry owner (.list [e]) = (do pure [← rule registry owner e]) := by
  rw [rules, h]
  change [e].mapM (rule registry owner) = _
  rw [List.mapM_cons]
  rfl

theorem result_build_entry (registry : Registry) (e : Data) :
    (build registry [("root", .list [e])]).result = (do
      let r ← rule registry unnamedRoot e
      (declareRoot (.empty defaultName) [r]).result) := by
  change (do
    let own ← (rules registry unnamedRoot (.list [e]) : Build (List Rule))
    let w ← declareRoot (.empty defaultName) own
    let definitions ← (items .null "fields" : Build (List Data))
    declareFields registry w 0 definitions).result = _
  have hspell : unnamedRoot.spell = .ok "unnamed_validator.root" := rfl
  rw [rules_singleton unnamedRoot _ hspell, Traced.result_bind]
  cases rule registry unnamedRoot e with
  | error f => rfl
  | ok r => rfl

theorem result_build_ruleOptions (registry : Registry) (k : String) (as : Arguments) :
    (build registry (ruleOptions k as)).result = (do
      let r ← rule registry unnamedRoot (ruleEntry k as)
      (declareRoot (.empty defaultName) [r]).result) :=
  result_build_entry registry (ruleEntry k as)

/-- The rule for the whole value is the only one that the validator asks. -/
theorem validate_declareRoot_singleton {w : Validator}
    (h : (declareRoot (.empty defaultName) [r]).result = .ok w) (v : Data) :
    w.validate v = (do pure (.of v (← r.run v).issues)) := by
  have hstamp : Site.stamp ∅ .null = id := funext Site.stamp_empty_null
  have hbuilt : (Validator.ofDeclarations defaultName (rootDeclarations [r])).result = .ok w :=
    declareRoot_eq_ok h
  rw [Validator.validate_eq, Validator.issues_eq_runAll hbuilt, runAll_rootDeclarations,
    List.map_singleton, runAll_singleton, Visit.run, Site.ofRule, hstamp]
  simp only [List.map_id, bind_assoc, pure_bind]

/-- The check that is registered under the type in lower case can be used from a configuration: the
entry is accepted wherever it stands, and its rule is the one that the registry creates. Without a
check under that key the entry is refused, also where the type itself is a key. -/
theorem build_ruleOptions (registry : Registry) (k : String) (as : Arguments) (hk : k ≠ "")
    (has : ∀ a ∈ as, a.1 ∉ reservedNames) :
    (∀ r, registry.create (.text (Text.lower k)) as = .ok r →
      (∀ owner, rule registry owner (ruleEntry k as) = .ok r) ∧
        ∃ w, (build registry (ruleOptions k as)).result = .ok w ∧
          ∀ v, w.validate v = (do pure (.of v (← r.run v).issues))) ∧
      (registry.has (.text (Text.lower k)) = .ok false →
        (∀ owner, rule registry owner (ruleEntry k as) =
          .error (.checkUnknown (Text.lower k) owner registry.keys)) ∧
        (build registry (ruleOptions k as)).result =
          .error (.checkUnknown (Text.lower k) unnamedRoot registry.keys)) := by
  refine ⟨fun r hr => ⟨fun owner => rule_ruleEntry_eq_ok hk has hr, ?_⟩,
    fun h => ⟨fun owner => rule_ruleEntry_of_missing hk has h, ?_⟩⟩
  · have hbuild : (build registry (ruleOptions k as)).result =
        (declareRoot (.empty defaultName) [r]).result := by
      rw [result_build_ruleOptions, rule_ruleEntry_eq_ok hk has hr]
      rfl
    obtain ⟨w, hw⟩ : ∃ w, (declareRoot (.empty defaultName) [r]).result = .ok w := ⟨_, rfl⟩
    exact ⟨w, hbuild.trans hw, validate_declareRoot_singleton hw⟩
  · rw [result_build_ruleOptions, rule_ruleEntry_of_missing hk has h]
    rfl

def refusing (key : String) : Registry :=
  { Registry.empty (.text "custom") with
    entries := [(.text key, Check.custom (.text "must be even") .null fun _ => pure false)] }

/-- The check is used under its key and under any spelling of it. -/
theorem build_ruleOptions_refusing : ∃ r w,
    (refusing "even").create (.text "even") [("code", .text "odd")] = .ok r ∧
      (build (refusing "even") (ruleOptions "Even" [("code", .text "odd")])).result = .ok w ∧
      (w.validate (.int 3)).result =
        .ok (.of (.int 3) [⟨∅, .text "must be even", .text "odd", .null⟩]) := by
  have hused := (build_ruleOptions (refusing "even") "Even" [("code", .text "odd")]
    (by decide) (by decide)).1
  obtain ⟨r, hr⟩ : ∃ r, (refusing "even").create (.text "even") [("code", .text "odd")] = .ok r :=
    ⟨_, rfl⟩
  obtain ⟨-, w, hw, hrun⟩ := hused r hr
  refine ⟨r, w, hr, hw, ?_⟩
  rw [hrun]
  cases hr
  rfl

/-- A check under a key that is not in lower case can be created and not configured. -/
theorem not_build_ruleOptions_of_upper : ∃ registry r,
    ((Registry.empty (.text "custom")).register (.text "Even")
      (Check.custom (.text "must be even") .null fun _ => pure false) false).result =
        .ok registry ∧
      registry.has (.text "Even") = .ok true ∧ registry.create (.text "Even") [] = .ok r ∧
      (build registry (ruleOptions "Even" [])).result =
        .error (.checkUnknown "even" unnamedRoot [.text "Even"]) :=
  ⟨_, _, rfl, rfl, rfl, rfl⟩

end Configuration

end Assay
