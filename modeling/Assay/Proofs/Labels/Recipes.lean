import Assay.Proofs.Checks
import Assay.Proofs.Labels.Regrouping
import Assay.Recipe

/-! # Groups of recipes

The groups that are given in a recipe are the groups that its rule reports
under: changing them in the recipe is changing them in what the rule reports.
-/

namespace Assay

variable {f : Data → Data}

namespace Rule

theorem regrouped_ofIssue (i : Issue) (p : Predicate) :
    (ofIssue i p).regrouped f = ofIssue (i.regrouped f) p := by
  simp only [regrouped, ofIssue, bind_assoc, Rule.mk.injEq]
  refine funext fun v => bind_congr fun b => ?_
  cases b <;> rfl

theorem regrouped_ofOption (r : Option Rule) :
    (ofOption r).regrouped f = ofOption (r.map (regrouped f)) := by
  cases r <;> rfl

theorem regrouped_andThen (r s : Rule) :
    (r.andThen s).regrouped f = (r.regrouped f).andThen (s.regrouped f) := by
  simp only [regrouped, andThen, bind_assoc, pure_bind, Rule.mk.injEq]
  refine funext fun v => bind_congr fun x => ?_
  cases x <;> rfl

theorem regrouped_combine (r s : Rule) :
    (r.combine s).regrouped f = (r.regrouped f).combine (s.regrouped f) := by
  simp only [regrouped, combine, bind_assoc, pure_bind, Validated.mapIssues_check,
    Validated.issues_mapIssues, List.map_append]

theorem regrouped_forbidding (r : Rule) (i : Issue) :
    (r.forbidding i).regrouped f = (r.regrouped f).forbidding (i.regrouped f) := by
  simp only [regrouped, forbidding, bind_assoc, pure_bind, Rule.mk.injEq]
  refine funext fun v => bind_congr fun x => ?_
  cases x <;> rfl

theorem regrouped_settle (path : Path) (i : Issue) :
    (settle path i).regrouped f = settle path (i.regrouped f) := by
  unfold settle
  by_cases hi : i.path.isEmpty <;>
    simp [hi, Issue.regrouped, Issue.withGroup, Issue.withPath]

theorem regrouped_located (r : Rule) (path : Path) :
    (r.located path).regrouped f = (r.regrouped f).located path := by
  simp only [regrouped, located, bind_assoc, pure_bind, Rule.mk.injEq]
  refine funext fun v => bind_congr fun x => ?_
  cases x with
  | valid a => rfl
  | invalid is h =>
    simp only [Validated.mapIssues, List.map_map, Function.comp_def, regrouped_settle]

theorem regrouped_foldl_combine (rs : List Rule) (r : Rule) :
    (rs.foldl combine r).regrouped f = (rs.map (regrouped f)).foldl combine (r.regrouped f) := by
  induction rs generalizing r with
  | nil => rfl
  | cons s rest ih => rw [List.foldl_cons, ih, regrouped_combine, List.map_cons, List.foldl_cons]

theorem regrouped_allOf (rs : List Rule) :
    (allOf rs).regrouped f = allOf (rs.map (regrouped f)) :=
  regrouped_foldl_combine rs accepting

theorem regrouped_followedBy (hf : f .null = .null) (path : Path) (links : List Link) (r : Rule) :
    (followedBy path r links).regrouped f = followedBy path (r.regrouped f) links := by
  unfold followedBy
  induction links generalizing r with
  | nil => rfl
  | cons l rest ih =>
    rw [List.foldl_cons, ih, regrouped_andThen, regrouped_ofIssue, Issue.regrouped,
      Issue.withGroup, hf, List.foldl_cons]

theorem ofPredicate_regrouped (path : Path) (message code group : Data) (p : Predicate) :
    ofPredicate path message p code (f group) =
      (do pure ((← ofPredicate path message p code group).regrouped f)) := by
  simp only [ofPredicate_eq, bind_assoc, pure_bind, regrouped_ofIssue]
  rfl

theorem forbid_regrouped (r : Rule) (message code group : Data) :
    (r.regrouped f).forbid message code (f group) =
      (do pure ((← r.forbid message code group).regrouped f)) := by
  unfold forbid Issue.make
  split
  · change Except.ok _ = Except.ok _
    rw [regrouped_forbidding]
    rfl
  · rfl

theorem map_regrouped_of_chain (hf : f .null = .null) {path : Path} {links : List Link}
    {c : Option Rule} (h : chain path links = .ok c) : c.map (regrouped f) = c := by
  rw [chain_eq] at h
  obtain ⟨_, -, h⟩ := Traced.except_bind_eq_ok.mp h
  cases h
  split
  · rfl
  · rw [Option.map_some, regrouped_followedBy hf]
    rfl

theorem extend_regrouped (hf : f .null = .null) (seed : Rule) (links : List Link) :
    (seed.regrouped f).extend links = (do pure ((← seed.extend links).regrouped f)) := by
  simp only [extend_eq, bind_assoc, pure_bind, regrouped_followedBy hf]

end Rule

namespace Recipe

mutual

/-- The recipe with every group that is given in it changed. -/
def regrouped (f : Data → Data) (r : Recipe) : Recipe :=
  match r with
  | predicate path message p code group => predicate path message p code (f group)
  | rule message p code group => rule message p code (f group)
  | check kind arguments => check kind arguments
  | function mark outcome =>
    function mark (do pure ((← outcome).mapIssues (Issue.regrouped f)))
  | wrapped inner => wrapped (inner.regrouped f)
  | andThen first second => andThen (first.regrouped f) (second.regrouped f)
  | combine left right => combine (left.regrouped f) (right.regrouped f)
  | both left right => both (left.regrouped f) (right.regrouped f)
  | forbid inner message code group => forbid (inner.regrouped f) message code (f group)
  | located inner path => located (inner.regrouped f) path
  | allOf parts => allOf (regroupedAll f parts)
  | chain path links => chain path links
  | extended seed links => extended (seed.regrouped f) links
termination_by structural r

def regroupedAll (f : Data → Data) (rs : List Recipe) : List Recipe :=
  match rs with
  | [] => []
  | r :: rest => r.regrouped f :: regroupedAll f rest
termination_by structural rs

end

theorem receiver_map (r : Option Rule) (method : String) :
    receiver (r.map (Rule.regrouped f)) method =
      (do pure ((← receiver r method).regrouped f)) := by
  cases r <;> rfl

theorem kindOf_map (r : Option Rule) : kindOf (r.map (Rule.regrouped f)) = kindOf r := by
  cases r <;> rfl

theorem regrouped_constant (mark : Option String) (x : Validated Data) :
    (constant mark x).regrouped f = constant mark (x.mapIssues (Issue.regrouped f)) := by
  simp only [Rule.regrouped, constant, bind_assoc, pure_bind]

section Builtin

variable [Pattern.Edition]

theorem regrouped_of_create (hf : f .null = .null) {key : Data} {as : Arguments} {r : Rule}
    (h : Registry.builtin.create key as = .ok r) : r.regrouped f = r := by
  obtain ⟨p, message, code, hmake⟩ := Registry.create_builtin_eq_ok h
  obtain rfl := Rule.eq_ofIssue_of_make hmake
  rw [Rule.regrouped_ofIssue, Issue.regrouped, Issue.withGroup, hf]

mutual

/-- The rule of a recipe with changed groups is the rule of the recipe with its groups changed. -/
theorem build_regrouped (hf : f .null = .null) (r : Recipe) :
    (r.regrouped f).build = (do pure ((← r.build).map (Rule.regrouped f))) := by
  cases r with
  | predicate path message p code group =>
    simp only [regrouped, build, Rule.ofPredicate_regrouped, Traced.liftM_eq_ofExcept,
      Traced.ofExcept_bind, bind_assoc]
    rfl
  | rule message p code group =>
    simp only [regrouped, build, Rule.make, Rule.ofPredicate_regrouped, Traced.liftM_eq_ofExcept,
      Traced.ofExcept_bind, bind_assoc]
    rfl
  | check kind arguments =>
    simp only [regrouped, build, bind_assoc, pure_bind, Traced.liftM_eq_ofExcept]
    refine bind_congr fun as => ?_
    cases h : Registry.builtin.create kind as with
    | error e => rfl
    | ok r =>
      simp only [Traced.ofExcept_ok, pure_bind, Option.map_some, regrouped_of_create hf h]
  | function mark outcome =>
    simp only [regrouped, build, bind_assoc, pure_bind, Option.map_some, regrouped_constant]
  | wrapped inner =>
    simp only [regrouped, build, build_regrouped hf inner, bind_assoc, pure_bind,
      Option.map_some, Rule.regrouped_ofOption]
  | andThen first second =>
    simp only [regrouped, build, build_regrouped hf first, build_regrouped hf second, bind_assoc,
      pure_bind, receiver_map, Traced.liftM_eq_ofExcept, Traced.ofExcept_bind, Option.map_some,
      Rule.regrouped_andThen, Rule.regrouped_ofOption]
    rfl
  | combine left right =>
    simp only [regrouped, build, build_regrouped hf left, build_regrouped hf right, bind_assoc,
      pure_bind, receiver_map, Traced.liftM_eq_ofExcept, Traced.ofExcept_bind, Option.map_some,
      Rule.regrouped_combine, Rule.regrouped_ofOption]
    rfl
  | both left right =>
    simp only [regrouped, build, build_regrouped hf left, build_regrouped hf right, bind_assoc,
      pure_bind, kindOf_map]
    refine bind_congr fun a => bind_congr fun b => ?_
    cases a with
    | none => rfl
    | some a => simp only [Option.map_some, pure_bind, Rule.regrouped_combine,
        Rule.regrouped_ofOption]
  | forbid inner message code group =>
    simp only [regrouped, build, build_regrouped hf inner, bind_assoc, pure_bind, receiver_map,
      Rule.forbid_regrouped, Traced.liftM_eq_ofExcept, Traced.ofExcept_bind, Traced.ofExcept_pure,
      Option.map_some]
  | located inner path =>
    simp only [regrouped, build, build_regrouped hf inner, bind_assoc, pure_bind, receiver_map,
      Traced.liftM_eq_ofExcept, Traced.ofExcept_bind, Option.map_some, Rule.regrouped_located]
    rfl
  | allOf parts =>
    simp only [regrouped, build, buildAll_regrouped hf parts, bind_assoc, pure_bind,
      Option.map_some, Rule.regrouped_allOf, List.map_map, Function.comp_def,
      Rule.regrouped_ofOption]
  | chain path links =>
    simp only [regrouped, build, bind_assoc, Traced.liftM_eq_ofExcept]
    refine bind_congr fun path => ?_
    cases h : Rule.chain path links with
    | error e => rfl
    | ok c => simp only [Traced.ofExcept_ok, pure_bind, Rule.map_regrouped_of_chain hf h]
  | extended seed links =>
    simp only [regrouped, build, build_regrouped hf seed, bind_assoc, pure_bind]
    refine bind_congr fun a => ?_
    split
    · rfl
    · simp only [receiver_map, Rule.extend_regrouped hf, bind_assoc, pure_bind,
        Traced.liftM_eq_ofExcept, Traced.ofExcept_bind, Traced.ofExcept_pure, Option.map_some]
termination_by structural r

theorem buildAll_regrouped (hf : f .null = .null) (rs : List Recipe) :
    buildAll (regroupedAll f rs) =
      (do pure ((← buildAll rs).map (Option.map (Rule.regrouped f)))) := by
  cases rs with
  | nil => rfl
  | cons r rest =>
    simp only [regroupedAll, buildAll, build_regrouped hf r, buildAll_regrouped hf rest,
      bind_assoc, pure_bind, List.map_cons]
termination_by structural rs

end

end Builtin

def ungrouped (r : Recipe) : Recipe := r.regrouped fun _ => .null

end Recipe

theorem Step.ungrouped_attach_build [Pattern.Edition] {r r' : Recipe}
    (h : r.ungrouped = r'.ungrouped) (p : Option Predicate) (label label' : Data) :
    (Step.attach r.build p).regrouped (fun _ => .null) label =
      (Step.attach r'.build p).regrouped (fun _ => .null) label' := by
  have hr := Recipe.build_regrouped (f := fun _ => .null) rfl r
  have hr' := Recipe.build_regrouped (f := fun _ => .null) rfl r'
  unfold Recipe.ungrouped at h
  rw [h] at hr
  exact congrArg (Step.attach · p) (hr.symm.trans hr')

end Assay
