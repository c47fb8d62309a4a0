import Assay.Proofs.Configuration.Acceptance
import Assay.Proofs.Stations

/-! # Reports of building

What is reported while a validator is built can be read off its configuration.
Building comes to the definitions in order, each before those below it, and a
definition with keys that have no meaning is reported with all of them. Where the
configuration does not meet a demand, building ends there.
-/

namespace Assay.Configuration

variable {registry : Registry} {options : Arguments} {es : List (Data × Data)} {w : Validator}

/-- The keys of a definition that have no meaning, in order. -/
def unknownKeys (es : List (Data × Data)) : List Data :=
  ((es.map Prod.fst).filter fun k => !k.isAmong fieldKeys).insertionSort
    fun v w => v.points ≤ w.points

def warning? (es : List (Data × Data)) : Option Report :=
  let name := get es "name"
  let keys := Data.list (unknownKeys es)
  if (unknownKeys es).isEmpty then none
  else some ⟨.warning, s!"Ignoring unknown keys for field '{name.shown}': {keys.written}"⟩

/-- The report of a definition, if it has keys without a meaning. -/
def warningOf : Data → Option Report
  | .mapping es => warning? es
  | _ => none

def placeText (label : Data) : String := if label.isTrue then label.shown else "<root>"

def ownerText (name : Data) (count : Nat) : String :=
  s!"Validator(name={name.written}, fields={count})"

/-- The report of a registration under a label, with the number of registrations before it. -/
def registration (name label : Data) (count : Nat) : Report :=
  ⟨.debug, s!"Registering validation for '{placeText label}' on {ownerText name count}"⟩

mutual

/-- A definition with its position in the list, and behind it all definitions below it. -/
def tree (index : Nat) (definition : Data) : List (Nat × Data) :=
  match definition with
  | .mapping es => (index, .mapping es) :: treeBelow es
  | v => [(index, v)]
termination_by structural definition

def treeBelow (entries : List (Data × Data)) : List (Nat × Data) :=
  match entries with
  | [] => []
  | (k, v) :: rest => if k.eq (.text "fields") then treeOfList v else treeBelow rest
termination_by structural entries

def treeOfList (v : Data) : List (Nat × Data) :=
  match v with
  | .list ds => treeFrom 0 ds
  | _ => []
termination_by structural v

def treeFrom (index : Nat) (definitions : List Data) : List (Nat × Data) :=
  match definitions with
  | [] => []
  | d :: rest => tree index d ++ treeFrom (index + 1) rest
termination_by structural definitions

end

/-- What building comes to in a definition, the definitions below it apart. -/
def stationsOf (registry : Registry) : Nat × Data → List Station
  | (index, .mapping es) =>
    let name := get es "name"
    [.ofResult (fieldName index es)] ++ (warning? es).toList.map .report ++
      [.ofResult (rules registry name (get es "rules")),
        .ofResult (chain registry name (get es "dependent")),
        .ofResult (items (get es "fields") (name.shown ++ ".fields"))]
  | (index, v) => [.demand (some (.fieldNotMapping index v))]

/-- The fields of the value itself, each with its position. -/
def topFields (options : Arguments) : List (Data × Nat) :=
  (Reading.listed (options.getD "fields" .null)).zipIdx

def rootCount (options : Arguments) : Nat :=
  if (Reading.listed (options.getD "root" .null)).isEmpty then 0 else 1

def rootReports (options : Arguments) : List Report :=
  if (Reading.listed (options.getD "root" .null)).isEmpty then []
  else [registration (options.getD "name" defaultName) (.text "") 0]

/-- What building comes to, in order. -/
def stations (registry : Registry) (options : Arguments) : List Station :=
  let name := options.getD "name" defaultName
  let taken := options.find? fun o => o.1 == "self"
  [.demand (taken.map fun o => .repeatedArgument "ValidatorFactory.create" o.1),
    .report ⟨.info, s!"Creating validator: {name.shown}"⟩,
    .ofResult (rules registry (.text (name.shown ++ ".root")) (options.getD "root" .null))] ++
  (rootReports options).map .report ++
  [.ofResult (items (options.getD "fields" .null) "fields")] ++
  (topFields options).flatMap fun e => (tree e.2 e.1).flatMap (stationsOf registry) ++
    [.report (registration name (Reading.name e.1) (rootCount options + e.2))]

/-- What is reported when a validator is built: that it is created, the registration for the whole
value, and for each field in order all warnings about its definition and those below it, followed by
its registration. -/
def records (options : Arguments) : List Report :=
  let name := options.getD "name" defaultName
  [⟨.info, s!"Creating validator: {name.shown}"⟩] ++ rootReports options ++
  (topFields options).flatMap fun e => (tree e.2 e.1).filterMap (fun d => warningOf d.2) ++
    [registration name (Reading.name e.1) (rootCount options + e.2)]

theorem follows_reportUnknown (hname : (get es "name").isText) (hkeys : ∀ e ∈ es, e.1.isText) :
    Follows (reportUnknown (get es "name") es) ((warning? es).toList.map .report) := by
  have hunknown : ∀ v ∈ (es.map Prod.fst).filter fun k => !k.isAmong fieldKeys, v.isText :=
    fun v hv => isText_keys hkeys v (List.mem_of_mem_filter hv)
  have hsort := Data.sort_of_isText hunknown
  have hsorted : (Data.list (unknownKeys es)).isSpellable :=
    Data.areSpellable_of_isText fun v hv => hunknown v ((List.mem_insertionSort _).mp hv)
  have hempty : (unknownKeys es).isEmpty =
      ((es.map Prod.fst).filter fun k => !k.isAmong fieldKeys).isEmpty :=
    (List.perm_insertionSort _ _).isEmpty_eq
  unfold reportUnknown warning?
  dsimp only
  rw [hempty]
  cases hcase : ((es.map Prod.fst).filter fun k => !k.isAmong fieldKeys).isEmpty with
  | true => exact follows_pure ()
  | false =>
    refine .of_ok (Data.spell_of_isSpellable (Data.isSpellable_of_isText hname)) ?_
    refine .of_ok hsort ?_
    refine .of_ok (if_pos hsorted) ?_
    exact follows_report _ _

mutual

theorem follows_field (htexts : HasTextKeys options) (hnames : HasTextNames options)
    (definition : Data) (index : Nat) {v : Data} (place : FieldList options v)
    (listed : definition ∈ Reading.listed v) :
    Follows (field registry index definition) ((tree index definition).flatMap
      (stationsOf registry)) := by
  cases definition with
  | mapping es =>
    have hdefined := place.defines listed
    have hkeys := htexts es hdefined
    have hstations : (tree index (.mapping es)).flatMap (stationsOf registry) =
        [.ofResult (fieldName index es)] ++ ((warning? es).toList.map .report ++
          ([.ofResult (rules registry (get es "name") (get es "rules"))] ++
            ([.ofResult (chain registry (get es "name") (get es "dependent"))] ++
              (([.ofResult (items (get es "fields") ((get es "name").shown ++ ".fields"))] ++
                (treeBelow es).flatMap (stationsOf registry)) ++ [])))) := by
      simp [tree, stationsOf]
    rw [hstations]
    refine .lift_bind fun name hname => ?_
    obtain ⟨hnamed, rfl⟩ := fieldName_eq_ok hname
    have htext := isText_name hnames hdefined hnamed
    refine (follows_reportUnknown htext hkeys).bind fun _ _ => ?_
    refine .lift_bind fun own _ => .lift_bind fun dependent _ => ?_
    refine .of_ok (Data.spell_of_isSpellable (Data.isSpellable_of_isText htext)) ?_
    refine (follows_childFields htexts hnames es _ (.inner hdefined)).bind fun children _ => ?_
    exact follows_pure _
  | _ => exact follows_lift (.error _)
termination_by structural definition

theorem follows_childFields (htexts : HasTextKeys options) (hnames : HasTextNames options)
    (entries : List (Data × Data)) (owner : String)
    (place : FieldList options (get entries "fields")) :
    Follows (childFields registry owner entries)
      ([.ofResult (items (get entries "fields") owner)] ++
        (treeBelow entries).flatMap (stationsOf registry)) := by
  cases entries with
  | nil => exact follows_lift (.ok [])
  | cons e rest =>
    obtain ⟨key, v⟩ := e
    rw [get_cons] at place ⊢
    unfold childFields treeBelow
    split at place
    · next hkey =>
      rw [if_pos hkey, if_pos hkey, if_pos hkey]
      exact follows_fieldList htexts hnames v owner place
    · next hkey =>
      rw [if_neg hkey, if_neg hkey, if_neg hkey]
      exact follows_childFields htexts hnames rest owner place
termination_by structural entries

theorem follows_fieldList (htexts : HasTextKeys options) (hnames : HasTextNames options)
    (v : Data) (owner : String) (place : FieldList options v) :
    Follows (fieldList registry owner v) ([.ofResult (items v owner)] ++
      (treeOfList v).flatMap (stationsOf registry)) := by
  cases v with
  | null => exact follows_lift (.ok [])
  | list ds =>
    have hfields : Follows (fieldsFrom registry 0 ds)
        ((treeOfList (.list ds)).flatMap (stationsOf registry)) :=
      follows_fieldsFrom htexts hnames ds 0 place fun _ hd => hd
    exact (follows_lift (.ok ds)).bind (f := fun _ => fieldsFrom registry 0 ds)
      fun _ _ => hfields
  | _ => exact follows_lift (.error _)
termination_by structural v

theorem follows_fieldsFrom (htexts : HasTextKeys options) (hnames : HasTextNames options)
    (ds : List Data) (index : Nat) {v : Data} (place : FieldList options v)
    (h : ∀ d ∈ ds, d ∈ Reading.listed v) :
    Follows (fieldsFrom registry index ds) ((treeFrom index ds).flatMap (stationsOf registry)) := by
  cases ds with
  | nil => exact follows_pure []
  | cons d rest =>
    obtain ⟨hd, hrest⟩ := List.forall_mem_cons.mp h
    rw [treeFrom, List.flatMap_append, ← List.append_nil (List.flatMap _ (treeFrom _ _))]
    refine (follows_field htexts hnames d index place hd).bind fun f _ => ?_
    refine (follows_fieldsFrom htexts hnames rest _ place hrest).bind fun fs _ => ?_
    exact follows_pure _
termination_by structural ds

end

theorem register_of_isText (hw : w.name.isText) {label : Data} (hlabel : label.isText) (r : Rule) :
    w.register label r = (do
      Build.report .debug (registration w.name label w.labels.length).text
      pure (w.extended label r)) := by
  have hshown : ((if label.isTrue then label.spell else pure "<root>") : Build String) =
      pure (placeText label) := by
    unfold placeText
    split
    · rw [Data.spell_of_isSpellable (Data.isSpellable_of_isText hlabel)]
      rfl
    · rfl
  have howner : w.written = .ok (ownerText w.name w.labels.length) := by
    unfold Validator.written
    rw [Data.write, if_pos (Data.isSpellable_of_isText hw)]
    rfl
  unfold Validator.register
  rw [hshown, howner]
  rfl

theorem follows_declareRoot (hw : w.name.isText) (rs : List Rule) :
    Follows (declareRoot w rs) (if rs.isEmpty then [] else
      [.report (registration w.name (.text "") w.labels.length)]) := by
  unfold declareRoot
  split
  · exact follows_pure w
  · rw [Validator.declareRoot, register_of_isText hw rfl]
    exact (follows_report _ _).bind fun _ _ => follows_pure _

theorem declareField_of_isText {label : Data} (hlabel : label.isText) (c : Scope.Configure) :
    ∃ r, w.declareField label none c = w.register label r := by
  unfold Validator.declareField Step.reader
  rw [Data.spell_of_isSpellable (Data.isSpellable_of_isText hlabel),
    Validator.fieldPath_of_isText hlabel]
  exact ⟨_, rfl⟩

theorem follows_declareFields (htexts : HasTextKeys options) (hnames : HasTextNames options)
    (hw : w.name.isText) (ds : List Data) (index : Nat)
    (h : ∀ d ∈ ds, d ∈ Reading.listed (options.getD "fields" .null)) {count : Nat}
    (hcount : w.labels.length = count + index) :
    Follows (declareFields registry w index ds) ((ds.zipIdx index).flatMap fun e =>
      (tree e.2 e.1).flatMap (stationsOf registry) ++
        [.report (registration w.name (Reading.name e.1) (count + e.2))]) := by
  induction ds generalizing w index with
  | nil => exact follows_pure w
  | cons d rest ih =>
    obtain ⟨hd, hrest⟩ := List.forall_mem_cons.mp h
    rw [List.zipIdx_cons, List.flatMap_cons, List.append_assoc]
    refine (follows_field htexts hnames d index .top hd).bind fun f hf => ?_
    obtain ⟨name, steps⟩ := f
    obtain rfl : name = Reading.name d := (name_of_field hf).1
    have hlabel : (Reading.name d).isText := by
      cases d with
      | mapping es => exact isText_name hnames (.top hd) (isTrue_name_of_field hf)
      | _ => cases hf
    obtain ⟨r, hr⟩ := declareField_of_isText (w := w) hlabel fun s => Step.applyAll steps s
    dsimp only
    rw [hr, register_of_isText hw hlabel, hcount, bind_assoc]
    refine (follows_report _ _).bind fun _ _ => ?_
    have hcount' : (w.extended (Reading.name d) r).labels.length = count + (index + 1) := by
      simp [Validator.extended, hcount, Nat.add_assoc]
    exact ih (w := w.extended (Reading.name d) r) hw (index + 1) hrest hcount'

theorem follows_build (registry : Registry) (htexts : HasTextKeys options)
    (hnames : HasTextNames options) (hname : (options.getD "name" defaultName).isText) :
    Follows (build registry options) (stations registry options) := by
  unfold build stations
  dsimp only
  cases hself : options.find? fun o => o.1 == "self" with
  | some o =>
    refine ⟨nofun, fun h => ?_⟩
    cases h
    exact ⟨[], _, rfl, by simp, rfl⟩
  | none =>
    rw [List.append_assoc, List.append_assoc]
    refine .of_passed (.of_ok (Data.spell_of_isSpellable (Data.isSpellable_of_isText hname)) ?_)
    refine (follows_report _ _).bind fun _ _ => .lift_bind fun own hown => ?_
    have hroot := follows_declareRoot (w := .empty (options.getD "name" defaultName)) hname own
    rw [isEmpty_of_rules hown] at hroot
    have hreports : (rootReports options).map Station.report =
        if (Reading.listed (options.getD "root" .null)).isEmpty then [] else
          [.report (registration (options.getD "name" defaultName) (.text "") 0)] := by
      unfold rootReports
      split <;> rfl
    rw [hreports]
    refine hroot.bind fun w hw => .lift_bind fun ds hds => ?_
    obtain rfl : ds = Reading.listed _ := items_eq_ok hds
    have hcount : w.labels.length = rootCount options + 0 := by
      rw [labels_of_declareRoot hw, isEmpty_of_rules hown]
      unfold rootCount
      split <;> rfl
    have hwname : w.name = options.getD "name" defaultName :=
      (failsOnly_declareRoot (Q := fun _ => True) (Data.isSpellable_of_isText hname) own).2 w hw
    have hfields : Follows
        (declareFields registry w 0 (Reading.listed (options.getD "fields" .null))) _ :=
      follows_declareFields htexts hnames (hwname ▸ hname) _ 0 (fun d hd => hd) hcount
    rwa [hwname] at hfields

theorem reports_stationsOf (registry : Registry) (e : Nat × Data) :
    reports (stationsOf registry e) = (warningOf e.2).toList := by
  obtain ⟨index, d⟩ := e
  cases d with
  | mapping es =>
    rw [stationsOf, reports_append, reports_append, reports_map_report]
    simp [warningOf]
  | _ => rfl

/-- What building reports when it passes all stations does not depend on the registry. -/
theorem reports_stations (registry : Registry) (options : Arguments) :
    reports (stations registry options) = records options := by
  have htree : ∀ es : List (Nat × Data), reports (es.flatMap (stationsOf registry)) =
      es.filterMap fun e => warningOf e.2 := by
    intro es
    rw [reports_flatMap, List.filterMap_eq_flatMap_toList]
    simp only [reports_stationsOf]
  unfold stations records
  dsimp only
  rw [reports_append, reports_append, reports_append, reports_map_report, reports_flatMap]
  simp [reports_append, htree]

theorem treeBelow_eq (es : List (Data × Data)) : treeBelow es = treeOfList (get es "fields") := by
  induction es with
  | nil => rfl
  | cons e rest ih =>
    obtain ⟨key, v⟩ := e
    rw [treeBelow, get_cons, ih]
    split <;> rfl

theorem mem_treeFrom {ds : List Data} {d : Data} (h : d ∈ ds) (index : Nat) :
    ∃ i, ∀ e ∈ tree i d, e ∈ treeFrom index ds := by
  induction ds generalizing index with
  | nil => cases h
  | cons d' rest ih =>
    rcases List.mem_cons.mp h with rfl | hrest
    · exact ⟨index, fun e he => List.mem_append_left _ he⟩
    · obtain ⟨i, hi⟩ := ih hrest (index + 1)
      exact ⟨i, fun e he => List.mem_append_right _ (hi e he)⟩

mutual

theorem below_mem_tree (d : Data) {j i : Nat} {es : List (Data × Data)}
    (h : (i, .mapping es) ∈ tree j d) : ∀ e ∈ treeBelow es, e ∈ tree j d := by
  intro e he
  cases d with
  | mapping ds =>
    rcases List.mem_cons.mp h with heq | hbelow
    · cases heq
      exact List.mem_cons_of_mem _ he
    · exact List.mem_cons_of_mem _ (below_mem_treeBelow ds hbelow e he)
  | _ => cases List.mem_singleton.mp h
termination_by structural d

theorem below_mem_treeBelow (ds : List (Data × Data)) {i : Nat} {es : List (Data × Data)}
    (h : (i, .mapping es) ∈ treeBelow ds) : ∀ e ∈ treeBelow es, e ∈ treeBelow ds := by
  cases ds with
  | nil => cases h
  | cons entry rest =>
    obtain ⟨key, v⟩ := entry
    intro e he
    rw [treeBelow] at h ⊢
    split at h
    · next hkey =>
      rw [if_pos hkey]
      exact below_mem_treeOfList v h e he
    · next hkey =>
      rw [if_neg hkey]
      exact below_mem_treeBelow rest h e he
termination_by structural ds

theorem below_mem_treeOfList (v : Data) {i : Nat} {es : List (Data × Data)}
    (h : (i, .mapping es) ∈ treeOfList v) : ∀ e ∈ treeBelow es, e ∈ treeOfList v := by
  cases v with
  | list ds => exact below_mem_treeFrom ds h
  | _ => cases h
termination_by structural v

theorem below_mem_treeFrom (ds : List Data) {j i : Nat} {es : List (Data × Data)}
    (h : (i, .mapping es) ∈ treeFrom j ds) : ∀ e ∈ treeBelow es, e ∈ treeFrom j ds := by
  cases ds with
  | nil => cases h
  | cons d rest =>
    intro e he
    rcases List.mem_append.mp h with hd | hrest
    · exact List.mem_append_left _ (below_mem_tree d hd e he)
    · exact List.mem_append_right _ (below_mem_treeFrom rest hrest e he)
termination_by structural ds

end

/-- Every definition, at any depth, is met in the tree of one of the fields of the value itself. -/
theorem Defines.exists_mem_tree (h : Defines options es) :
    ∃ e ∈ topFields options, ∃ i, (i, .mapping es) ∈ tree e.2 e.1 := by
  induction h with
  | @top es listed =>
    obtain ⟨i, hi⟩ := List.getElem?_of_mem listed
    refine ⟨(.mapping es, i), List.mem_zipIdx_iff_getElem?.mpr hi, i, ?_⟩
    rw [tree]
    exact List.mem_cons_self
  | @inner es es' defined listed ih =>
    obtain ⟨e, he, i, hi⟩ := ih
    refine ⟨e, he, ?_⟩
    have hlist : get es "fields" = .list (Reading.listed (get es "fields")) := by
      cases hfields : get es "fields" with
      | list ds => rfl
      | _ => rw [hfields] at listed; cases listed
    obtain ⟨j, hj⟩ := mem_treeFrom listed 0
    have hbelow : (j, .mapping es') ∈ treeBelow es := by
      rw [treeBelow_eq, hlist]
      refine hj _ ?_
      rw [tree]
      exact List.mem_cons_self
    exact ⟨j, below_mem_tree e.1 hi _ hbelow⟩

theorem Defines.warning_mem_records (h : Defines options es) {r : Report}
    (hr : warning? es = some r) : r ∈ records options := by
  obtain ⟨e, he, i, hi⟩ := h.exists_mem_tree
  have hwarning : r ∈ (tree e.2 e.1).filterMap fun d => warningOf d.2 :=
    List.mem_filterMap.mpr ⟨_, hi, hr⟩
  exact List.mem_append_right _ (List.mem_flatMap.mpr ⟨e, he, List.mem_append_left _ hwarning⟩)

/-- Building a validator reports that it is created, then the registration for the whole value, and
then, for each field in order, the keys without a meaning of every definition in it and after them
the registration of the field. When building fails, it has reported what stands before the first
demand that the configuration does not meet. No definition is passed over, at any depth. -/
theorem events_of_build (registry : Registry) (htexts : HasTextKeys options)
    (hnames : HasTextNames options) (hname : (options.getD "name" defaultName).isText) :
    (∀ w, (build registry options).result = .ok w →
      (build registry options).events = records options) ∧
    (∀ f, (build registry options).result = .error f → ∃ before after,
      stations registry options = before ++ .demand (some f) :: after ∧
      (∀ s ∈ before, s.IsPassed) ∧ (build registry options).events = reports before) ∧
    reports (stations registry options) = records options ∧
    ∀ es, Defines options es → ∀ r ∈ warning? es, r ∈ records options := by
  have hbuild := follows_build registry htexts hnames hname
  have hreports := reports_stations registry options
  refine ⟨fun w hw => ?_, fun f hf => hbuild.stuck hf, hreports, fun es hes r hr => ?_⟩
  · rw [(hbuild.done hw).2, hreports]
  · exact hes.warning_mem_records hr

def sampleCity : List (Data × Data) :=
  [(.text "name", .text "city"), (.text "optionl", .bool true)]

def sampleAddress : List (Data × Data) :=
  [(.text "rulez", .null), (.text "name", .text "address"), (.text "groups", .null),
    (.text "fields", .list [.mapping sampleCity])]

/-- The last definition has a name only if that is its key. -/
def sampleBooking (key : String) : Arguments :=
  [("root", .list [.mapping [(.text "type", .text "Required")]]),
    ("fields", .list [.mapping sampleAddress, .mapping [(.text key, .text "age")]])]

theorem eq_of_defines_sampleBooking {key : String} (h : Defines (sampleBooking key) es) :
    es = sampleAddress ∨ es = sampleCity ∨ es = [(.text key, .text "age")] := by
  induction h with
  | top listed =>
    rcases List.mem_cons.mp listed with heq | hlast
    · cases heq
      exact .inl rfl
    · cases List.mem_singleton.mp hlast
      exact .inr (.inr rfl)
  | inner defined listed ih =>
    obtain rfl | rfl | rfl := ih
    · cases List.mem_singleton.mp listed
      exact .inr (.inl rfl)
    · cases listed
    · rw [get_cons] at listed
      split at listed <;> cases listed

theorem hasTextKeys_sampleBooking (key : String) : HasTextKeys (sampleBooking key) := by
  intro es hes
  obtain rfl | rfl | rfl := eq_of_defines_sampleBooking hes <;>
    simp [sampleAddress, sampleCity, Data.isText]

theorem hasTextNames_sampleBooking (key : String) : HasTextNames (sampleBooking key) := by
  intro es hes
  obtain rfl | rfl | rfl := eq_of_defines_sampleBooking hes
  · exact .inl rfl
  · exact .inl rfl
  · rw [get_cons]
    split
    · exact .inl rfl
    · exact .inr Bool.false_ne_true

theorem events_of_build_sampleBooking :
    (build .builtin (sampleBooking "name")).events =
      [⟨.info, "Creating validator: unnamed_validator"⟩,
        ⟨.debug,
          "Registering validation for '<root>' on Validator(name='unnamed_validator', fields=0)"⟩,
        ⟨.warning, "Ignoring unknown keys for field 'address': ['groups', 'rulez']"⟩,
        ⟨.warning, "Ignoring unknown keys for field 'city': ['optionl']"⟩,
        ⟨.debug,
          "Registering validation for 'address' on Validator(name='unnamed_validator', fields=1)"⟩,
        ⟨.debug,
          "Registering validation for 'age' on Validator(name='unnamed_validator', fields=2)"⟩] ∧
    ∃ before after, stations .builtin (sampleBooking "nam") =
        before ++ .demand (some (.fieldUnnamed 1 [.text "nam"])) :: after ∧
      (build .builtin (sampleBooking "nam")).events = reports before := by
  obtain ⟨hdone, -⟩ := events_of_build .builtin (hasTextKeys_sampleBooking "name")
    (hasTextNames_sampleBooking "name") rfl
  obtain ⟨-, hstuck, -⟩ := events_of_build .builtin (hasTextKeys_sampleBooking "nam")
    (hasTextNames_sampleBooking "nam") rfl
  constructor
  · rw [hdone _ rfl]
    decide +kernel
  · obtain ⟨before, after, hstations, -, hevents⟩ := hstuck _ rfl
    exact ⟨before, after, hstations, hevents⟩

end Assay.Configuration
