import Mathlib.Data.List.Nodup
import Assay.Proofs.Run
import Assay.Proofs.Spelling
import Assay.Registry

/-! # Requests to a registry

A registry is asked for one thing at a time. Under keys that are texts it
answers as an ordered map: what it holds decides every answer, each fault says
which key is missing or taken, and a request that ends with a fault leaves the
registry as it is.
-/

namespace Assay

theorem Data.eq_iff_of_isText {k v : Data} (h : k.isText) : k.eq v ↔ k = v := by
  cases k with
  | text s => cases v <;> simp [Data.eq, sameNumber, number?]
  | codes ns => cases v <;> simp [Data.eq, sameNumber, number?]
  | _ => cases h

theorem Data.hashable_of_isText {k : Data} (h : k.isText) : k.hashable = .ok () := by
  cases k with
  | text s => rfl
  | codes ns => rfl
  | _ => cases h

/-- No argument has the name of one that creating a rule takes itself. -/
def Arguments.AreFree (as : Arguments) : Prop :=
  ∀ a ∈ as, a.1 ≠ "self" ∧ a.1 ≠ "key"

namespace Registry

inductive Request
  | register (key : Data) (check : Check) (overwrite : Bool)
  | unregister (key : Data)
  | get (key : Data)
  | has (key : Data)
  | list
  | count
  | create (key : Data) (arguments : Arguments)

inductive Answer
  | done
  | check (c : Check)
  | flag (b : Bool)
  | keys (ks : List Data)
  | count (n : Nat)
  | rule (r : Rule)

/-- The answer to a request. A check that is removed is handed back. -/
def answer (r : Registry) : Request → Except Fault Answer
  | .register key c overwrite => do
    let _ ← (r.register key c overwrite).result
    pure .done
  | .unregister key => do
    let _ ← r.unregister key
    pure (.check (← r.get key))
  | .get key => do pure (.check (← r.get key))
  | .has key => do pure (.flag (← r.has key))
  | .list => .ok (.keys r.keys)
  | .count => .ok (.count r.size)
  | .create key as => do pure (.rule (← r.create key as))

/-- The registry after a request. A check is added before the addition is reported. -/
def next (r : Registry) : Request → Registry
  | .register key c overwrite => (r.add key c overwrite).toOption.getD r
  | .unregister key => (r.unregister key).toOption.getD r
  | _ => r

variable {r : Registry} {k l : Data} {c d : Check} {es : List (Data × Check)}

theorem isSome_find?_iff (hk : k.isText) : (r.find? k).isSome ↔ k ∈ r.keys := by
  rw [find?, Option.isSome_map, List.find?_isSome, keys, List.mem_map]
  refine exists_congr fun e => and_congr_right fun _ => ?_
  rw [Data.eq_iff_of_isText hk, eq_comm]

theorem find?_eq_none_iff (hk : k.isText) : r.find? k = none ↔ k ∉ r.keys := by
  rw [← isSome_find?_iff hk, Bool.not_eq_true, Option.isSome_eq_false_iff,
    Option.isNone_iff_eq_none]

theorem mem_of_find?_eq_some (hk : k.isText) (h : r.find? k = some c) : (k, c) ∈ r.entries := by
  obtain ⟨e, he, rfl⟩ := Option.map_eq_some_iff.mp h
  have heq := List.find?_some he
  obtain rfl := (Data.eq_iff_of_isText hk).mp heq
  exact List.mem_of_find?_eq_some he

theorem find?_eq_some_iff (hk : k.isText) (hr : r.keys.Nodup) :
    r.find? k = some c ↔ (k, c) ∈ r.entries := by
  refine ⟨mem_of_find?_eq_some hk, fun h => ?_⟩
  obtain ⟨d, hd⟩ := Option.isSome_iff_exists.mp
    ((isSome_find?_iff hk).mpr (List.mem_map_of_mem (f := Prod.fst) h))
  have hsame := List.inj_on_of_nodup_map hr h (mem_of_find?_eq_some hk hd) rfl
  rw [hd, (Prod.mk.inj hsame).2]

theorem keys_insert_of_mem (hk : k.isText) (h : k ∈ es.map Prod.fst) :
    (insert k c es).map Prod.fst = es.map Prod.fst := by
  induction es with
  | nil => cases h
  | cons e rest ih =>
    obtain ⟨l, d⟩ := e
    unfold insert
    split
    · next hl =>
      obtain rfl := (Data.eq_iff_of_isText hk).mp hl
      rfl
    · next hl =>
      rw [Data.eq_iff_of_isText hk] at hl
      rw [List.map_cons, List.map_cons, ih ((List.mem_cons.mp h).resolve_left hl)]

theorem insert_of_not_mem (hk : k.isText) (h : k ∉ es.map Prod.fst) :
    insert k c es = es ++ [(k, c)] := by
  induction es with
  | nil => rfl
  | cons e rest ih =>
    obtain ⟨l, d⟩ := e
    obtain ⟨hl, hrest⟩ := not_or.mp (fun hor => h (List.mem_cons.mpr hor))
    unfold insert
    rw [if_neg (fun hor => hl ((Data.eq_iff_of_isText hk).mp hor)), ih hrest, List.cons_append]

/-- The new entry takes the place of the one with its key; every other one stays. -/
theorem mem_insert (hk : k.isText) (h : (es.map Prod.fst).Nodup) :
    (l, d) ∈ insert k c es ↔ (l = k ∧ d = c) ∨ (l ≠ k ∧ (l, d) ∈ es) := by
  induction es with
  | nil => simp [insert]
  | cons e rest ih =>
    obtain ⟨m, b⟩ := e
    obtain ⟨hm, hrest⟩ := List.nodup_cons.mp h
    unfold insert
    split
    · next heq =>
      obtain rfl := (Data.eq_iff_of_isText hk).mp heq
      have hne : (l, d) ∈ rest → l ≠ k := by
        rintro hl rfl
        exact hm (List.mem_map.mpr ⟨_, hl, rfl⟩)
      grind
    · next hne =>
      rw [Data.eq_iff_of_isText hk] at hne
      grind

theorem raise_eq_error {α : Type} {f : Fault} (h : ∀ v ∈ f.named, v.isSpellable) :
    (f.raise : Except Fault α) = .error f := by
  rw [Fault.raise, if_pos (List.all_eq_true.mpr h)]

theorem get_of_mem (hk : k.isText) (hr : r.keys.Nodup) (h : (k, c) ∈ r.entries) :
    r.get k = .ok c := by
  rw [get, Data.hashable_of_isText hk, (find?_eq_some_iff hk hr).mpr h]
  rfl

theorem get_of_not_mem (hk : k.isText) (h : k ∉ r.keys) :
    r.get k = .error (.checkMissing k r.name (some r.keys)) := by
  rw [get, Data.hashable_of_isText hk, (find?_eq_none_iff hk).mpr h]
  exact raise_eq_error (by simpa [Fault.named] using Data.isSpellable_of_isText hk)

theorem unregister_of_mem (hk : k.isText) (h : k ∈ r.keys) :
    r.unregister k = .ok { r with entries := r.entries.filter fun e => !k.eq e.1 } := by
  obtain ⟨c, hc⟩ := Option.isSome_iff_exists.mp ((isSome_find?_iff hk).mpr h)
  rw [unregister, Data.hashable_of_isText hk, hc]
  rfl

theorem unregister_of_not_mem (hk : k.isText) (h : k ∉ r.keys) :
    r.unregister k = .error (.checkMissing k r.name none) := by
  rw [unregister, Data.hashable_of_isText hk, (find?_eq_none_iff hk).mpr h]
  have hraise : ((Fault.checkMissing k r.name none).raise : Except Fault Unit) = .error _ :=
    raise_eq_error (by simpa [Fault.named] using Data.isSpellable_of_isText hk)
  change (Fault.raise _ >>= _) = _
  rw [hraise]
  rfl

theorem add_of_free (hk : k.isText) {overwrite : Bool} (h : ¬ (k ∈ r.keys ∧ overwrite = false)) :
    r.add k c overwrite = .ok { r with entries := insert k c r.entries } := by
  have hfree : (!overwrite && (r.find? k).isSome) = false := by
    rw [Bool.eq_false_iff, Ne, Bool.and_eq_true, isSome_find?_iff hk, Bool.not_eq_true']
    exact fun hor => h hor.symm
  rw [add, Data.hashable_of_isText hk, hfree]
  rfl

theorem add_of_taken (hname : r.name.isSpellable) (hk : k.isText) (h : k ∈ r.keys) :
    r.add k c false = .error (.checkTaken k r.name) := by
  have hraise : ((Fault.checkTaken k r.name).raise : Except Fault Unit) = .error _ :=
    raise_eq_error (by simpa [Fault.named] using ⟨Data.isSpellable_of_isText hk, hname⟩)
  rw [add, Data.hashable_of_isText hk, (isSome_find?_iff hk).mpr h]
  change (Fault.raise _ >>= _) = _
  rw [hraise]
  rfl

theorem result_register (hname : r.name.isSpellable) (hk : k.isText) (overwrite : Bool) :
    (r.register k c overwrite).result = r.add k c overwrite := by
  have hspell : ∀ {v : Data}, v.isSpellable → v.spell = .ok v.shown := fun hv => if_pos hv
  unfold register
  rw [hspell (Data.isSpellable_of_isText hk), hspell hname, Traced.result_bind]
  exact bind_pure _

def Request.IsTextual : Request → Prop
  | .register key _ _ | .unregister key | .get key | .has key | .create key _ => key.isText
  | .list | .count => True

theorem create_of_areFree {as : Arguments} (h : as.AreFree) :
    r.create k as = (do (← r.get k) as) := by
  have hnone : as.find? (fun a => a.1 == "self" || a.1 == "key") = none := by
    refine List.find?_eq_none.mpr fun a ha => ?_
    simpa using h a ha
  rw [create, hnone]

theorem answer_register_of_free (hname : r.name.isSpellable) (hk : k.isText) {overwrite : Bool}
    (h : ¬ (k ∈ r.keys ∧ overwrite = false)) : r.answer (.register k c overwrite) = .ok .done := by
  rw [answer, result_register hname hk, add_of_free hk h]
  rfl

theorem answer_register_of_taken (hname : r.name.isSpellable) (hk : k.isText) (h : k ∈ r.keys) :
    r.answer (.register k c false) = .error (.checkTaken k r.name) := by
  rw [answer, result_register hname hk, add_of_taken hname hk h]
  rfl

theorem answer_get_of_mem (hk : k.isText) (hr : r.keys.Nodup) (h : (k, c) ∈ r.entries) :
    r.answer (.get k) = .ok (.check c) := by
  rw [answer, get_of_mem hk hr h]
  rfl

theorem answer_get_of_not_mem (hk : k.isText) (h : k ∉ r.keys) :
    r.answer (.get k) = .error (.checkMissing k r.name (some r.keys)) := by
  rw [answer, get_of_not_mem hk h]
  rfl

theorem answer_unregister_of_mem (hk : k.isText) (hr : r.keys.Nodup) (h : (k, c) ∈ r.entries) :
    r.answer (.unregister k) = .ok (.check c) := by
  rw [answer, unregister_of_mem hk (List.mem_map_of_mem (f := Prod.fst) h), get_of_mem hk hr h]
  rfl

theorem answer_unregister_of_not_mem (hk : k.isText) (h : k ∉ r.keys) :
    r.answer (.unregister k) = .error (.checkMissing k r.name none) := by
  rw [answer, unregister_of_not_mem hk h]
  rfl

/-- The registry gives the answers of an ordered map from its keys to its checks. Of its faults,
those of a missing key and of a taken one come exactly where they say so. -/
structure AnswersAsMap (r : Registry) : Prop where
  list : r.answer .list = .ok (.keys r.keys)
  count : r.answer .count = .ok (.count r.keys.length)
  has {k : Data} (hk : k.isText) : ∃ b, r.answer (.has k) = .ok (.flag b) ∧ (b ↔ k ∈ r.keys)
  get {k : Data} (hk : k.isText) (c : Check) :
    r.answer (.get k) = .ok (.check c) ↔ (k, c) ∈ r.entries
  get_missing {k : Data} (hk : k.isText) :
    (∃ f, r.answer (.get k) = .error f ∧ f.family = .missing ∧
      f.context? = Fault.details
        [("key", k), ("registry", r.name), ("available_keys", .list r.keys)]) ↔ k ∉ r.keys
  unregister {k : Data} (hk : k.isText) (c : Check) :
    r.answer (.unregister k) = .ok (.check c) ↔ (k, c) ∈ r.entries
  unregister_missing {k : Data} (hk : k.isText) :
    (∃ f, r.answer (.unregister k) = .error f ∧ f.family = .missing) ↔ k ∉ r.keys
  register {k : Data} (hk : k.isText) (c : Check) (overwrite : Bool) :
    r.answer (.register k c overwrite) = .ok .done ↔ ¬ (k ∈ r.keys ∧ overwrite = false)
  register_taken {k : Data} (hk : k.isText) (c : Check) (overwrite : Bool) :
    (∃ f, r.answer (.register k c overwrite) = .error f ∧ f.family = .operation) ↔
      k ∈ r.keys ∧ overwrite = false
  create {k : Data} (hk : k.isText) {as : Arguments} (has : as.AreFree) {c : Check} :
    (k, c) ∈ r.entries → r.answer (.create k as) = (do pure (.rule (← c as)))
  create_missing {k : Data} (hk : k.isText) {as : Arguments} (has : as.AreFree) {f : Fault} :
    r.answer (.get k) = .error f → r.answer (.create k as) = .error f
  unchanged {q : Request} (hq : q.IsTextual) {f : Fault} :
    r.answer q = .error f → r.next q = r

theorem answersAsMap (hname : r.name.isSpellable) (hr : r.keys.Nodup) : r.AnswersAsMap where
  list := rfl
  count := by rw [answer, keys, List.length_map, size]
  has {k} hk := by
    refine ⟨(r.find? k).isSome, ?_, isSome_find?_iff hk⟩
    rw [answer, Registry.has, Data.hashable_of_isText hk]
    rfl
  get {k} hk c := by
    refine ⟨fun h => ?_, answer_get_of_mem hk hr⟩
    by_cases hmem : k ∈ r.keys
    · obtain ⟨e, he, rfl⟩ := List.mem_map.mp hmem
      cases (answer_get_of_mem hk hr he).symm.trans h
      exact he
    · cases (answer_get_of_not_mem hk hmem).symm.trans h
  get_missing {k} hk := by
    refine ⟨?_, fun h => ⟨_, answer_get_of_not_mem hk h, rfl, rfl⟩⟩
    rintro ⟨f, hf, -⟩ hmem
    obtain ⟨e, he, rfl⟩ := List.mem_map.mp hmem
    cases (answer_get_of_mem hk hr he).symm.trans hf
  unregister {k} hk c := by
    refine ⟨fun h => ?_, answer_unregister_of_mem hk hr⟩
    by_cases hmem : k ∈ r.keys
    · obtain ⟨e, he, rfl⟩ := List.mem_map.mp hmem
      cases (answer_unregister_of_mem hk hr he).symm.trans h
      exact he
    · cases (answer_unregister_of_not_mem hk hmem).symm.trans h
  unregister_missing {k} hk := by
    refine ⟨?_, fun h => ⟨_, answer_unregister_of_not_mem hk h, rfl⟩⟩
    rintro ⟨f, hf, -⟩ hmem
    obtain ⟨e, he, rfl⟩ := List.mem_map.mp hmem
    cases (answer_unregister_of_mem hk hr he).symm.trans hf
  register {k} hk c overwrite := by
    refine ⟨?_, answer_register_of_free hname hk⟩
    rintro h ⟨hmem, rfl⟩
    cases (answer_register_of_taken hname hk hmem).symm.trans h
  register_taken {k} hk c overwrite := by
    constructor
    · rintro ⟨f, hf, -⟩
      by_contra hfree
      cases (answer_register_of_free hname hk hfree).symm.trans hf
    · rintro ⟨hmem, rfl⟩
      exact ⟨_, answer_register_of_taken hname hk hmem, rfl⟩
  create {k} hk as has c h := by
    rw [answer, create_of_areFree has, get_of_mem hk hr h]
    rfl
  create_missing {k} hk as has f h := by
    rw [answer, create_of_areFree has]
    rw [answer] at h
    rcases Traced.except_bind_eq_error.mp h with h | ⟨_, -, h⟩
    · rw [h]
      rfl
    · cases h
  unchanged {q} hq f h := by
    cases q with
    | register k c overwrite =>
      rw [answer, result_register hname hq] at h
      rw [next]
      cases hadd : r.add k c overwrite with
      | ok r' => rw [hadd] at h; cases h
      | error f => rfl
    | unregister k =>
      by_cases hmem : k ∈ r.keys
      · obtain ⟨e, he, rfl⟩ := List.mem_map.mp hmem
        cases (answer_unregister_of_mem hq hr he).symm.trans h
      · rw [next, unregister_of_not_mem hq hmem]
        rfl
    | _ => rfl

end Registry

end Assay
