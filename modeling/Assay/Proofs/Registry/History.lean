import Mathlib.Data.List.Induction
import Mathlib.Order.Bounds.Basic
import Assay.Proofs.Registry

/-! # Histories of a registry

What a registry holds is read off the requests that it has served: a key is held
from the registration that enters it to its removal, stands where that
registration put it, and leads to the check of its last registration that was
not refused.
-/

namespace Assay.Registry

variable {hs : List Request} {q : Request} {k l : Data} {c : Check} {n : Nat}

/-- The key has been registered, and not been removed since. -/
def Held (hs : List Request) (k : Data) : Prop :=
  ∃ before c overwrite after,
    hs = before ++ .register k c overwrite :: after ∧ .unregister k ∉ after

/-- The request registers a key that is not held behind the history `hs`. -/
def Enters (k : Data) (hs : List Request) (q : Request) : Prop :=
  (∃ c overwrite, q = .register k c overwrite) ∧ ¬ Held hs k

/-- The request registers the check under the key, and is not refused behind the history `hs`. -/
def Registers (k : Data) (c : Check) (hs : List Request) (q : Request) : Prop :=
  ∃ overwrite, q = .register k c overwrite ∧ (overwrite = true ∨ ¬ Held hs k)

/-- The places of the history at which a request has the property, given the history before it. -/
def places (P : List Request → Request → Prop) (hs : List Request) : Set Nat :=
  {n | ∃ q, hs[n]? = some q ∧ P (hs.take n) q}

/-- The last successful registration under the key is that of the check. -/
def Latest (hs : List Request) (k : Data) (c : Check) : Prop :=
  ∃ n ∈ places (Registers k c) hs, ∀ d, ∀ m ∈ places (Registers k d) hs, m ≤ n

/-- The keys stand in the order of the requests that entered them last, and each leads to the check
of its last successful registration. -/
structure Reflects (r : Registry) (hs : List Request) : Prop where
  distinct : r.keys.Nodup
  held (k : Data) : k ∈ r.keys ↔ Held hs k
  ordered : r.keys.Pairwise fun k l => ∃ m n,
    IsGreatest (places (Enters k) hs) m ∧ IsGreatest (places (Enters l) hs) n ∧ m < n
  latest (k : Data) (c : Check) : (k, c) ∈ r.entries ↔ Held hs k ∧ Latest hs k c

/-- A registry that has served requests from the empty one on. -/
def after (name : Data) (hs : List Request) : Registry := hs.foldl next (empty name)

theorem not_held_nil : ¬ Held [] k := by
  rintro ⟨before, c, overwrite, after, h, -⟩
  simp at h

theorem held_concat : Held (hs ++ [q]) k ↔
    (∃ c overwrite, q = .register k c overwrite) ∨ (q ≠ .unregister k ∧ Held hs k) := by
  constructor
  · rintro ⟨before, c, overwrite, after, h, hafter⟩
    obtain rfl | ⟨after, p, rfl⟩ := List.eq_nil_or_concat after
    · obtain ⟨rfl, hq⟩ := List.append_inj' h rfl
      exact .inl ⟨c, overwrite, (List.cons.inj hq).1⟩
    · rw [List.concat_eq_append, ← List.cons_append, ← List.append_assoc] at h
      obtain ⟨rfl, hq⟩ := List.append_inj' h rfl
      obtain rfl := (List.cons.inj hq).1
      rw [List.concat_eq_append, List.mem_append, not_or] at hafter
      exact .inr ⟨fun hq => hafter.2 (by rw [hq]; exact List.mem_singleton_self _),
        before, c, overwrite, after, rfl, hafter.1⟩
  · rintro (⟨c, overwrite, rfl⟩ | ⟨hq, before, c, overwrite, after, rfl, hafter⟩)
    · exact ⟨hs, c, overwrite, [], rfl, List.not_mem_nil⟩
    · refine ⟨before, c, overwrite, after ++ [q], by rw [List.append_assoc]; rfl, ?_⟩
      rw [List.mem_append, not_or, List.mem_singleton]
      exact ⟨hafter, hq.symm⟩

section

variable {P : List Request → Request → Prop}

theorem lt_length_of_mem_places (h : n ∈ places P hs) : n < hs.length := by
  obtain ⟨q, hq, -⟩ := h
  exact (List.getElem?_eq_some_iff.mp hq).1

theorem mem_places_concat :
    n ∈ places P (hs ++ [q]) ↔ n ∈ places P hs ∨ n = hs.length ∧ P hs q := by
  rcases Nat.lt_trichotomy n hs.length with hn | rfl | hn
  · simp [places, List.getElem?_append_left hn, List.take_append_of_le_length hn.le, hn.ne]
  · simp [places]
  · have hnone : (hs ++ [q])[n]? = none := by simp; omega
    have hnone' : hs[n]? = none := by simp; omega
    simp [places, hnone, hnone', hn.ne']

theorem isGreatest_places_concat_of_not (h : ¬ P hs q) :
    IsGreatest (places P (hs ++ [q])) n ↔ IsGreatest (places P hs) n := by
  have heq : places P (hs ++ [q]) = places P hs := by
    ext n
    simp [mem_places_concat, h]
  rw [heq]

theorem isGreatest_places_concat_of (h : P hs q) :
    IsGreatest (places P (hs ++ [q])) n ↔ n = hs.length := by
  have hgreatest : IsGreatest (places P (hs ++ [q])) hs.length := by
    refine ⟨mem_places_concat.mpr (.inr ⟨rfl, h⟩), fun m hm => ?_⟩
    rcases mem_places_concat.mp hm with hm | ⟨rfl, -⟩
    · exact (lt_length_of_mem_places hm).le
    · exact le_rfl
  exact ⟨fun hn => hn.unique hgreatest, fun hn => hn ▸ hgreatest⟩

end

variable {r : Registry} {overwrite : Bool} {d : Check}

theorem latest_concat_of_not (h : ∀ d, ¬ Registers k d hs q) :
    Latest (hs ++ [q]) k c ↔ Latest hs k c := by
  simp only [Latest, mem_places_concat, h, and_false, or_false]

theorem latest_concat_of (h : Registers k d hs q) : Latest (hs ++ [q]) k c ↔ c = d := by
  constructor
  · rintro ⟨n, hn, hlast⟩
    rcases mem_places_concat.mp hn with hn | ⟨-, overwrite, rfl, -⟩
    · have hle := hlast d hs.length (mem_places_concat.mpr (.inr ⟨rfl, h⟩))
      exact absurd (lt_length_of_mem_places hn) (Nat.not_lt.mpr hle)
    · obtain ⟨overwrite', heq, -⟩ := h
      cases heq
      rfl
  · rintro rfl
    refine ⟨hs.length, mem_places_concat.mpr (.inr ⟨rfl, h⟩), fun d m hm => ?_⟩
    have hlt := lt_length_of_mem_places hm
    rw [List.length_append, List.length_singleton] at hlt
    omega

theorem enters_register : Enters k hs (.register l c overwrite) ↔ k = l ∧ ¬ Held hs k := by
  simp [Enters, eq_comm]

theorem registers_register : Registers k d hs (.register l c overwrite) ↔
    k = l ∧ d = c ∧ (overwrite = true ∨ ¬ Held hs k) := by
  simp [Registers]; grind

theorem held_register : Held (hs ++ [.register l c overwrite]) k ↔ k = l ∨ Held hs k := by
  rw [held_concat]
  simp [eq_comm]

theorem held_unregister : Held (hs ++ [.unregister l]) k ↔ k ≠ l ∧ Held hs k := by
  rw [held_concat]
  simp [eq_comm]

theorem not_enters_of_not_registers (h : ∀ d, ¬ Registers k d hs q) : ¬ Enters k hs q := by
  rintro ⟨⟨c, overwrite, rfl⟩, hk⟩
  exact h c ⟨overwrite, rfl, .inr hk⟩

theorem exists_isGreatest_places_enters (h : Held hs k) :
    ∃ n, IsGreatest (places (Enters k) hs) n := by
  induction hs using List.reverseRecOn with
  | nil => exact absurd h not_held_nil
  | append_singleton hs q ih =>
    by_cases henter : Enters k hs q
    · exact ⟨hs.length, (isGreatest_places_concat_of henter).mpr rfl⟩
    · have hbefore : Held hs k := by
        by_contra hnot
        rcases held_concat.mp h with hq | ⟨-, hheld⟩
        · exact henter ⟨hq, hnot⟩
        · exact hnot hheld
      obtain ⟨n, hn⟩ := ih hbefore
      exact ⟨n, (isGreatest_places_concat_of_not henter).mpr hn⟩

/-- A request that is refused, or asks without a change, leaves everything where it is. -/
theorem Reflects.concat_of_idle (h : r.Reflects hs) (hheld : ∀ k, Held (hs ++ [q]) k ↔ Held hs k)
    (hq : ∀ k d, ¬ Registers k d hs q) : r.Reflects (hs ++ [q]) where
  distinct := h.distinct
  held k := (h.held k).trans (hheld k).symm
  ordered := by
    simp only [isGreatest_places_concat_of_not (not_enters_of_not_registers (hq _))]
    exact h.ordered
  latest k c := by rw [h.latest, hheld, latest_concat_of_not (hq k)]

theorem Reflects.replace (h : r.Reflects hs) (hk : k.isText) (hmem : k ∈ r.keys) (c : Check) :
    Reflects { r with entries := insert k c r.entries } (hs ++ [.register k c true]) := by
  have hkeys : keys { r with entries := insert k c r.entries } = r.keys :=
    keys_insert_of_mem hk hmem
  have hheld : ∀ l, Held (hs ++ [.register k c true]) l ↔ Held hs l := by
    intro l
    rw [held_register, or_iff_right_iff_imp]
    rintro rfl
    exact (h.held l).mp hmem
  have henters : ∀ l, ¬ Enters l hs (.register k c true) := by
    intro l hl
    obtain ⟨rfl, hnot⟩ := enters_register.mp hl
    exact hnot ((h.held l).mp hmem)
  refine ⟨hkeys ▸ h.distinct, fun l => ?_, ?_, fun l d => ?_⟩
  · rw [hkeys, h.held, hheld]
  · simp only [hkeys, isGreatest_places_concat_of_not (henters _)]
    exact h.ordered
  · rw [mem_insert hk h.distinct, hheld]
    by_cases hl : l = k
    · subst hl
      have hreg : Registers l c hs (.register l c true) :=
        registers_register.mpr ⟨rfl, rfl, .inl rfl⟩
      simp [latest_concat_of hreg, (h.held l).mp hmem]
    · have hreg : ∀ d, ¬ Registers l d hs (.register k c true) :=
        fun d hd => hl (registers_register.mp hd).1
      simp [latest_concat_of_not hreg, hl, h.latest]

theorem Reflects.enter (h : r.Reflects hs) (hk : k.isText) (hmem : k ∉ r.keys) (c : Check)
    (overwrite : Bool) :
    Reflects { r with entries := insert k c r.entries } (hs ++ [.register k c overwrite]) := by
  have hentries : insert k c r.entries = r.entries ++ [(k, c)] := insert_of_not_mem hk hmem
  have hkeys : keys { r with entries := insert k c r.entries } = r.keys ++ [k] := by
    rw [keys, hentries, List.map_append]
    rfl
  have hnot : ¬ Held hs k := fun hheld => hmem ((h.held k).mpr hheld)
  have henter : Enters k hs (.register k c overwrite) := enters_register.mpr ⟨rfl, hnot⟩
  have hother : ∀ l ∈ r.keys, ¬ Enters l hs (.register k c overwrite) := by
    intro l hl hl'
    obtain ⟨rfl, -⟩ := enters_register.mp hl'
    exact hmem hl
  refine ⟨?_, fun l => ?_, ?_, fun l d => ?_⟩
  · rw [hkeys, List.nodup_append_comm]
    exact List.nodup_cons.mpr ⟨hmem, h.distinct⟩
  · rw [hkeys, List.mem_append, List.mem_singleton, h.held, held_register, or_comm]
  · rw [hkeys, List.pairwise_append]
    refine ⟨h.ordered.imp_of_mem fun {l m} hl hm => ?_, List.pairwise_singleton _ _,
      fun l hl m hm => ?_⟩
    · simp only [isGreatest_places_concat_of_not (hother l hl),
        isGreatest_places_concat_of_not (hother m hm), imp_self]
    · obtain rfl := List.mem_singleton.mp hm
      obtain ⟨n, hn⟩ := exists_isGreatest_places_enters ((h.held l).mp hl)
      exact ⟨n, hs.length, (isGreatest_places_concat_of_not (hother l hl)).mpr hn,
        (isGreatest_places_concat_of henter).mpr rfl, lt_length_of_mem_places hn.1⟩
  · rw [hentries, List.mem_append, List.mem_singleton, Prod.mk.injEq, h.latest, held_register]
    by_cases hl : l = k
    · subst hl
      have hreg : Registers l c hs (.register l c overwrite) :=
        registers_register.mpr ⟨rfl, rfl, .inr hnot⟩
      simp [latest_concat_of hreg, hnot]
    · have hreg : ∀ d, ¬ Registers l d hs (.register k c overwrite) :=
        fun d hd => hl (registers_register.mp hd).1
      simp [latest_concat_of_not hreg, hl]

theorem Reflects.remove (h : r.Reflects hs) (hk : k.isText) :
    Reflects { r with entries := r.entries.filter fun e => !k.eq e.1 }
      (hs ++ [.unregister k]) := by
  have hkept : ∀ l, (!k.eq l) = true ↔ l ≠ k := by
    intro l
    rw [Bool.not_eq_true', Bool.eq_false_iff, Ne, Data.eq_iff_of_isText hk, eq_comm]
  have hkeys : keys { r with entries := r.entries.filter fun e => !k.eq e.1 } =
      r.keys.filter fun l => !k.eq l := by
    rw [keys, keys, List.filter_map]
    rfl
  have hreg : ∀ l d, ¬ Registers l d hs (.unregister k) := by
    rintro l d ⟨overwrite, hq, -⟩
    cases hq
  refine ⟨?_, fun l => ?_, ?_, fun l d => ?_⟩
  · rw [hkeys]
    exact h.distinct.filter _
  · rw [hkeys, List.mem_filter, hkept, h.held, held_unregister, and_comm]
  · simp only [hkeys, isGreatest_places_concat_of_not (not_enters_of_not_registers (hreg _))]
    exact h.ordered.filter _
  · rw [List.mem_filter, hkept, h.latest, held_unregister, latest_concat_of_not (hreg l)]
    tauto

/-- One request, answered or refused, keeps the registry a reflection of what it has served. -/
theorem Reflects.next (h : r.Reflects hs) (hname : r.name.isSpellable) (hq : q.IsTextual) :
    (r.next q).Reflects (hs ++ [q]) := by
  have hasks : (∀ l, q ≠ .unregister l) → (∀ l c overwrite, q ≠ .register l c overwrite) →
      r.Reflects (hs ++ [q]) := by
    intro hun hreg
    refine h.concat_of_idle (fun l => ?_) fun l d hd => ?_
    · simp [held_concat, hun, hreg]
    · obtain ⟨overwrite, hq, -⟩ := hd
      exact hreg _ _ _ hq
  cases q with
  | register k c overwrite =>
    by_cases hmem : k ∈ r.keys
    · cases overwrite with
      | true =>
        rw [Registry.next, add_of_free hq (by simp)]
        exact h.replace hq hmem c
      | false =>
        rw [Registry.next, add_of_taken hname hq hmem]
        have hheld : Held hs k := (h.held k).mp hmem
        refine h.concat_of_idle (fun l => ?_) fun l d hd => ?_
        · rw [held_register, or_iff_right_iff_imp]
          rintro rfl
          exact hheld
        · obtain ⟨rfl, -, hfree⟩ := registers_register.mp hd
          simp [hheld] at hfree
    · rw [Registry.next, add_of_free hq (fun hor => hmem hor.1)]
      exact h.enter hq hmem c overwrite
  | unregister k =>
    by_cases hmem : k ∈ r.keys
    · rw [Registry.next, unregister_of_mem hq hmem]
      exact h.remove hq
    · rw [Registry.next, unregister_of_not_mem hq hmem]
      refine h.concat_of_idle (fun l => ?_) fun l d hd => ?_
      · rw [held_unregister, and_iff_right_iff_imp]
        rintro hl rfl
        exact hmem ((h.held l).mpr hl)
      · obtain ⟨overwrite, hq, -⟩ := hd
        cases hq
  | _ => exact hasks (by simp) (by simp)

theorem name_of_add {added : Registry} (h : r.add k c overwrite = .ok added) :
    added.name = r.name := by
  obtain ⟨_, -, h⟩ := Traced.except_bind_eq_ok.mp h
  dsimp only at h
  split at h
  · obtain ⟨_, -, h⟩ := Traced.except_bind_eq_ok.mp h
    cases h
    rfl
  · cases h
    rfl

theorem name_of_unregister {left : Registry} (h : r.unregister k = .ok left) :
    left.name = r.name := by
  obtain ⟨_, -, h⟩ := Traced.except_bind_eq_ok.mp h
  dsimp only at h
  split at h
  · obtain ⟨_, -, h⟩ := Traced.except_bind_eq_ok.mp h
    cases h
    rfl
  · cases h
    rfl

theorem name_next (r : Registry) (q : Request) : (r.next q).name = r.name := by
  cases q with
  | register k c overwrite =>
    rw [Registry.next]
    cases h : r.add k c overwrite with
    | error f => rfl
    | ok added => exact name_of_add h
  | unregister k =>
    rw [Registry.next]
    cases h : r.unregister k with
    | error f => rfl
    | ok left => exact name_of_unregister h
  | _ => rfl

theorem after_concat (name : Data) (hs : List Request) (q : Request) :
    after name (hs ++ [q]) = (after name hs).next q := by
  rw [after, List.foldl_append]
  rfl

theorem name_after (name : Data) (hs : List Request) : (after name hs).name = name := by
  induction hs using List.reverseRecOn with
  | nil => rfl
  | append_singleton hs q ih => rw [after_concat, name_next, ih]

theorem reflects_empty (name : Data) : (empty name).Reflects [] where
  distinct := List.nodup_nil
  held k := by simp [keys, empty, not_held_nil]
  ordered := List.Pairwise.nil
  latest k c := by simp [empty, not_held_nil]

theorem reflects_after {name : Data} (hname : name.isSpellable) (hs : List Request)
    (h : ∀ q ∈ hs, q.IsTextual) : (after name hs).Reflects hs := by
  induction hs using List.reverseRecOn with
  | nil => exact reflects_empty name
  | append_singleton hs q ih =>
    rw [after_concat]
    refine (ih fun p hp => h p (List.mem_append_left _ hp)).next ?_ (h q (by simp))
    rwa [name_after]

/-- Behind every history of requests under texts, what the registry holds is what the history says,
and it answers the next request from that alone, as an ordered map does. -/
theorem orderedMap_after {name : Data} (hname : name.isSpellable) (hs : List Request)
    (h : ∀ q ∈ hs, q.IsTextual) : (after name hs).Reflects hs ∧ (after name hs).AnswersAsMap := by
  have hreflects := reflects_after hname hs h
  exact ⟨hreflects, answersAsMap (by rwa [name_after]) hreflects.distinct⟩

def reentered : List Request :=
  [.register (.text "a") Check.required false, .register (.text "b") Check.notBlank false,
   .register (.text "a") Check.notEmpty true, .register (.text "b") Check.required false,
   .unregister (.text "a"), .register (.text "a") Check.required false]

theorem orderedMap_after_reentered :
    (after (.text "checks") reentered).keys = [.text "b", .text "a"] ∧
      (after (.text "checks") reentered).Reflects reentered ∧
      (after (.text "checks") reentered).AnswersAsMap :=
  ⟨rfl, orderedMap_after rfl reentered fun q hq => by
    simp only [reentered, List.mem_cons, List.not_mem_nil, or_false] at hq
    rcases hq with rfl | rfl | rfl | rfl | rfl | rfl <;> rfl⟩

end Assay.Registry
