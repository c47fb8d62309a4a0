import Assay.Registry
import Assay.Proofs.Run

/-! # Stations

A computation that reports what it does comes to stations, which are reports and
demands. It passes all of them, or it ends at the first demand that is not met
and leaves the reports before it.
-/

namespace Assay

variable {α β : Type}

/-- What a computation comes to: a report, or a demand with the fault of not meeting it. -/
inductive Station
  | report (r : Report)
  | demand (fault : Option Fault)

namespace Station

def report? : Station → Option Report
  | report r => some r
  | demand _ => none

/-- The computation goes on behind the station. -/
def IsPassed (s : Station) : Prop := ∀ f, s ≠ demand (some f)

/-- The demand that something gives a value. -/
def ofResult : Except Fault α → Station
  | .ok _ => demand none
  | .error f => demand (some f)

end Station

def reports (ss : List Station) : List Report := ss.filterMap Station.report?

@[simp] theorem reports_nil : reports [] = [] := rfl

@[simp] theorem reports_report_cons (r : Report) (ss : List Station) :
    reports (.report r :: ss) = r :: reports ss := rfl

@[simp] theorem reports_demand_cons (fault : Option Fault) (ss : List Station) :
    reports (.demand fault :: ss) = reports ss := rfl

@[simp] theorem reports_ofResult_cons (x : Except Fault α) (ss : List Station) :
    reports (.ofResult x :: ss) = reports ss := by
  cases x <;> rfl

theorem reports_append (ss ts : List Station) : reports (ss ++ ts) = reports ss ++ reports ts :=
  List.filterMap_append

theorem reports_flatMap (as : List α) (f : α → List Station) :
    reports (as.flatMap f) = as.flatMap fun a => reports (f a) := List.filterMap_flatMap

theorem reports_map_report (rs : List Report) : reports (rs.map .report) = rs := by
  unfold reports
  rw [List.filterMap_map]
  exact List.filterMap_some

/-- The computation passes all stations and leaves their reports, or it ends with the fault of the
first demand that is not met and leaves the reports before it. -/
structure Follows (x : Build α) (ss : List Station) : Prop where
  done : ∀ {a}, x.result = .ok a → (∀ s ∈ ss, s.IsPassed) ∧ x.events = reports ss
  stuck : ∀ {f}, x.result = .error f → ∃ before after, ss = before ++ .demand (some f) :: after ∧
    (∀ s ∈ before, s.IsPassed) ∧ x.events = reports before

theorem follows_pure (a : α) : Follows (pure a) [] where
  done _ := ⟨by simp, rfl⟩
  stuck h := by cases h

theorem follows_report (level : Level) (text : String) :
    Follows (Build.report level text) [.report ⟨level, text⟩] where
  done _ := ⟨by simp [Station.IsPassed], rfl⟩
  stuck h := by cases h

theorem follows_lift (x : Except Fault α) : Follows (liftM x) [.ofResult x] := by
  cases x with
  | ok a => exact ⟨fun _ => ⟨by simp [Station.IsPassed, Station.ofResult], rfl⟩, nofun⟩
  | error e => exact ⟨nofun, fun h => ⟨[], [], by cases h; rfl, by simp, rfl⟩⟩

namespace Follows

variable {x : Build α} {y : Except Fault α} {f : α → Build β} {ss ts : List Station}

theorem bind (hx : Follows x ss) (hf : ∀ a, x.result = .ok a → Follows (f a) ts) :
    Follows (x >>= f) (ss ++ ts) := by
  cases hresult : x.result with
  | ok a =>
    obtain ⟨hpassed, hevents⟩ := hx.done hresult
    rw [Traced.bind_of_ok hresult, hevents]
    constructor
    · intro b hb
      obtain ⟨hpassed', hevents'⟩ := (hf a hresult).done hb
      rw [hevents', ← reports_append]
      exact ⟨List.forall_mem_append.mpr ⟨hpassed, hpassed'⟩, rfl⟩
    · intro e he
      obtain ⟨before, after, rfl, hpassed', hevents'⟩ := (hf a hresult).stuck he
      rw [hevents', ← reports_append]
      exact ⟨ss ++ before, after, (List.append_assoc ..).symm,
        List.forall_mem_append.mpr ⟨hpassed, hpassed'⟩, rfl⟩
  | error e =>
    rw [Traced.bind_of_error hresult]
    refine ⟨nofun, fun h => ?_⟩
    cases h
    obtain ⟨before, after, rfl, hpassed, hevents⟩ := hx.stuck hresult
    exact ⟨before, after ++ ts, by simp, hpassed, hevents⟩

theorem lift_bind (hf : ∀ a, y = .ok a → Follows (f a) ss) :
    Follows (liftM y >>= f) ([.ofResult y] ++ ss) :=
  (follows_lift y).bind hf

theorem of_ok {a : α} (h : y = .ok a) (hf : Follows (f a) ss) : Follows (liftM y >>= f) ss := by
  rw [h]
  exact hf

theorem of_passed (h : Follows x ss) : Follows x (.demand none :: ss) :=
  (follows_lift (.ok ())).bind (f := fun _ => x) fun _ _ => h

end Follows

end Assay
