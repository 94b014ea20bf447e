import XenvmHal.Health.Calls

/-!
# Three ways to read the health state

A client learns the health state from a notification, from `getHealthInfo` or from the getters of
single properties. The first two write the same record out, around the same reading of the
average current. The getters ask nobody: each one reports success with a constant of its own.

`ReadPathsAgree` is what a client may expect of the three. The capacity alone breaks it, whatever
the battery monitor answers (`readPaths_differ`), which also says how each getter stands: two agree
always, two never, and the average current only when the reading happens to be the constant.
-/

namespace XenvmHal

open Interaction Program

namespace Health

variable {C : Type} {config : HealthdConfig} {board : Board} {s s' : Healthd C}
  {t u : List (SysEvent C)} {x : Int32 × Int64}

/-- The battery monitor answers `x` when it is asked for the average current. -/
def AnsweredWith (x : Int32 × Int64) : SysEvent C → Prop
  | ⟨.getProperty .currentAvg, y⟩ => y = x
  | _ => True

/-- The reading, narrowed to 32 bits; 0 when the monitor fails. -/
def narrowed (x : Int32 × Int64) : Int32 :=
  if x.1 = 0 then x.2.toInt32 else 0

/-- The information that a call notifies of. -/
def sentInfo : Sys C → Option HealthInfo
  | .healthInfoChanged _ info => some info
  | _ => none

/-- The information that a call returns to the client. -/
def returnedInfo : Sys C → Option (Result × HealthInfo)
  | .infoCb result info => some (result, info)
  | _ => none

/-- A getter that reports success reports the value of the field. -/
def Reads {α : Type} (getter : Proc C (Result × α)) (field : α) : Prop :=
  ∀ t result value, Runs getter t (result, value) → result = .success → value = field

/-- **The read paths agree** on `info`: `t` notifies of nothing else, `u` returns it, and so does
each getter, field by field. -/
structure ReadPathsAgree (info : HealthInfo) (t u : List (SysEvent C)) : Prop where
  notified : ∀ i ∈ (t.map Event.call).filterMap sentInfo, i = info
  returned : (u.map Event.call).filterMap returnedInfo = [(.success, info)]
  currentAverage : Reads (getCurrentAverage : Proc C _) info.batteryCurrentAverage
  currentNow : Reads (getCurrentNow : Proc C _) info.legacy.batteryCurrent
  capacity : Reads (getCapacity : Proc C _) info.legacy.batteryLevel
  chargeCounter : Reads (getChargeCounter : Proc C _) info.legacy.batteryChargeCounter
  chargeStatus : Reads (getChargeStatus : Proc C _) info.legacy.batteryStatus

/-! ### The paths one by one -/

theorem currentAverage_spec {currentAvg : Int32}
    (h : Runs (currentAverage : Proc C Int32) t currentAvg) (hx : ∀ e ∈ t, AnsweredWith x e) :
    currentAvg = narrowed x ∧ t.map Event.call = [.getProperty .currentAvg] := by
  obtain ⟨y, v, rfl, hv⟩ := runs_call_iff.1 h
  obtain ⟨rfl, rfl⟩ := runs_ret_iff.1 hv
  have hy : y = x := hx _ List.mem_cons_self
  subst hy
  exact ⟨rfl, rfl⟩

/-- **A notification** sends everybody the same information. -/
theorem notifyListeners_sent {r : HealthInfo × Healthd C} (h : Runs (notifyListeners board s) t r)
    (hx : ∀ e ∈ t, AnsweredWith x e) :
    (t.map Event.call).filterMap sentInfo =
      s.callbacks_.map fun _ ↦ healthInfo board (narrowed x) := by
  obtain ⟨v, w, currentAvg, rfl, hv, hw⟩ := runs_bind_iff.1 h
  obtain ⟨rfl, hread⟩ := currentAverage_spec hv fun e he ↦ hx e (List.mem_append_left _ he)
  obtain ⟨callbacks, hloop, -⟩ := runs_bind_ret_iff.1 hw
  rw [List.map_append, hread, (notifyLoop_spec hloop).1, List.drop_zero]
  show (s.callbacks_.map _).filterMap sentInfo = _
  rw [List.filterMap_map]
  exact congrFun (List.filterMap_eq_map (f := fun _ ↦ healthInfo board (narrowed x))) _

/-- **The bulk query** returns the same information. -/
theorem getHealthInfo_returned (h : Runs (getHealthInfo config board s) u s')
    (hx : ∀ e ∈ u, AnsweredWith x e) :
    (u.map Event.call).filterMap returnedInfo = [(.success, healthInfo board (narrowed x))] := by
  obtain ⟨v, w, ⟨result, s₁⟩, rfl, hupdate, hw⟩ := runs_bind_iff.1 h
  obtain ⟨w, w', currentAvg, rfl, hread, hw'⟩ := runs_bind_iff.1 hw
  obtain ⟨rfl, hcalls⟩ := currentAverage_spec hread fun e he ↦ hx e (by simp [he])
  obtain ⟨_, z, rfl, hz⟩ := runs_call_iff.1 hw'
  obtain ⟨rfl, -⟩ := runs_ret_iff.1 hz
  have hsilent : (v.map Event.call).filterMap returnedInfo = [] := by
    rw [List.filterMap_eq_nil_iff]
    intro c hc
    obtain ⟨e, he, rfl⟩ := List.mem_map.1 hc
    obtain ⟨fd, interval, hcall⟩ := ((update_only s).steps hupdate).1 e he
    rw [hcall]
    rfl
  rw [List.map_append, List.map_append, List.filterMap_append, hsilent, hcalls]
  rfl

/-- A getter agrees with a field that holds its constant. -/
theorem reads_getProperty_iff {α : Type} {id : BatteryProperty} {defaultValue field : α} :
    Reads (getProperty id defaultValue : Proc C _) field ↔ defaultValue = field := by
  constructor
  · intro h
    exact h [] .success defaultValue (Steps.refl _) rfl
  · rintro rfl t result value h -
    obtain ⟨-, hr⟩ := runs_ret_iff.1 h
    exact (Prod.mk.inj hr).2.symm

theorem reads_reportList {α : Type} (info : List α) :
    Reads (reportList info : Proc C _) info := by
  rintro t result value h -
  obtain ⟨-, hr⟩ := runs_ret_iff.1 h
  exact (Prod.mk.inj hr).2.symm

/-- The two lists are the same on every path, whatever the current average is. -/
theorem reads_lists (board : Board) (currentAvg : Int32) :
    Reads (getStorageInfo board : Proc C _) (healthInfo board currentAvg).storageInfos ∧
      Reads (getDiskStats board : Proc C _) (healthInfo board currentAvg).diskStats :=
  ⟨reads_reportList _, reads_reportList _⟩

/-! ### The paths together -/

/-- **The read paths never agree.** A notification and the bulk query do, and so do the getters of
the charge counter and of the charge status. Those of the current and of the capacity never do, and
the one of the average current does only when the reading is 1. -/
theorem readPaths_differ {s₁ s₂ : Healthd C} {r : HealthInfo × Healthd C}
    (ht : Runs (notifyListeners board s₁) t r) (hu : Runs (getHealthInfo config board s₂) u s')
    (htx : ∀ e ∈ t, AnsweredWith x e) (hux : ∀ e ∈ u, AnsweredWith x e) :
    (¬∃ info, ReadPathsAgree info t u) ∧
      (t.map Event.call).filterMap sentInfo =
        s₁.callbacks_.map (fun _ ↦ healthInfo board (narrowed x)) ∧
      (u.map Event.call).filterMap returnedInfo = [(.success, healthInfo board (narrowed x))] ∧
      Reads (getChargeCounter : Proc C _)
        (healthInfo board (narrowed x)).legacy.batteryChargeCounter ∧
      Reads (getChargeStatus : Proc C _) (healthInfo board (narrowed x)).legacy.batteryStatus ∧
      ¬Reads (getCurrentNow : Proc C _) (healthInfo board (narrowed x)).legacy.batteryCurrent ∧
      ¬Reads (getCapacity : Proc C _) (healthInfo board (narrowed x)).legacy.batteryLevel ∧
      (Reads (getCurrentAverage : Proc C _) (healthInfo board (narrowed x)).batteryCurrentAverage ↔
        x.1 = 0 ∧ x.2.toInt32 = 1) := by
  have hreturned := getHealthInfo_returned hu hux
  have hcapacity :
      ¬Reads (getCapacity : Proc C _) (healthInfo board (narrowed x)).legacy.batteryLevel := by
    rw [getCapacity, reads_getProperty_iff]
    show ¬(1 : Int32) = 100
    decide
  refine ⟨?_, notifyListeners_sent ht htx, hreturned, ?_, ?_, ?_, hcapacity, ?_⟩
  · rintro ⟨info, hagree⟩
    have hinfo : healthInfo board (narrowed x) = info := by
      simpa using hreturned.symm.trans hagree.returned
    exact hcapacity (hinfo ▸ hagree.capacity)
  · exact reads_getProperty_iff.2 rfl
  · exact reads_getProperty_iff.2 rfl
  · rw [getCurrentNow, reads_getProperty_iff]
    show ¬(1 : Int32) = 0
    decide
  · rw [getCurrentAverage, reads_getProperty_iff]
    show 1 = narrowed x ↔ _
    rw [narrowed]
    split
    case isTrue hok => exact ⟨fun h ↦ ⟨hok, h.symm⟩, fun h ↦ h.2.symm⟩
    case isFalse hfails => exact ⟨fun h ↦ absurd h (by decide), fun h ↦ absurd h.1 hfails⟩

/-- One listener is notified while the average current is 1. -/
def oneNotification : List (SysEvent ℕ) :=
  [⟨.getProperty .currentAvg, ((0 : Int32), (1 : Int64))⟩,
    ⟨.healthInfoChanged 7 (healthInfo .service 1), .ok ()⟩]

/-- The bulk query at the same moment. -/
def oneQuery : List (SysEvent ℕ) :=
  [⟨.getProperty .currentAvg, ((0 : Int32), (1 : Int64))⟩,
    ⟨.infoCb .success (healthInfo .service 1), ()⟩]

theorem runs_oneNotification :
    Runs (notifyListeners .service (Healthd.started [7])) oneNotification
      (healthInfo .service 1, Healthd.started [7]) := by
  refine Steps.call ?_
  show Steps (notifyLoop _ _ 0 >>= _) _ _
  rw [notifyLoop]
  refine Steps.call ?_
  show Steps (notifyLoop _ _ 1 >>= _) _ _
  rw [notifyLoop]
  exact Steps.refl _

theorem runs_oneQuery :
    Runs (getHealthInfo .default .service (Healthd.started [7])) oneQuery
      (Healthd.started [7]) := by
  repeat first | exact Steps.refl _ | apply Steps.call

theorem readPaths_differ_one :
    (¬∃ info, ReadPathsAgree info oneNotification oneQuery) ∧
      (oneNotification.map Event.call).filterMap sentInfo = [healthInfo .service 1] ∧
      (oneQuery.map Event.call).filterMap returnedInfo = [(.success, healthInfo .service 1)] ∧
      Reads (getChargeCounter : Proc ℕ _) 1 ∧ Reads (getChargeStatus : Proc ℕ _) .full ∧
      ¬Reads (getCurrentNow : Proc ℕ _) 0 ∧ ¬Reads (getCapacity : Proc ℕ _) 100 ∧
      (Reads (getCurrentAverage : Proc ℕ _) 1 ↔
        (0 : Int32) = 0 ∧ (1 : Int64).toInt32 = 1) :=
  readPaths_differ (x := (0, 1)) runs_oneNotification runs_oneQuery
    (by simp [oneNotification, AnsweredWith]) (by simp [oneQuery, AnsweredWith])

/-- **The capacity is 1 or 100**, depending on whom a client asks. -/
theorem capacity_differs :
    Runs (notifyListeners .service (Healthd.started [7])) oneNotification
        (healthInfo .service 1, Healthd.started [7]) ∧
      Runs (getHealthInfo .default .service (Healthd.started [7])) oneQuery (Healthd.started [7]) ∧
      (∀ e ∈ oneNotification ++ oneQuery, AnsweredWith (0, 1) e) ∧
      Runs (getCapacity : Proc ℕ _) [] (.success, 1) ∧
      (healthInfo .service 1).legacy.batteryLevel = 100 ∧
      ¬∃ info, ReadPathsAgree info oneNotification oneQuery := by
  refine ⟨runs_oneNotification, runs_oneQuery, by simp [oneNotification, oneQuery, AnsweredWith],
    Steps.refl _, rfl, ?_⟩
  rintro ⟨info, hagree⟩
  have hreturned : [(Result.success, healthInfo .service 1)] = [(.success, info)] := hagree.returned
  obtain rfl : healthInfo .service 1 = info := by simpa using hreturned
  have hcapacity : (1 : Int32) = 100 := reads_getProperty_iff.1 hagree.capacity
  revert hcapacity
  decide

end Health

end XenvmHal
