import XenvmHal.Health.Mainloop
import XenvmHal.Interaction.Monitor

/-!
# What the event handlers keep

The main loop runs periodic work and three event handlers, and through the binder handler any
sequence of transactions. An invariant of the loop has to survive all of them. What it has to
survive is little: the registry of callbacks changes, an update runs, and a few calls are made
that have nothing to do with the loop. `Kept` says that an invariant `I` of the process and an
invariant `J` of a monitor's ghost state survive just that, and then every handler keeps them.

`main_safe_of_invariant` is the rule for the daemon as a whole: set-up establishes an invariant,
and one iteration of the loop keeps it.
-/

namespace XenvmHal

open Interaction Program

namespace Health

variable {C : Type}

/-- The calls that serving an event makes, other than the one that fetches it and those of an
update. -/
def IsServingCall : Sys C → Prop
  | .linkToDeath _ | .unlinkToDeath _ | .infoCb _ _ | .getProperty _ | .dumpState | .modeOp _
  | .periodicChores | .outOfBounds => True
  | _ => False

/-- The call with which a handler fetches what it serves from `fd`. -/
def handlerCall (fd : Int) : EventHandler → Sys C
  | .binderEvent => .handleTransportPoll fd
  | .wakealarmEvent => .readWakealarm fd
  | .ueventEvent => .ueventRecv fd ueventMsgLen

/-- The static variable from which a handler takes its file descriptor. -/
def Healthd.fdOf (s : Healthd C) : EventHandler → Int
  | .binderEvent => s.gBinderFd
  | .wakealarmEvent => s.wakealarmFd
  | .ueventEvent => s.ueventFd

/-- Every run of `p` keeps the invariants. -/
abbrev Keeps {σ α : Type} (M : Monitor (Sys C) SysAnswer σ) (J : σ → Prop) (I : Healthd C → Prop)
    (state : α → Healthd C) (p : Proc C α) : Prop :=
  ∀ a, J a → Safe M (fun r a' ↦ I (state r) ∧ J a') a p

/-- **What the invariants have to survive.** -/
structure Kept {σ : Type} (config : HealthdConfig) (M : Monitor (Sys C) SysAnswer σ) (J : σ → Prop)
    (I : Healthd C → Prop) : Prop where
  pre : ∀ a c, J a → IsServingCall c → M.pre a c
  next : ∀ a c x, J a → IsServingCall c → J (M.next a ⟨c, x⟩)
  callbacks : ∀ s callbacks, I s → I { s with callbacks_ := callbacks }
  update : ∀ s, I s → Keeps M J I Prod.snd (update config s)
  /-- The check of the instance may fail only where that is permitted. -/
  checked : ∀ s a, I s → J a → s.instance_ = false → M.pre a .abort
  /-- So may reading the table of the mode. -/
  deref : ∀ s a, I s → J a → s.healthdModeOps = none → M.pre a .nullDereference

section Keeps

variable {σ α β : Type} {config : HealthdConfig} {M : Monitor (Sys C) SysAnswer σ} {J : σ → Prop}
  {I : Healthd C → Prop} {state : α → Healthd C} {state' : β → Healthd C} {s : Healthd C}

theorem keeps_ret {r : α} (hr : I (state r)) : Keeps M J I state (ret r : Proc C α) :=
  fun _ ha ↦ ⟨hr, ha⟩

theorem Keeps.bind {p : Proc C α} {f : α → Proc C β} (h : Keeps M J I state p)
    (hf : ∀ r, I (state r) → Keeps M J I state' (f r)) : Keeps M J I state' (p >>= f) :=
  fun a ha ↦ (h a ha).bind fun r a' hr ↦ hf r hr.1 a' hr.2

/-- A call that is permitted and keeps the ghost invariant. -/
theorem keeps_call {c : Sys C} {k : SysAnswer c → Proc C α} (hpre : ∀ a, J a → M.pre a c)
    (hnext : ∀ a x, J a → J (M.next a ⟨c, x⟩)) (hk : ∀ x, Keeps M J I state (k x)) :
    Keeps M J I state (Program.call c k) :=
  fun a ha ↦ ⟨hpre a ha, fun x _ ↦ hk x _ (hnext a x ha)⟩

variable (h : Kept config M J I)
include h

theorem Kept.call {c : Sys C} {k : SysAnswer c → Proc C α} (hc : IsServingCall c)
    (hk : ∀ x, Keeps M J I state (k x)) : Keeps M J I state (Program.call c k) :=
  keeps_call (fun a ha ↦ h.pre a c ha hc) (fun a x ha ↦ h.next a c x ha hc) hk

theorem Kept.getImplementation (hs : I s) : Keeps M J I (fun _ ↦ s) (getImplementation s) := by
  rw [Health.getImplementation]
  split
  · exact keeps_ret hs
  · rename_i hinstance
    exact fun a ha ↦ ⟨h.checked s a hs ha (eq_false_of_ne_true hinstance), fun x ↦ x.elim⟩

theorem Kept.callModeOp (hs : I s) (op : ModeOp) :
    Keeps M J I (fun _ ↦ s) (callModeOp s op) := by
  rw [Health.callModeOp]
  split
  · exact h.call trivial fun _ ↦ keeps_ret hs
  · rename_i hops
    exact fun a ha ↦ ⟨h.deref s a hs ha hops, fun x ↦ x.elim⟩

theorem Kept.healthdBatteryUpdate (hs : I s) :
    Keeps M J I id (healthdBatteryUpdate config s) :=
  (h.getImplementation hs).bind fun _ hs ↦ (h.update s hs).bind fun _ hs ↦ keeps_ret hs

theorem Kept.periodicChores (hs : I s) : Keeps M J I id (periodicChores config s) :=
  h.call trivial fun _ ↦ h.healthdBatteryUpdate hs

theorem Kept.getHealthInfo (board : Board) (hs : I s) :
    Keeps M J I id (getHealthInfo config board s) :=
  (h.update s hs).bind fun _ hs ↦ h.call trivial fun _ ↦ h.call trivial fun _ ↦ keeps_ret hs

theorem Kept.debug (board : Board) (hs : I s) (numFds : Option ℕ) :
    Keeps M J I id (debug config board s numFds) := by
  rw [Health.debug]
  split
  · exact h.call trivial fun _ ↦ h.getHealthInfo board hs
  · exact keeps_ret hs

theorem Kept.registerCallback (hs : I s) (callback : Option C) :
    Keeps M J I Prod.snd (registerCallback config s callback) := by
  cases callback with
  | none => exact keeps_ret hs
  | some callback =>
    have hpush : I (registerPush s callback) := h.callbacks s _ hs
    exact h.call trivial fun _ ↦ h.update _ hpush

/-- **The wake alarm**, if its file descriptor may be read. -/
theorem Kept.wakealarmEvent (hs : I s) (hpre : ∀ a, J a → M.pre a (.readWakealarm s.wakealarmFd))
    (hnext : ∀ a x, J a → J (M.next a ⟨.readWakealarm s.wakealarmFd, x⟩)) :
    Keeps M J I id (wakealarmEvent config s) := by
  refine keeps_call hpre hnext fun result ↦ ?_
  show Keeps M J I id (if result = -1 then _ else _)
  split
  · exact keeps_ret hs
  · exact h.periodicChores hs

/-- **A uevent**, if its socket may be read. -/
theorem Kept.ueventEvent (hs : I s)
    (hpre : ∀ a, J a → M.pre a (.ueventRecv s.ueventFd ueventMsgLen))
    (hnext : ∀ a x, J a → J (M.next a ⟨.ueventRecv s.ueventFd ueventMsgLen, x⟩)) :
    Keeps M J I id (ueventEvent config s) := by
  refine keeps_call hpre hnext fun x ↦ ?_
  obtain ⟨n, received⟩ := x
  show Keeps M J I id (if n ≤ 0 then _ else if n ≥ ueventMsgLen then _ else _)
  split_ifs
  · exact keeps_ret hs
  · exact keeps_ret hs
  · dsimp only
    split
    · exact h.call trivial fun _ ↦ keeps_ret hs
    · exact h.healthdBatteryUpdate hs
    · exact keeps_ret hs

variable [Interfaces C]

theorem Kept.unregisterCallbackInternal (hs : I s) (callback : Option C) :
    Keeps M J I Prod.snd (unregisterCallbackInternal s callback) := by
  cases callback with
  | none => exact keeps_ret hs
  | some callback => exact h.call trivial fun _ ↦ keeps_ret (h.callbacks s _ hs)

theorem Kept.serve (board : Board) (hs : I s) (transaction : Transaction C) :
    Keeps M J I id (serve config board s transaction) := by
  cases transaction with
  | registerCallback callback =>
    exact (h.registerCallback hs callback).bind fun _ hs ↦ keeps_ret hs
  | unregisterCallback callback =>
    have hunregister : Keeps M J I Prod.snd (unregisterCallback s callback) :=
      (h.unregisterCallbackInternal hs callback).bind fun _ hs ↦ keeps_ret hs
    exact hunregister.bind fun _ hs ↦ keeps_ret hs
  | update => exact (h.update s hs).bind fun _ hs ↦ keeps_ret hs
  | getHealthInfo => exact h.getHealthInfo board hs
  | debug numFds => exact h.debug board hs numFds
  | serviceDied who =>
    exact (h.unregisterCallbackInternal hs who).bind fun _ hs ↦ keeps_ret hs

theorem Kept.serveAll (board : Board) (hs : I s) (transactions : List (Transaction C)) :
    Keeps M J I id (serveAll config board s transactions) := by
  induction transactions generalizing s with
  | nil => exact keeps_ret hs
  | cons transaction transactions ih =>
    exact (h.serve board hs transaction).bind fun _ hs ↦ ih hs

/-- **Every handler** keeps the invariants, if it may fetch what it serves. -/
theorem Kept.handle (board : Board) (hs : I s) (handler : EventHandler)
    (hpre : ∀ a, J a → M.pre a (handlerCall (s.fdOf handler) handler))
    (hnext : ∀ a x, J a → J (M.next a ⟨handlerCall (s.fdOf handler) handler, x⟩)) :
    Keeps M J I id (handle config board s handler) := by
  cases handler with
  | binderEvent =>
    show Keeps M J I id (binderEvent config board s)
    rw [binderEvent]
    split
    · exact keeps_call hpre hnext fun transactions ↦ h.serveAll board hs transactions
    · exact keeps_ret hs
  | wakealarmEvent => exact h.wakealarmEvent hs hpre hnext
  | ueventEvent => exact h.ueventEvent hs hpre hnext

/-- **All events of a wait**, in order. -/
theorem Kept.dispatch (board : Board) (hs : I s) (events : List (Option EventHandler))
    (hfetch : ∀ s, I s → ∀ handler, some handler ∈ events →
      (∀ a, J a → M.pre a (handlerCall (s.fdOf handler) handler)) ∧
        ∀ a x, J a → J (M.next a ⟨handlerCall (s.fdOf handler) handler, x⟩)) :
    Keeps M J I id (dispatch config board s events) := by
  induction events generalizing s with
  | nil => exact keeps_ret hs
  | cons event events ih =>
    have hrest := fun s hs ↦ @ih s hs fun s hs handler hmem ↦
      hfetch s hs handler (List.mem_cons_of_mem _ hmem)
    cases event with
    | none => exact hrest s hs
    | some handler =>
      obtain ⟨hpre, hnext⟩ := hfetch s hs handler List.mem_cons_self
      exact (h.handle board hs handler hpre hnext).bind fun s hs ↦ hrest s hs

end Keeps

/-! ### The main loop -/

section Mainloop

variable {σ : Type} {config : HealthdConfig} {board : Board} {M : Monitor (Sys C) SysAnswer σ}
  {J : Healthd C → σ → Prop} [Interfaces C]

/-- **The loop rule**: an invariant of one iteration is one of any number of them. -/
theorem healthdMainloop_safe_of_invariant
    (hiteration : ∀ s a nevents, J s a →
      Safe M (fun r a' ↦ J r.2 a') a (mainloopIteration config board s nevents))
    (n : ℕ) {s : Healthd C} {a : σ} (h : J s a) (nevents : Int) :
    Safe M (fun s' a' ↦ J s' a') a (healthdMainloop config board n s nevents) := by
  induction n generalizing s a nevents with
  | zero => exact h
  | succ n ih =>
    refine (hiteration s a nevents h).bind ?_
    rintro ⟨nevents', s'⟩ a' hs'
    cases nevents' with
    | none => exact hs'
    | some nevents' => exact ih hs' nevents'

/-- **The daemon**: a set-up that succeeds has to establish the invariant of the loop, and one that
fails may exit. -/
theorem main_safe_of_invariant {a₀ : σ}
    (hinit : Safe M (fun r a ↦ r.1 = 0 → J r.2 a) a₀ (healthdInit config (Healthd.installed C)))
    (hexit : ∀ a, M.pre a (.exit 2))
    (hiteration : ∀ s a nevents, J s a →
      Safe M (fun r a' ↦ J r.2 a') a (mainloopIteration config board s nevents))
    (n : ℕ) : Safe M (fun _ _ ↦ True) a₀ (main config board C n) := by
  have hmain : Safe M (fun _ _ ↦ True) a₀ (healthdMain config board n (Healthd.installed C)) := by
    refine hinit.bind ?_
    rintro ⟨ret, s⟩ a h
    show Safe _ _ a (if ret ≠ 0 then _ else _)
    split
    case isTrue => exact ⟨hexit a, fun x ↦ x.elim⟩
    case isFalse hret =>
      have hs : J s a := h (not_not.1 hret)
      exact (healthdMainloop_safe_of_invariant hiteration n hs 0).bind fun _ _ _ ↦ trivial
  exact hmain.bind fun _ _ _ ↦ trivial

end Mainloop

end Health

end XenvmHal
