import XenvmHal.Allocator.Account

/-!
# Both back ends settle their requests

The two back ends against the account of a request. The one-buffer lemmas say that
`allocateOneBuffer` decides one `Attempt` and reports it faithfully; the loop lemma, shared by
both, carries "the local `stride` and `buffers` are what the attempts so far determine"; and
`Gralloc1Hal.createDescriptor_setsUp` carries the set-up chain to its shared end. What comes out
is `AllocatorHal.Accounted`: `allocateBuffers` returns what the account says, writes its out
parameters only in a request without a failure, and gives back what a failed request obtained.

All of it is relative to what is trusted of the device's answers (`trusted`) and to what those
answers say about each attempt (`possible`), so the same lemmas serve a device that is only known
to keep to its header and a device whose every answer is given.
-/

namespace XenvmHal

open Interaction Program

/-- The monitor of a request: no buffer is asked for once something has failed, or when the
request is refused. -/
abbrev accountMonitor (trusted : Account → DeviceEvent → Prop) (refusal : Option Error) :
    Monitor Call Answer Account where
  pre s c := IsAllocation c → s.failure = none ∧ refusal = none
  assume := trusted
  next := Account.record

variable {trusted : Account → DeviceEvent → Prop} {possible : List Attempt → Attempt → Prop}

/-- What is relied on of a gralloc1 device: codes its header lists, and attempts that `possible`
allows, given the attempts before. -/
structure Gralloc1Hal.Reliable (trusted : Account → DeviceEvent → Prop)
    (possible : List Attempt → Attempt → Prop) : Prop where
  setUp : ∀ {s e}, trusted s e → SetUpAnswered e
  refused : ∀ {s : Account} {d x}, trusted s ⟨.allocate d, x⟩ →
    ¬(x.1 = Gralloc1Error.none ∨ x.1 = Gralloc1Error.notShared) →
      possible s.attempts (.failed (toError x.1) none)
  queried : ∀ {s : Account} {d x y}, trusted s ⟨.allocate d, x⟩ →
    (x.1 = Gralloc1Error.none ∨ x.1 = Gralloc1Error.notShared) →
      trusted s ⟨.getStride x.2, y⟩ →
        y.1 ≠ Gralloc1Error.notShared ∧ possible s.attempts (strideAttempt x.2 y)

/-- What is relied on of a gralloc0 device. -/
structure Gralloc0Hal.Reliable (trusted : Account → DeviceEvent → Prop)
    (possible : List Attempt → Attempt → Prop) : Prop where
  allocated : ∀ {s : Account} {w h f u x}, trusted s ⟨.alloc w h f u, x⟩ →
    possible s.attempts (attemptOf x)

/-- How `allocateOneBuffer` reports an attempt. -/
def Attempt.report : Attempt → Error × Option Handle × Option UInt32
  | failed error _ => (error, none, none)
  | allocated buffer stride => (.none, some buffer, some stride)

/-- An attempt has been made, and a buffer that it could not use went back. -/
def Account.tried (s : Account) (a : Attempt) : Account :=
  { s.attempt a with freed := s.freed ++ a.dropped?.toList }

/-- `allocateOneBuffer` has decided one possible attempt and reported it. -/
def Decides (possible : List Attempt → Attempt → Prop) (s : Account)
    (r : Error × Option Handle × Option UInt32) (s' : Account) : Prop :=
  ∃ a : Attempt, possible s.attempts a ∧
    (∀ error dropped, a = .failed error dropped → error ≠ .none) ∧ r = a.report ∧ s' = s.tried a

/-! ### One buffer -/

theorem Gralloc1Hal.allocateOneBuffer_decides (hrely : Reliable trusted possible)
    (d : DescriptorId) {s : Account} (hs : s.failure = none) :
    Safe (accountMonitor trusted none) (Decides possible s) s (allocateOneBuffer d) := by
  rw [allocateOneBuffer_eq]
  refine ⟨fun _ ↦ ⟨hs, rfl⟩, fun x hx ↦ ?_⟩
  dsimp only
  split_ifs with hallocate
  · have hrefused : ¬(x.1 = Gralloc1Error.none ∨ x.1 = Gralloc1Error.notShared) :=
      not_or.2 hallocate
    refine ⟨.failed (toError x.1) none, hrely.refused hx hrefused, ?_, rfl, ?_⟩
    · rintro error dropped ⟨⟩ h
      exact hrefused (toError_eq_none_iff.1 h)
    · simp [Account.record, Account.tried, Attempt.dropped?, Account.attempt, hrefused]
  · have hgot : x.1 = Gralloc1Error.none ∨ x.1 = Gralloc1Error.notShared := by
      by_contra h
      exact hallocate (not_or.1 h)
    have hsame : s.record ⟨.allocate d, x⟩ = s := if_pos hgot
    rw [hsame]
    refine ⟨False.elim, fun y hy ↦ ?_⟩
    obtain ⟨hunshared, hpossible⟩ := hrely.queried hx hgot hy
    dsimp only
    split_ifs with hquery
    · have hunread : strideAttempt x.2 y = .failed (toError y.1) (some x.2) :=
        if_neg (not_or.2 hquery)
      rw [hunread] at hpossible
      refine ⟨False.elim, fun _ _ ↦ ⟨_, hpossible, ?_, rfl, ?_⟩⟩
      · rintro error dropped ⟨⟩ h
        exact (toError_eq_none_iff.1 h).elim hquery.1 hunshared
      · simp [Account.record, Account.tried, Account.attempt, Account.free, Attempt.dropped?,
          hunread]
    · have hread : strideAttempt x.2 y = .allocated x.2 y.2 := by
        refine if_pos ?_
        by_contra h
        exact hquery (not_or.1 h)
      rw [hread] at hpossible
      refine ⟨_, hpossible, fun _ _ h ↦ Attempt.noConfusion h, rfl, ?_⟩
      simp [Account.record, Account.tried, Account.attempt, Attempt.dropped?, hread]

theorem Gralloc0Hal.allocateOneBuffer_decides (hrely : Reliable trusted possible)
    {info : BufferDescriptorInfo} (hinfo : ¬Unsupported info) {s : Account}
    (hs : s.failure = none) :
    Safe (accountMonitor trusted none) (Decides possible s) s (allocateOneBuffer info) := by
  rw [allocateOneBuffer_eq hinfo]
  refine ⟨fun _ ↦ ⟨hs, rfl⟩, fun x hx ↦ ?_⟩
  have hpossible := hrely.allocated hx
  change Safe _ _ (s.attempt (attemptOf x)) _
  unfold attemptOf at hpossible ⊢
  dsimp only
  split_ifs at hpossible ⊢ with hzero hinval
  · exact ⟨_, hpossible, nofun, rfl, by simp [Account.tried, Account.attempt, Attempt.dropped?]⟩
  · refine ⟨_, hpossible, ?_, rfl, by simp [Account.tried, Account.attempt, Attempt.dropped?]⟩
    rintro error dropped ⟨⟩
    decide
  · refine ⟨_, hpossible, ?_, rfl, by simp [Account.tried, Account.attempt, Attempt.dropped?]⟩
    rintro error dropped ⟨⟩
    decide

/-! ### The loop -/

/-- **The loop invariant**, with `n` iterations left of `count`: nothing has failed, and the local
variables are what the attempts determine. -/
structure LoopInv (possible : List Attempt → Attempt → Prop) (count n : ℕ) (stride : UInt32)
    (buffers : List Handle) (s : Account) : Prop where
  failure : s.failure = none
  fine : Attempt.firstFailure s.attempts = none
  stride_eq : stride = Attempt.commonStride s.attempts
  buffers_eq : buffers = Attempt.buffers s.attempts
  freed : s.freed = Attempt.dropped s.attempts
  replies : s.replies = []
  left : s.attempts.length + n = count
  stops : Throughout (fun earlier _ ↦ Attempt.firstFailure earlier = none) s.attempts
  possible : Throughout possible s.attempts

/-- What the loop has established when it ends with an error code and its local variables. -/
structure LoopDone (possible : List Attempt → Attempt → Prop) (count : ℕ)
    (r : Error × UInt32 × List Handle) (s : Account) : Prop where
  failure : s.failure = if r.1 = .none then none else some r.1
  stride_eq : r.2.1 = Attempt.commonStride s.attempts
  buffers_eq : r.2.2 = Attempt.buffers s.attempts
  freed : s.freed = Attempt.dropped s.attempts
  replies : s.replies = []
  settled : Attempt.Settled count s.attempts
  possible : Throughout possible s.attempts

namespace LoopInv

variable {count n : ℕ} {stride : UInt32} {buffers : List Handle} {s : Account}

theorem init : LoopInv possible count count 0 [] Account.empty where
  failure := rfl
  fine := rfl
  stride_eq := rfl
  buffers_eq := rfl
  freed := rfl
  replies := rfl
  left := by simp [Account.empty]
  stops := throughout_nil
  possible := throughout_nil

/-- An attempt that fails the request ends the loop. -/
theorem stop (h : LoopInv possible count (n + 1) stride buffers s) {a : Attempt} {error : Error}
    (hpossible : possible s.attempts a) (ha : a.judge s.attempts = some error)
    (herror : error ≠ .none) {buffers' : List Handle}
    (hstride : Attempt.commonStride (s.attempts ++ [a]) = stride)
    (hbuffers : buffers' = Attempt.buffers (s.attempts ++ [a])) :
    LoopDone possible count (error, stride, buffers') (s.tried a) where
  failure := by simp [Account.tried, Account.attempt, h.failure, ha, herror]
  stride_eq := hstride.symm
  buffers_eq := hbuffers
  freed := by simp [Account.tried, Account.attempt, h.freed]
  replies := h.replies
  settled :=
    { stops := throughout_snoc_iff.2 ⟨h.stops, h.fine⟩
      bound := by
        have := h.left
        simp only [Account.tried, Account.attempt, List.length_append, List.length_singleton]
        omega
      complete := by simp [Account.tried, Account.attempt, ha] }
  possible := throughout_snoc_iff.2 ⟨h.possible, hpossible⟩

/-- A buffer that fits is one iteration done. -/
theorem next (h : LoopInv possible count (n + 1) stride buffers s) {b : Handle}
    {t stride' : UInt32} (hpossible : possible s.attempts (.allocated b t))
    (hjudge : (Attempt.allocated b t).judge s.attempts = none)
    (hstride : Attempt.commonStride (s.attempts ++ [.allocated b t]) = stride') :
    LoopInv possible count n stride' (buffers ++ [b]) (s.tried (.allocated b t)) where
  failure := by simp [Account.tried, Account.attempt, h.failure, hjudge]
  fine := by simp [Account.tried, Account.attempt, h.fine, hjudge]
  stride_eq := hstride.symm
  buffers_eq := by simp [Account.tried, Account.attempt, h.buffers_eq]
  freed := by simp [Account.tried, Account.attempt, h.freed]
  replies := h.replies
  left := by
    have := h.left
    simp only [Account.tried, Account.attempt, List.length_append, List.length_singleton]
    omega
  stops := throughout_snoc_iff.2 ⟨h.stops, h.fine⟩
  possible := throughout_snoc_iff.2 ⟨h.possible, hpossible⟩

theorem done (h : LoopInv possible count 0 stride buffers s) :
    LoopDone possible count (.none, stride, buffers) s where
  failure := by simp [h.failure]
  stride_eq := h.stride_eq
  buffers_eq := h.buffers_eq
  freed := h.freed
  replies := h.replies
  settled := ⟨h.stops, Nat.le_of_eq h.left, fun _ ↦ h.left⟩
  possible := h.possible

end LoopInv

/-- **The loop of both back ends** makes the attempts the specification asks for. -/
theorem AllocatorHal.allocateLoop_settles {one : Prog (Error × Option Handle × Option UInt32)}
    (hone : ∀ s : Account, s.failure = none →
      Safe (accountMonitor trusted none) (Decides possible s) s one) (count : ℕ) :
    Safe (accountMonitor trusted none) (LoopDone possible count) Account.empty
      (allocateLoop one count 0 []) := by
  refine allocateLoop_safe (I := LoopInv possible count) (fun n stride buffers s h ↦ ?_)
    (fun _ _ _ ↦ LoopInv.done) LoopInv.init
  refine (hone s h.failure).mono ?_
  rintro _ _ ⟨a, hpossible, hfailed, rfl, rfl⟩
  cases a with
  | failed error dropped =>
    refine ⟨fun _ ↦ ?_, fun hr ↦ absurd hr (hfailed _ _ rfl)⟩
    exact h.stop hpossible rfl (hfailed _ _ rfl) (by simp [h.stride_eq]) (by simp [h.buffers_eq])
  | allocated b t =>
    refine ⟨fun hr ↦ absurd rfl hr, fun _ ↦ ⟨b, t, rfl, fun hzero ↦ ?_, fun hzero hne ↦ ?_,
      fun hzero heq ↦ ?_⟩⟩
    · have hcommon : Attempt.commonStride s.attempts = 0 := h.stride_eq ▸ hzero
      exact h.next hpossible (by simp [Attempt.judge, hcommon])
        (by simp [Attempt.commonStride_snoc_allocated, hcommon])
    · have hcommon : Attempt.commonStride s.attempts ≠ 0 := h.stride_eq ▸ hzero
      refine h.stop hpossible ?_ (by decide) ?_ ?_
      · simp [Attempt.judge, ← h.stride_eq, hzero, hne]
      · simp [Attempt.commonStride_snoc_allocated, ← h.stride_eq, hzero]
      · simp [h.buffers_eq]
    · have hcommon : Attempt.commonStride s.attempts ≠ 0 := h.stride_eq ▸ hzero
      exact h.next hpossible (by simp [Attempt.judge, ← h.stride_eq, heq])
        (by simp [Attempt.commonStride_snoc_allocated, ← h.stride_eq, hzero])

/-- A freeing loop enters the buffers into the account, in order. -/
theorem AllocatorHal.freeLoop_frees {refusal : Option Error} {free : Handle → Prog Unit}
    (hfree : ∀ b (s : Account),
      Safe (accountMonitor trusted refusal) (fun _ s' ↦ s' = s.free b) s (free b))
    (buffers : List Handle) (s : Account) :
    Safe (accountMonitor trusted refusal) (fun _ s' ↦ s' = { s with freed := s.freed ++ buffers }) s
      (freeLoop free buffers) := by
  induction buffers generalizing s with
  | nil => simp [freeLoop]
  | cons buffer buffers ih =>
    refine (hfree buffer s).bind fun _ s' hs' ↦ ?_
    subst hs'
    simpa [Account.free] using ih (s.free buffer)

/-! ### Setting a descriptor up -/

namespace Gralloc1Hal

variable (decode : Decoder) (hal : Gralloc1Hal)

/-- What the setter chain keeps: its code stands for the first failure, where `refusal` is what
the chain has refused by itself so far. -/
structure SettingUp (refusal : Option Error) (code : Int32) (s : Account) : Prop where
  unshared : code ≠ Gralloc1Error.notShared
  fresh : s = { Account.empty with failure := s.failure }
  failure : s.failure.or refusal = Account.failureOf code

/-- What `createDescriptor` has established when it returns. -/
structure SetUp (refusal : Option Error) (r : Error × Option DescriptorId) (s : Account) :
    Prop where
  fresh : s = { Account.empty with failure := s.failure }
  failure : s.failure.or refusal = if r.1 = .none then none else some r.1

variable {refusal : Option Error} {code : Int32} {s : Account}

/-- The device has answered the first set-up call, or one after which nothing had failed. -/
theorem SettingUp.answered (h : code ≠ Gralloc1Error.notShared) :
    SettingUp none code (Account.empty.setUp code) where
  unshared := h
  fresh := rfl
  failure := by simp [Account.empty, Account.setUp]

/-- While the chain runs without an error, nothing has happened. -/
theorem SettingUp.eq_empty (h : SettingUp refusal Gralloc1Error.none s) :
    s = Account.empty ∧ refusal = none := by
  have hfailure := h.failure
  rw [Account.failureOf, if_pos rfl, Option.or_eq_none_iff] at hfailure
  refine ⟨?_, hfailure.2⟩
  rw [h.fresh, hfailure.1]
  rfl

theorem readDescriptor_silent {desc : Option DescriptorId} :
    Safe (accountMonitor trusted refusal) (fun _ s' ↦ s' = s) s (readDescriptor desc) := by
  cases desc with
  | none => exact ⟨nofun, fun _ _ ↦ rfl⟩
  | some d => rfl

/-- A step of the chain that runs when there is no error yet. -/
theorem onSuccess_settingUp {step : Prog Int32} {refused : Option Error}
    (h : SettingUp refused code s)
    (hstep : Safe (accountMonitor trusted refusal) (SettingUp none) Account.empty step) :
    Safe (accountMonitor trusted refusal) (SettingUp refused) s (onSuccess code step) := by
  unfold onSuccess
  split
  · rename_i hcode
    subst hcode
    obtain ⟨rfl, rfl⟩ := h.eq_empty
    exact hstep
  · exact h

theorem setOn_settingUp {desc : Option DescriptorId} {setter : DescriptorId → Prog Int32}
    (h : ∀ d, Safe (accountMonitor trusted refusal) (SettingUp none) Account.empty (setter d)) :
    Safe (accountMonitor trusted refusal) (SettingUp none) Account.empty (setOn desc setter) := by
  refine readDescriptor_silent.bind fun d s hs ↦ ?_
  subst hs
  exact h d

/-- The layer count step is where the chain may refuse by itself. -/
theorem setLayerCount_settingUp (hrely : ∀ {s e}, trusted s e → SetUpAnswered e)
    (info : BufferDescriptorInfo) {desc : Option DescriptorId}
    (h : SettingUp none code s) :
    Safe (accountMonitor trusted refusal) (SettingUp (hal.refusal info)) s
      (onSuccess code (hal.setLayerCount desc info.layerCount)) := by
  unfold onSuccess
  split
  · rename_i hcode
    subst hcode
    rw [h.eq_empty.1, setLayerCount]
    split_ifs with hlayered hcount
    · rw [Gralloc1Hal.refusal, if_neg (by simp [hlayered])]
      exact setOn_settingUp fun _ ↦ ⟨nofun, fun _ hx ↦ SettingUp.answered (hrely hx)⟩
    · rw [Gralloc1Hal.refusal, if_pos ⟨by simpa using hlayered, hcount⟩]
      exact ⟨by decide, rfl, rfl⟩
    · rw [Gralloc1Hal.refusal, if_neg fun h ↦ hcount h.2]
      exact ⟨by decide, rfl, rfl⟩
  · rename_i hcode
    have hfailure : s.failure = Account.failureOf code := by simpa using h.failure
    refine ⟨h.unshared, h.fresh, ?_⟩
    rw [hfailure, Account.failureOf, if_neg hcode]
    rfl

theorem finishDescriptor_setUp {refused : Option Error} {desc : Option DescriptorId}
    (h : SettingUp refused code s) :
    Safe (accountMonitor trusted refusal) (SetUp refused) s (finishDescriptor code desc) := by
  have hfailure := h.failure
  unfold finishDescriptor
  split
  · rename_i hcode
    subst hcode
    exact ⟨h.fresh, hfailure⟩
  · rename_i hcode
    have hne : toError code ≠ .none := fun hnone ↦
      (toError_eq_none_iff.1 hnone).elim hcode h.unshared
    refine readDescriptor_silent.bind fun d s' hs' ↦ ?_
    subst hs'
    refine ⟨nofun, fun _ _ ↦ ⟨h.fresh, ?_⟩⟩
    rw [if_neg hne]
    rwa [Account.failureOf, if_neg hcode] at hfailure

/-- **Set-up of a descriptor** fails as the device did, or refuses. -/
theorem createDescriptor_setsUp (hrely : ∀ {s e}, trusted s e → SetUpAnswered e)
    (info : BufferDescriptorInfo) :
    Safe (accountMonitor trusted refusal) (SetUp (hal.refusal info)) Account.empty
      (hal.createDescriptor info) := by
  rw [createDescriptor_eq]
  refine ⟨nofun, fun x hx ↦ ?_⟩
  refine (onSuccess_settingUp (SettingUp.answered (hrely hx)) (setOn_settingUp fun d ↦ ?_)).bind
    fun code s h ↦ ?_
  · exact ⟨nofun, fun _ hx ↦ SettingUp.answered (hrely hx)⟩
  refine (onSuccess_settingUp h (setOn_settingUp fun d ↦ ?_)).bind fun code s h ↦ ?_
  · exact ⟨nofun, fun _ hx ↦ SettingUp.answered (hrely hx)⟩
  refine (hal.setLayerCount_settingUp hrely info h).bind fun code s h ↦ ?_
  refine (onSuccess_settingUp h (setOn_settingUp fun d ↦ ?_)).bind fun code s h ↦ ?_
  · exact ⟨nofun, fun _ hx ↦ SettingUp.answered (hrely hx)⟩
  refine (onSuccess_settingUp h (setOn_settingUp fun d ↦ ?_)).bind fun code s h ↦ ?_
  · exact ⟨nofun, fun _ hx ↦ SettingUp.answered (hrely hx)⟩
  exact finishDescriptor_setUp h

end Gralloc1Hal

/-! ### `allocateBuffers` -/

/-- **What `allocateBuffers` owes** a request for `count` buffers that is refused with `refusal`:
with a failure, that failure, the out parameters as they were and every buffer given back;
without one, all the buffers. -/
structure Settles (possible : List Attempt → Attempt → Prop) (out : Out) (count : ℕ)
    (refusal : Option Error) (r : Error × Out) (s : Account) : Prop where
  failed : ∀ error, s.failure.or refusal = some error → r = (error, out) ∧ error ≠ .none
  served : s.failure.or refusal = none →
    r = (.none, ⟨some (Attempt.commonStride s.attempts), Attempt.buffers s.attempts⟩)
  freed : s.freed = Attempt.dropped s.attempts ++
    if s.failure.or refusal = none then [] else Attempt.buffers s.attempts
  replies : s.replies = []
  settled : s.failure.or refusal = none ∨ s.attempts ≠ [] → Attempt.Settled count s.attempts
  possible : Throughout possible s.attempts

/-- A request that fails before its first attempt. -/
theorem Settles.untried {out : Out} {count : ℕ} {refusal : Option Error} {error : Error}
    {s : Account} (hs : s = { Account.empty with failure := s.failure })
    (hfailure : s.failure.or refusal = some error) (herror : error ≠ .none) :
    Settles possible out count refusal (error, out) s := by
  have hattempts : s.attempts = [] := by rw [hs]; rfl
  refine ⟨?_, ?_, ?_, ?_, ?_, ?_⟩
  · rintro error' h
    obtain rfl : error = error' := by simpa [hfailure] using h
    exact ⟨rfl, herror⟩
  · intro h
    simp [hfailure] at h
  · rw [hattempts, hs]
    simp [Account.empty, Attempt.dropped, Attempt.buffers]
  · rw [hs]
    rfl
  · rintro (h | h)
    · simp [hfailure] at h
    · exact absurd hattempts h
  · rw [hattempts]
    exact throughout_nil

/-- The end of `allocateBuffers`, after its loop. -/
theorem LoopDone.settles {count : ℕ} {error : Error} {stride : UInt32} {buffers : List Handle}
    {s : Account} (h : LoopDone possible count (error, stride, buffers) s)
    {freeBuffers : List Handle → Prog Unit} {out : Out}
    (hfree : ∀ buffers (s : Account), Safe (accountMonitor trusted none)
      (fun _ s' ↦ s' = { s with freed := s.freed ++ buffers }) s (freeBuffers buffers)) :
    Safe (accountMonitor trusted none) (Settles possible out count none) s
      (if error ≠ .none then do
        freeBuffers buffers
        pure (error, out)
      else pure (.none, ⟨some stride, buffers⟩)) := by
  have hfailure := h.failure
  obtain ⟨rfl, rfl⟩ : stride = _ ∧ buffers = _ := ⟨h.stride_eq, h.buffers_eq⟩
  split
  · rename_i herror
    rw [if_neg herror] at hfailure
    refine (hfree _ s).bind fun _ s' hs' ↦ ?_
    subst hs'
    refine ⟨fun error' h' ↦ ?_, fun h' ↦ ?_, ?_, h.replies, fun _ ↦ h.settled, h.possible⟩
    · obtain rfl : error = error' := by simpa [hfailure] using h'
      exact ⟨rfl, herror⟩
    · simp [hfailure] at h'
    · simp [h.freed, hfailure]
  · rename_i herror
    rw [if_pos (not_not.1 herror)] at hfailure
    refine ⟨fun error' h' ↦ ?_, fun _ ↦ rfl, ?_, h.replies, fun _ ↦ h.settled, h.possible⟩
    · simp [hfailure] at h'
    · simp [h.freed, hfailure]

/-- What the service relies on. -/
structure AllocatorHal.Accounted (mHal : AllocatorHal) (trusted : Account → DeviceEvent → Prop)
    (possible : List Attempt → Attempt → Prop)
    (refusal : BufferDescriptor → UInt32 → Option Error) : Prop where
  allocateBuffers : ∀ descriptor count out,
    Safe (accountMonitor trusted (refusal descriptor count))
      (Settles possible out count.toNat (refusal descriptor count)) Account.empty
      (mHal.allocateBuffers descriptor count out)
  freeBuffers : ∀ r buffers (s : Account),
    Safe (accountMonitor trusted r) (fun _ s' ↦ s' = { s with freed := s.freed ++ buffers }) s
      (mHal.freeBuffers buffers)

namespace Gralloc1Hal

variable (decode : Decoder) (hal : Gralloc1Hal)

theorem freeBuffers_frees (r : Option Error) (buffers : List Handle) (s : Account) :
    Safe (accountMonitor trusted r) (fun _ s' ↦ s' = { s with freed := s.freed ++ buffers }) s
      (freeBuffers buffers) := by
  refine AllocatorHal.freeLoop_frees (fun b s ↦ ?_) buffers s
  exact ⟨nofun, fun _ _ ↦ rfl⟩

theorem allocateBuffers_settles (hrely : Reliable trusted possible)
    (descriptor : BufferDescriptor) (count : UInt32) (out : Out) :
    Safe (accountMonitor trusted ((Hal.gralloc1 hal).refusal decode descriptor count))
      (Settles possible out count.toNat ((Hal.gralloc1 hal).refusal decode descriptor count))
      Account.empty (hal.allocateBuffers decode descriptor count out) := by
  unfold allocateBuffers Hal.refusal
  rcases decode descriptor with - | info
  · exact Settles.untried rfl rfl (by decide)
  · dsimp only
    refine (hal.createDescriptor_setsUp hrely.setUp info).bind fun ⟨error, desc⟩ s h ↦ ?_
    have hfailure := h.failure
    dsimp only at hfailure ⊢
    split
    · rename_i herror
      rw [if_neg herror] at hfailure
      exact Settles.untried h.fresh hfailure herror
    · rename_i herror
      rw [if_pos (not_not.1 herror), Option.or_eq_none_iff] at hfailure
      obtain rfl : s = Account.empty := by
        rw [h.fresh, hfailure.1]
        rfl
      rw [hfailure.2]
      have hone : ∀ s : Account, s.failure = none → Safe (accountMonitor trusted none)
          (Decides possible s) s (do let d ← readDescriptor desc; allocateOneBuffer d) := by
        intro s hs
        refine readDescriptor_silent.bind fun d s' hs' ↦ ?_
        subst hs'
        exact allocateOneBuffer_decides hrely d hs
      refine (AllocatorHal.allocateLoop_settles hone count.toNat).bind
        fun ⟨error, stride, buffers⟩ s h ↦ ?_
      refine readDescriptor_silent.bind fun d s' hs' ↦ ?_
      subst hs'
      exact ⟨nofun, fun _ _ ↦ h.settles (freeBuffers_frees none)⟩

end Gralloc1Hal

namespace Gralloc0Hal

variable (decode : Decoder) (hal : Gralloc0Hal)

theorem freeBuffers_frees (r : Option Error) (buffers : List Handle) (s : Account) :
    Safe (accountMonitor trusted r) (fun _ s' ↦ s' = { s with freed := s.freed ++ buffers }) s
      (freeBuffers buffers) := by
  refine AllocatorHal.freeLoop_frees (fun b s ↦ ?_) buffers s
  exact ⟨nofun, fun _ _ ↦ rfl⟩

/-- A buffer that gralloc0 cannot express fails the first attempt, without a device call. -/
theorem allocateLoop_of_unsupported {info : BufferDescriptorInfo} (h : Unsupported info) (n : ℕ) :
    allocateLoop info (n + 1) 0 [] = ret (.badValue, 0, []) := by
  simp [allocateLoop, AllocatorHal.allocateLoop, allocateOneBuffer, h]

theorem allocateBuffers_settles (hrely : Reliable trusted possible)
    (descriptor : BufferDescriptor) (count : UInt32) (out : Out) :
    Safe (accountMonitor trusted ((Hal.gralloc0 hal).refusal decode descriptor count))
      (Settles possible out count.toNat ((Hal.gralloc0 hal).refusal decode descriptor count))
      Account.empty (allocateBuffers decode descriptor count out) := by
  unfold allocateBuffers Hal.refusal
  rcases decode descriptor with - | info
  · exact Settles.untried rfl rfl (by decide)
  · dsimp only
    by_cases hrefused : count ≠ 0 ∧ Unsupported info
    · rw [refusal, if_pos hrefused]
      obtain ⟨n, hn⟩ : ∃ n, count.toNat = n + 1 := by
        refine Nat.exists_eq_succ_of_ne_zero fun h ↦ hrefused.1 (UInt32.toNat_inj.1 h)
      rw [hn, allocateLoop_of_unsupported hrefused.2 n]
      exact Settles.untried rfl rfl (by decide)
    · rw [refusal, if_neg hrefused]
      have hloop : Safe (accountMonitor trusted none) (LoopDone possible count.toNat) Account.empty
          (allocateLoop info count.toNat 0 []) := by
        by_cases hcount : count = 0
        · subst hcount
          exact LoopInv.init.done
        · have hinfo : ¬Unsupported info := fun h ↦ hrefused ⟨hcount, h⟩
          exact AllocatorHal.allocateLoop_settles
            (fun s hs ↦ allocateOneBuffer_decides hrely hinfo hs) _
      exact hloop.bind fun ⟨error, stride, buffers⟩ s h ↦ h.settles (freeBuffers_frees none)

end Gralloc0Hal

/-- **Both back ends** do what the service relies on. -/
theorem Hal.accounted (h₀ : Gralloc0Hal.Reliable trusted possible)
    (h₁ : Gralloc1Hal.Reliable trusted possible) (decode : Decoder) (mHal : Hal) :
    (mHal.toAllocatorHal decode).Accounted trusted possible (mHal.refusal decode) := by
  cases mHal with
  | gralloc0 hal =>
    exact ⟨hal.allocateBuffers_settles decode h₀, Gralloc0Hal.freeBuffers_frees⟩
  | gralloc1 hal =>
    exact ⟨hal.allocateBuffers_settles decode h₁, Gralloc1Hal.freeBuffers_frees⟩

end XenvmHal
