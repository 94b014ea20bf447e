import XenvmHal.Allocator.DebugDump
import XenvmHal.Allocator.Service

/-!
# What the clients are told

Every request calls its client back exactly once, in whatever order the threads run and whatever
the device answers, and after that it only gives back the buffers that it has passed along
(`service_replies`).

A client that asks for the debug information is told the text that the device holds. The two back
ends get at it in different ways: gralloc1 asks for its length and then for that many bytes,
gralloc0 offers a buffer of a fixed size. As long as the text stays the same the two agree, as far
as the buffer of gralloc0 goes (`service_reports`).
-/

namespace XenvmHal

open Interaction Program

namespace Allocator

variable {ι : Type} [DecidableEq ι] {decode : Decoder} {mHal : Hal} {requests : ι → Request}
  {t : List (ι × DeviceEvent)} {q : ι → Prog Unit}

/-! ### Exactly one reply -/

section Replies

/-- Whether a call is one back to the client. -/
def isCallback : Call → Bool
  | .hidlCb _ _ _ | .dumpCb _ => true
  | _ => false

/-- The calls back to the client. -/
def callbacks (u : List DeviceEvent) : List Call :=
  (u.map Event.call).filter isCallback

/-- The kind of call back that a request asks for. -/
def Request.IsAnsweredBy : Request → Call → Prop
  | .allocate _ _, .hidlCb _ _ _ => True
  | .dumpDebugInfo, .dumpCb _ => True
  | _, _ => False

/-- A call that frees the local handle of a buffer. -/
def Frees (b : Handle) (c : Call) : Prop :=
  c = .release b ∨ c = .free b

/-- A call that gives back a buffer of a reply. -/
def GivesBack (reply c : Call) : Prop :=
  ∃ error stride buffers b, reply = .hidlCb error stride buffers ∧ b ∈ buffers ∧ Frees b c

/-- **One reply**, of the kind asked for, and then only giving back. -/
structure RepliesOnce (request : Request) (u : List DeviceEvent) (c : Call) : Prop where
  once : isCallback c = true → callbacks u = [] ∧ request.IsAnsweredBy c
  after : ∀ reply ∈ callbacks u, GivesBack reply c

abbrev replyMonitor (request : Request) : Monitor Call Answer (List DeviceEvent) :=
  .history (RepliesOnce request) fun _ _ ↦ True

variable {request : Request} {u : List DeviceEvent}

theorem callbacks_snoc (u : List DeviceEvent) (e : DeviceEvent) :
    callbacks (u ++ [e]) = callbacks u ++ if isCallback e.call then [e.call] else [] := by
  simp only [callbacks, List.map_append, List.filter_append, List.map_singleton]
  congr 1
  simp [List.filter_cons]

theorem callbacks_snoc_of_not {e : DeviceEvent} (he : isCallback e.call = false) :
    callbacks (u ++ [e]) = callbacks u := by
  rw [callbacks_snoc, he]
  exact List.append_nil _

/-- Before the reply. -/
theorem safe_before {α : Type} {p : Prog α} (hp : Only (fun c ↦ isCallback c = false) p)
    (h : callbacks u = []) :
    Safe (replyMonitor request) (fun _ u' ↦ callbacks u' = []) u p := by
  refine hp.safe_of_invariant (I := fun u ↦ callbacks u = []) (fun v c hv hc ↦ ?_)
    (fun v c x hv hc _ ↦ ?_) h
  · refine ⟨fun hback ↦ ?_, fun reply hreply ↦ ?_⟩
    · rw [hc] at hback
      cases hback
    · rw [hv] at hreply
      cases hreply
  · exact (callbacks_snoc_of_not hc).trans hv

/-- **The reply.** -/
theorem safe_reply {c : Call} {α : Type} {k : Answer c → Prog α}
    {Q : α → List DeviceEvent → Prop} (hc : isCallback c = true)
    (hkind : request.IsAnsweredBy c) (h : callbacks u = [])
    (hk : ∀ x v, callbacks v = [c] → Safe (replyMonitor request) Q v (k x)) :
    Safe (replyMonitor request) Q u (Program.call c k) := by
  refine ⟨⟨fun _ ↦ ⟨h, hkind⟩, fun reply hreply ↦ ?_⟩, fun x _ ↦ hk x _ ?_⟩
  · rw [h] at hreply
    cases hreply
  · show callbacks (u ++ [_]) = [c]
    rw [callbacks_snoc, h, hc]
    rfl

/-- After the reply. -/
theorem safe_after {α : Type} {p : Prog α} {reply : Call} (hp : Only (GivesBack reply) p)
    (h : callbacks u = [reply]) :
    Safe (replyMonitor request) (fun _ u' ↦ callbacks u' = [reply]) u p := by
  have hnone : ∀ c, GivesBack reply c → isCallback c = false := by
    rintro c ⟨error, stride, buffers, b, -, -, rfl | rfl⟩ <;> rfl
  refine hp.safe_of_invariant (I := fun u ↦ callbacks u = [reply]) (fun v c hv hc ↦ ?_)
    (fun v c x hv hc _ ↦ ?_) h
  · refine ⟨fun hback ↦ ?_, fun reply' hreply ↦ ?_⟩
    · rw [hnone c hc] at hback
      cases hback
    · rw [hv] at hreply
      obtain rfl := List.mem_singleton.1 hreply
      exact hc
  · exact (callbacks_snoc_of_not (hnone c hc)).trans hv

theorem freeLoop_mem {P : Handle → Call → Prop} {free : Handle → Prog Unit}
    {buffers : List Handle} (h : ∀ b ∈ buffers, Only (P b) (free b)) :
    Only (fun c ↦ ∃ b ∈ buffers, P b c) (AllocatorHal.freeLoop free buffers) := by
  induction buffers with
  | nil => trivial
  | cons buffer buffers ih =>
    rw [List.forall_mem_cons] at h
    refine (h.1.mono fun c hc ↦ ⟨buffer, List.mem_cons_self, hc⟩).bind fun _ ↦ ?_
    exact (ih h.2).mono fun c ⟨b, hb, hc⟩ ↦ ⟨b, List.mem_cons_of_mem _ hb, hc⟩

theorem freeBuffers_frees (decode : Decoder) (mHal : Hal) (buffers : List Handle) :
    Only (fun c ↦ ∃ b ∈ buffers, Frees b c)
      ((mHal.toAllocatorHal decode).freeBuffers buffers) := by
  cases mHal with
  | gralloc0 hal => exact freeLoop_mem fun b _ ↦ ⟨Or.inr rfl, fun _ ↦ trivial⟩
  | gralloc1 hal => exact freeLoop_mem fun b _ ↦ ⟨Or.inl rfl, fun _ ↦ trivial⟩

/-- Nothing is told before the buffers are there. -/
theorem allocateBuffers_callsBack_not (decode : Decoder) (mHal : Hal)
    (descriptor : BufferDescriptor) (count : UInt32) (out : Out) :
    Only (fun c ↦ isCallback c = false)
      ((mHal.toAllocatorHal decode).allocateBuffers descriptor count out) := by
  cases mHal with
  | gralloc0 hal =>
    refine (Gralloc0Hal.allocateBuffers_only decode descriptor count out).mono fun c hc ↦ ?_
    cases c <;> first | rfl | exact hc.elim
  | gralloc1 hal =>
    refine (hal.allocateBuffers_only decode descriptor count out).mono fun c hc ↦ ?_
    rcases hc with (rfl | hc) | hc
    · rfl
    · cases c <;> first | rfl | exact hc.elim
    · cases c <;> first | rfl | exact hc.elim

theorem IsDumpRead.not_isCallback {c : Call} (h : IsDumpRead c) : isCallback c = false := by
  cases c <;> first | rfl | exact h.elim

/-- **One request**: exactly one reply, whatever the device answers. -/
theorem serve_replies (decode : Decoder) (mHal : Hal) (request : Request) :
    Safe (replyMonitor request) (fun _ u ↦ (callbacks u).length = 1) []
      (serve decode mHal request) := by
  cases request with
  | dumpDebugInfo =>
    refine (safe_before ((dumpDebugInfo_reads decode mHal).mono fun _ ↦
      IsDumpRead.not_isCallback) rfl).bind fun info u hu ↦ ?_
    refine safe_reply rfl trivial hu fun _ v hv ↦ ?_
    show (callbacks v).length = 1
    rw [hv]
    rfl
  | allocate descriptor count =>
    show Safe _ _ [] (allocate _ descriptor count)
    rw [allocate_eq]
    refine (safe_before (allocateBuffers_callsBack_not decode mHal descriptor count _) rfl).bind
      fun r u hu ↦ ?_
    unfold reply
    split
    · refine safe_reply rfl trivial hu fun _ v hv ↦ ?_
      show (callbacks v).length = 1
      rw [hv]
      rfl
    · have hstride : Only (fun c ↦ isCallback c = false) (readStride r.2.stride) :=
        readStride_calls (P := fun c ↦ isCallback c = false) rfl _
      refine (safe_before hstride hu).bind fun stride v hv ↦ ?_
      refine safe_reply rfl trivial hv fun _ w hw ↦ ?_
      refine (safe_after ((freeBuffers_frees decode mHal r.2.buffers).mono ?_) hw).mono ?_
      · exact fun c ⟨b, hb, hc⟩ ↦ ⟨.none, stride, r.2.buffers, b, rfl, hb, hc⟩
      · intro _ w' hw'
        rw [hw']
        rfl

/-- At no moment has there been more than one reply. -/
theorem length_callbacks_le (h : Throughout (fun u e ↦ RepliesOnce request u e.call) u) :
    (callbacks u).length ≤ 1 := by
  induction u using List.reverseRecOn with
  | nil => exact Nat.zero_le 1
  | append_singleton u e ih =>
    obtain ⟨hu, he⟩ := throughout_snoc_iff.1 h
    cases hback : isCallback e.call with
    | true =>
      rw [callbacks_snoc, (he.once hback).1, hback]
      exact Nat.le_refl 1
    | false =>
      rw [callbacks_snoc_of_not hback]
      exact ih hu

/-- **Every request is answered exactly once**, in every interleaving and whatever the device
answers: at most one call back while it is in flight, one when it is finished, of the kind it asks
for. From then on it only frees the local handles of the buffers that it has replied with. -/
theorem service_replies (h : Interleaved (pool decode mHal requests) t q) (i : ι) :
    (callbacks (own i t)).length ≤ 1 ∧
      (q i = ret () → (callbacks (own i t)).length = 1) ∧
        ∀ u e v, own i t = u ++ e :: v → isCallback e.call = true →
          (requests i).IsAnsweredBy e.call ∧ ∀ d ∈ v, GivesBack e.call d.call := by
  obtain ⟨hpermitted, hrest⟩ := (serve_replies decode mHal (requests i)).throughout (h.own i)
  refine ⟨length_callbacks_le hpermitted, fun hfinished ↦ ?_, fun u e v hsplit hback ↦ ⟨?_, ?_⟩⟩
  · rw [hfinished] at hrest
    exact hrest
  · exact ((hpermitted u e v hsplit).once hback).2
  · intro d hd
    obtain ⟨v₁, v₂, rfl⟩ := List.append_of_mem hd
    have hafter := (hpermitted (u ++ e :: v₁) d v₂ (by simp [hsplit])).after
    refine hafter e.call ?_
    simp [callbacks, hback]

/-- Two clients of a device without a dump function; one of them has a bad descriptor. -/
def oneRefused (i : Bool) : Request :=
  if i then .dumpDebugInfo else .allocate [] 1

theorem service_replies_refused :
    (callbacks (own true [(false, (⟨.hidlCb .badDescriptor 0 [], ()⟩ : DeviceEvent)),
      (true, ⟨.dumpCb [], ()⟩)])).length = 1 := by
  have h := (Interleaved.nil (p := pool (fun _ ↦ none) (.gralloc0 ⟨some 1, false⟩) oneRefused)).snoc
    (i := false) (c := .hidlCb .badDescriptor 0 []) rfl ()
  have h := h.snoc (i := true) (c := .dumpCb []) rfl ()
  exact (service_replies h true).2.1 rfl

end Replies

/-! ### The debug information -/

section Texts

variable {text : List UInt8}

/-- **The device holds a text**: it reports its length, writes as much of it as it is told there is
room for, and may leave a terminator and zeros behind it. -/
def Holds (text : List UInt8) : DeviceEvent → Prop
  | ⟨.dump _ none, (len, _)⟩ => len.toNat = text.length
  | ⟨.dump len (some _), (final, written)⟩ =>
    written = text.take len.toNat ∧ final.toNat = written.length
  | ⟨.dump0 room, written⟩ =>
    written.length ≤ room ∧
      ∃ k n, room ≤ k + 1 ∧ written = text.take k ++ List.replicate n 0
  | _ => True

/-- What a client is told of a text. -/
def report (mHal : Hal) (text : List UInt8) : List UInt8 :=
  match mHal with
  | .gralloc0 hal => if hal.hasDump then (cString text).take 4095 else []
  | .gralloc1 _ => cString text

theorem cString_take (buf : List UInt8) (n : ℕ) : cString (buf.take n) = (cString buf).take n :=
  List.take_takeWhile.symm

/-- The monitor that asks for the right text. -/
abbrev reportMonitor (mHal : Hal) (text : List UInt8) : Monitor Call Answer Unit where
  pre _ c := ∀ debugInfo, c = .dumpCb debugInfo → debugInfo = report mHal text
  assume _ e := Holds text e
  next _ _ := ()

theorem IsDumpRead.reports {c : Call} (h : IsDumpRead c) (debugInfo : List UInt8) :
    c = .dumpCb debugInfo → debugInfo = report mHal text := by
  rintro rfl
  exact h.elim

/-- **The fixed buffer** of gralloc0 has the text, up to its last byte. -/
theorem cString_fixedBuffer {written : List UInt8} {k n : ℕ} (hk : 4096 ≤ k + 1)
    (hwritten : written = text.take k ++ List.replicate n 0) :
    cString ((fillFront (List.replicate 4096 0) written).set 4095 0) =
      (cString text).take 4095 := by
  have hroom : 4095 < (fillFront (List.replicate 4096 (0 : UInt8)) written).length := by
    rw [fillFront, List.length_append, List.length_drop, List.length_replicate]
    omega
  calc cString ((fillFront (List.replicate 4096 0) written).set 4095 0)
      = cString ((fillFront (List.replicate 4096 0) written).take 4095) := cString_set hroom
    _ = (cString (fillFront (List.replicate 4096 0) written)).take 4095 := cString_take _ _
    _ = (cString (text.take k)).take 4095 := by
        rw [fillFront, List.drop_replicate, cString_append_zeros, hwritten, cString_append_zeros]
    _ = (cString text).take 4095 := by
        rw [cString_take, List.take_take, Nat.min_eq_left (by omega)]

theorem gralloc0_reports (hal : Gralloc0Hal) :
    Safe (reportMonitor (.gralloc0 hal) text) (fun r _ ↦ r = report (.gralloc0 hal) text) ()
      hal.dumpDebugInfo := by
  unfold Gralloc0Hal.dumpDebugInfo
  dsimp only
  split
  case isTrue hdump =>
    refine ⟨IsDumpRead.reports (c := .dump0 _) trivial, fun written hholds ↦ ?_⟩
    obtain ⟨-, k, n, hk, hwritten⟩ := hholds
    rw [List.length_replicate] at hk
    show cString ((fillFront _ written).set _ 0) = report _ text
    rw [List.length_replicate, report, if_pos hdump]
    exact cString_fixedBuffer hk hwritten
  case isFalse hdump =>
    show cString _ = report _ text
    rw [report, if_neg hdump]
    exact cString_append_zeros [] 4096

/-- **The two calls** of gralloc1 get the whole text. -/
theorem gralloc1_reports (hal : Gralloc1Hal) (hfits : text.length < 0xffffffff) :
    Safe (reportMonitor (.gralloc1 hal) text) (fun r _ ↦ r = cString text) ()
      Gralloc1Hal.dumpDebugInfo := by
  refine ⟨IsDumpRead.reports (c := .dump _ _) trivial, fun x hlength ↦ ?_⟩
  obtain ⟨len, asked⟩ := x
  refine ⟨IsDumpRead.reports (c := .dump _ _) trivial, fun y hfilled ↦ ?_⟩
  obtain ⟨final, written⟩ := y
  obtain ⟨hwritten, hfinal⟩ : written = text.take len.toNat ∧ final.toNat = written.length :=
    hfilled
  replace hlength : len.toNat = text.length := hlength
  rw [hlength, List.take_length] at hwritten
  subst hwritten
  have hne : ∀ n : UInt32, n.toNat = written.length → n ≠ 0xffffffff := by
    rintro _ hn rfl
    have hmax : (0xffffffff : UInt32).toNat = 0xffffffff := rfl
    omega
  have hroom : final.toNat < (Gralloc1Hal.dumpBuffer len final written).length := by
    rw [Gralloc1Hal.dumpBuffer, length_resize]
    exact Gralloc1Hal.lt_succ_iff.2 (hne final hfinal)
  show Safe _ _ ()
    (if final.toNat < (Gralloc1Hal.dumpBuffer len final written).length then _ else _)
  rw [if_pos hroom]
  calc cString ((Gralloc1Hal.dumpBuffer len final written).set final.toNat 0)
      = cString (written.take final.toNat) :=
        Gralloc1Hal.cString_dumpBuffer (hne len hlength) (hne final hfinal)
    _ = cString written := by rw [hfinal, List.take_length]

/-- **One request** is told the text. -/
theorem serve_reports (decode : Decoder) (mHal : Hal) (hfits : text.length < 0xffffffff)
    (request : Request) :
    Safe (reportMonitor mHal text) (fun _ _ ↦ True) () (serve decode mHal request) := by
  cases request with
  | dumpDebugInfo =>
    have hread : Safe (reportMonitor mHal text) (fun r _ ↦ r = report mHal text) ()
        (mHal.toAllocatorHal decode).dumpDebugInfo := by
      cases mHal with
      | gralloc0 hal => exact gralloc0_reports hal
      | gralloc1 hal => exact gralloc1_reports hal hfits
    refine hread.bind fun debugInfo _ hinfo ↦ ⟨?_, fun _ _ ↦ trivial⟩
    rintro _ ⟨⟩
    exact hinfo
  | allocate descriptor count =>
    have hsilent : Only (fun c ↦ ∀ debugInfo, c ≠ .dumpCb debugInfo)
        (allocate (mHal.toAllocatorHal decode) descriptor count) := by
      refine ((allocateBuffers_callsBack_not decode mHal descriptor count _).mono ?_).bind
        fun r ↦ (reply_only decode mHal r).mono ?_
      · rintro _ hback debugInfo rfl
        cases hback
      · rintro _ hreply debugInfo rfl
        exact hreply
    exact hsilent.safe_of_invariant (fun _ _ _ hc debugInfo hcall ↦ absurd hcall (hc debugInfo))
      (fun _ _ _ _ _ _ ↦ trivial) trivial

/-- **The clients are told the device's text**, in every interleaving of their requests with
others, if it is shorter than 2^32 - 1 bytes: with gralloc1 all of it, as far as its first zero
byte, with gralloc0 the same up to 4095 bytes, and nothing where there is no dump function. -/
theorem service_reports (h : Interleaved (pool decode mHal requests) t q)
    (hholds : ∀ e ∈ t, Holds text e.2) (hfits : text.length < 0xffffffff) :
    ∀ e ∈ t, ∀ debugInfo, e.2.call = .dumpCb debugInfo → debugInfo = report mHal text := by
  rintro ⟨i, e⟩ he
  have haccepts := ((serve_reports decode mHal hfits (requests i)).steps (h.own i)
    (Monitor.assumes_of_forall _ fun _ d hd ↦ hholds _ (mem_own_iff.1 hd))).1
  rw [Monitor.accepts_iff_throughout, throughout_const_iff] at haccepts
  exact haccepts e (mem_own_iff.2 he)

/-- A gralloc1 device that holds "abc" is asked by two clients at once. -/
def twoDumps : List (Bool × DeviceEvent) :=
  [(true, ⟨.dump 0 none, (3, [])⟩), (false, ⟨.dump 0 none, (3, [])⟩),
    (true, ⟨.dump 3 (some 4), (3, [97, 98, 99])⟩), (true, ⟨.dumpCb [97, 98, 99], ()⟩)]

theorem service_reports_two :
    [97, 98, 99] = report (.gralloc1 ⟨some 1, true, fun _ ↦ true⟩) [97, 98, 99] := by
  have h := (Interleaved.nil (p := pool (fun _ ↦ none) (.gralloc1 ⟨some 1, true, fun _ ↦ true⟩)
    fun _ : Bool ↦ .dumpDebugInfo)).snoc (i := true) (c := .dump 0 none) rfl (3, [])
  have h := h.snoc (i := false) (c := .dump 0 none) rfl (3, [])
  have h := h.snoc (i := true) (c := .dump 3 (some 4)) rfl (3, [97, 98, 99])
  have h := h.snoc (i := true) (c := .dumpCb [97, 98, 99]) rfl ()
  have hholds : ∀ e ∈ twoDumps, Holds [97, 98, 99] e.2 := by
    rw [twoDumps]
    simp only [List.forall_mem_cons]
    exact ⟨rfl, rfl, ⟨rfl, rfl⟩, trivial, List.forall_mem_nil _⟩
  exact service_reports (t := twoDumps) h hholds (by decide) (true, ⟨.dumpCb [97, 98, 99], ()⟩)
    (by simp [twoDumps]) _ rfl

end Texts

end Allocator

end XenvmHal
