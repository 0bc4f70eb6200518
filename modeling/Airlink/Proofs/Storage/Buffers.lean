import Airlink.Interface
import Airlink.Proofs.Interchange

/-!
# Octets outside the window

Two buffers can hold the same frame at different places of different stores: one with more
headroom, one whose headroom still holds a header that was taken off, one with octets behind the
window. `Buffer.SameFrame` relates them whatever their stores hold outside the windows. The relation
is kept when the same is done to both buffers, be the room in front of the window written over or
the window moved into a new store (`Buffer.SameFrame.congruence`). A frame is framed alike for
transmission in either buffer (`Egress.attach_alike`).

`Outside.Alike` compares parties that answer alike to such buffers. Parties that answer alike do so
too when their calls are noted (`Outside.Alike.logged`).
-/

namespace Airlink

open Outside (Call)

variable {σ τ : Type}

/-! ## Buffers -/

/-- Two buffers with the same frame and the same note of its type and, if stamps count, the same
stamps. Where the frame stands in the stores and what stands around it is left open. -/
structure Buffer.SameFrame (stamped : Prop) (b c : Buffer) : Prop where
  frame : b.frame = c.frame
  frameType : b.frameType = c.frameType
  rxStamped : stamped → b.rxStamped = c.rxStamped
  txStamped : stamped → b.txStamped = c.txStamped

namespace Buffer.SameFrame

variable {stamped : Prop} {b c : Buffer}

theorem refl (b : Buffer) : SameFrame stamped b b := ⟨rfl, rfl, fun _ => rfl, fun _ => rfl⟩

theorem window (h : SameFrame stamped b c) : b.window = c.window := congrArg Frame.bytes h.frame

theorem flags (h : SameFrame stamped b c) : b.flags = c.flags := congrArg Frame.flags h.frame

theorem priority (h : SameFrame stamped b c) : b.priority = c.priority :=
  congrArg Frame.priority h.frame

/-- Equal frames are frames marked with no flag. -/
theorem marks (h : SameFrame stamped b c) : Marks 0 b c := by
  rw [Marks, Frame.mark_zero]
  exact h.frame

end Buffer.SameFrame

/-- What is noted beside the frame is the same as before. -/
structure Buffer.KeepsNotes (b c : Buffer) : Prop where
  frameType : c.frameType = b.frameType
  rxStamped : c.rxStamped = b.rxStamped
  txStamped : c.txStamped = b.txStamped

namespace Buffer

variable {stamped : Prop} {b c b' c' : Buffer}

theorem keepsNotes_advance {n : Nat} (h : b.advance n = .ok c) : b.KeepsNotes c := by
  unfold advance at h
  split at h
  · cases h
    exact ⟨rfl, rfl, rfl⟩
  · cases h

theorem keepsNotes_prepend (b : Buffer) (header : Bytes) : b.KeepsNotes (b.prepend header) := by
  unfold prepend
  split
  · exact ⟨rfl, rfl, rfl⟩
  · exact ⟨rfl, rfl, rfl⟩

/-- Equal frames stay equal, and so do the notes if nothing is done to them. -/
theorem SameFrame.keep (h : SameFrame stamped b c) (marks : Marks 0 b' c')
    (kept : b.KeepsNotes b') (kept' : c.KeepsNotes c') : SameFrame stamped b' c' where
  frame := by rwa [Marks, Frame.mark_zero] at marks
  frameType := by rw [kept.frameType, kept'.frameType, h.frameType]
  rxStamped counts := by rw [kept.rxStamped, kept'.rxStamped, h.rxStamped counts]
  txStamped counts := by rw [kept.txStamped, kept'.txStamped, h.txStamped counts]

/-- No operation on a buffer looks at the octets outside the window. -/
theorem SameFrame.congruence (stamped : Prop) : Congruence (SameFrame stamped) where
  window := SameFrame.window
  advance {b c} h n := by
    obtain ⟨e, hb, hc⟩ | ⟨b', c', hb, hc, marks⟩ := ((Marks.congruence 0).advance h.marks n).cases
    · rw [hb, hc]
      exact .error e
    · rw [hb, hc]
      exact .ok (h.keep marks (keepsNotes_advance hb) (keepsNotes_advance hc))
  truncate h n := h.keep ((Marks.congruence 0).truncate h.marks n) ⟨rfl, rfl, rfl⟩ ⟨rfl, rfl, rfl⟩
  overwrite h pos patch :=
    h.keep ((Marks.congruence 0).overwrite h.marks pos patch) ⟨rfl, rfl, rfl⟩ ⟨rfl, rfl, rfl⟩
  prepend {b c} h header :=
    h.keep ((Marks.congruence 0).prepend h.marks header) (b.keepsNotes_prepend header)
      (c.keepsNotes_prepend header)
  duplicate h := h.keep ((Marks.congruence 0).duplicate h.marks) ⟨rfl, rfl, rfl⟩ ⟨rfl, rfl, rfl⟩
  toTx h := h.keep ((Marks.congruence 0).toTx h.marks) ⟨rfl, rfl, rfl⟩ ⟨rfl, rfl, rfl⟩
  flag h bits := h.keep ((Marks.congruence 0).flag h.marks bits) ⟨rfl, rfl, rfl⟩ ⟨rfl, rfl, rfl⟩
  retype h _ := ⟨h.frame, rfl, h.rxStamped, h.txStamped⟩
  renew {b c} h payload bits := by
    refine ⟨?_, rfl, h.rxStamped, fun _ => rfl⟩
    rw [frame_renew, frame_renew, h.flags, h.priority]

end Buffer

/-- A frame gets the same descriptor in either buffer. -/
theorem Egress.attach_alike {stamped : Prop} {b c : Buffer} (e : Egress)
    (h : b.SameFrame stamped c) (hints : TransmitHints) :
    Parallel (Buffer.SameFrame stamped) (e.attach b hints) (e.attach c hints) := by
  have cong := Buffer.SameFrame.congruence stamped
  have built : e.build b hints = e.build c hints := by
    unfold build
    rw [cong.size h, h.flags, h.priority]
  unfold attach
  rw [built]
  cases e.build c hints with
  | error e => exact .error e
  | ok d => exact .ok (cong.prepend h d.encode)

/-! ## Calls -/

/-- Events of one kind that differ at most by related buffers. -/
inductive HostEvent.Alike (r : Buffer → Buffer → Prop) : HostEvent → HostEvent → Prop where
  | debug (text : String) : Alike r (.debug text) (.debug text)
  | management (frame : Bytes) : Alike r (.management frame) (.management frame)
  | monitor {b c : Buffer} (h : r b c) : Alike r (.monitor b) (.monitor c)

theorem HostEvent.Alike.refl {r : Buffer → Buffer → Prop} (reflexive : ∀ b, r b b) (e : HostEvent) :
    e.Alike r e := by
  cases e with
  | debug text => exact .debug text
  | management frame => exact .management frame
  | monitor buf => exact .monitor (reflexive buf)

/-- Answers of the transport of one kind, with related buffers. -/
inductive Submission.Alike (r : Buffer → Buffer → Prop) : Submission → Submission → Prop where
  | success {b c : Buffer} (h : r b c) : Alike r (.success b) (.success c)
  | busy {b c : Buffer} (h : r b c) : Alike r (.busy b) (.busy c)
  | failure {b c : Buffer} (h : r b c) (reason : String) :
      Alike r (.failure b reason) (.failure c reason)

/-- Calls of one kind that differ at most by related buffers, with like answers. -/
inductive Outside.Call.Alike (r : Buffer → Buffer → Prop) : Call → Call → Prop where
  | submit {b c : Buffer} {x y : Submission} (h : r b c) (answers : x.Alike r y) :
      Alike r (.submit b x) (.submit c y)
  | deliver {b c : Buffer} (h : r b c) (answer : Except Error Delivery) :
      Alike r (.deliver b answer) (.deliver c answer)
  | sendComplete {b c : Buffer} (h : r b c) (status : TxStatus) :
      Alike r (.sendComplete b status) (.sendComplete c status)
  | event (bss : UInt8) {e f : HostEvent} (h : e.Alike r f) : Alike r (.event bss e) (.event bss f)
  | deliverMonitor {b c : Buffer} (h : r b c) : Alike r (.deliverMonitor b) (.deliverMonitor c)
  | reorder (seq : UInt16) (trafficId : UInt8) (peer : HwAddr) (frameClass : FrameClass)
      {b c : Buffer} (h : r b c) (answer : Except Error Unit) :
      Alike r (.reorder seq trafficId peer frameClass b answer)
        (.reorder seq trafficId peer frameClass c answer)
  | record (peer : HwAddr) (caps : Capabilities) (action : TdlsAction) :
      Alike r (.record peer caps action) (.record peer caps action)

/-- Parties that give like answers to like calls when they are in states that correspond, and then
are in such states again. -/
structure Outside.Alike (r : Buffer → Buffer → Prop) (S : σ → τ → Prop) (o : Outside σ)
    (p : Outside τ) : Prop where
  submit {b c : Buffer} (h : r b c) {s : σ} {t : τ} (states : S s t) :
    (o.submit b s).1.Alike r (p.submit c t).1 ∧ S (o.submit b s).2 (p.submit c t).2
  deliver {b c : Buffer} (h : r b c) {s : σ} {t : τ} (states : S s t) :
    (o.deliver b s).1 = (p.deliver c t).1 ∧ S (o.deliver b s).2 (p.deliver c t).2
  sendComplete {b c : Buffer} (h : r b c) (status : TxStatus) {s : σ} {t : τ} (states : S s t) :
    S (o.sendComplete b status s) (p.sendComplete c status t)
  event (bss : UInt8) {e f : HostEvent} (h : e.Alike r f) {s : σ} {t : τ} (states : S s t) :
    S (o.event bss e s) (p.event bss f t)
  deliverMonitor {b c : Buffer} (h : r b c) {s : σ} {t : τ} (states : S s t) :
    S (o.deliverMonitor b s) (p.deliverMonitor c t)
  hasSession (trafficId : UInt8) (peer : HwAddr) {s : σ} {t : τ} (states : S s t) :
    o.hasSession trafficId peer s = p.hasSession trafficId peer t
  reorder (seq : UInt16) (trafficId : UInt8) (peer : HwAddr) (frameClass : FrameClass)
      {b c : Buffer} (h : r b c) {s : σ} {t : τ} (states : S s t) :
    (o.reorder seq trafficId peer frameClass b s).1 =
        (p.reorder seq trafficId peer frameClass c t).1 ∧
      S (o.reorder seq trafficId peer frameClass b s).2
        (p.reorder seq trafficId peer frameClass c t).2
  record (peer : HwAddr) (caps : Capabilities) (action : TdlsAction) {s : σ} {t : τ}
      (states : S s t) : S (o.record peer caps action s) (p.record peer caps action t)

/-- States that correspond, with logs of like calls. -/
def Outside.AlikeLogs (r : Buffer → Buffer → Prop) (S : σ → τ → Prop) (x : σ × List Call)
    (y : τ × List Call) : Prop :=
  S x.1 y.1 ∧ List.Forall₂ (Call.Alike r) x.2 y.2

/-- Parties that answer alike also log like calls. -/
theorem Outside.Alike.logged {r : Buffer → Buffer → Prop} {S : σ → τ → Prop} {o : Outside σ}
    {p : Outside τ} (h : o.Alike r S p) : o.logged.Alike r (AlikeLogs r S) p.logged := by
  have note {x : σ × List Call} {y : τ × List Call} {s : σ} {t : τ} {call call' : Call}
      (logs : AlikeLogs r S x y) (states : S s t) (alike : call.Alike r call') :
      AlikeLogs r S (s, x.2 ++ [call]) (t, y.2 ++ [call']) :=
    ⟨states, List.rel_append logs.2 (.cons alike .nil)⟩
  constructor
  case submit =>
    intro b c bufs s t logs
    obtain ⟨answers, states⟩ := h.submit bufs logs.1
    exact ⟨answers, note logs states (.submit bufs answers)⟩
  case deliver =>
    intro b c bufs s t logs
    obtain ⟨answer, states⟩ := h.deliver bufs logs.1
    refine ⟨answer, note logs states ?_⟩
    rw [answer]
    exact .deliver bufs _
  case sendComplete =>
    intro b c bufs status s t logs
    exact note logs (h.sendComplete bufs status logs.1) (.sendComplete bufs status)
  case event =>
    intro bss e f events s t logs
    exact note logs (h.event bss events logs.1) (.event bss events)
  case deliverMonitor =>
    intro b c bufs s t logs
    exact note logs (h.deliverMonitor bufs logs.1) (.deliverMonitor bufs)
  case hasSession =>
    intro trafficId peer s t logs
    exact h.hasSession trafficId peer logs.1
  case reorder =>
    intro seq trafficId peer frameClass b c bufs s t logs
    obtain ⟨answer, states⟩ := h.reorder seq trafficId peer frameClass bufs logs.1
    refine ⟨answer, note logs states ?_⟩
    rw [answer]
    exact .reorder seq trafficId peer frameClass bufs _
  case record =>
    intro peer caps action s t logs
    exact note logs (h.record peer caps action logs.1) (.record peer caps action)

end Airlink
