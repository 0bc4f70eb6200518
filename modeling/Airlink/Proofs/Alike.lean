import Airlink.Ingress
import Airlink.Proofs.Frame
import Mathlib.Data.List.Forall2

/-!
# Outcomes that are alike

Routing goes by the octets of a frame and never by the place of its buffer or by flags. A relation
between buffers with the same octets may be one that is kept when the same is done to both of them
(`Buffer.Congruence`). Related buffers then meet the same fate: routing gives outcomes of the same
kind, with the same scope, copies and reasons, whose buffers are related again (`routeTo_alike`,
`conclude_agree`).

Such a relation holds between buffers with the same frame up to flags set on one of them (`Marks`,
`Marks.congruence`).
-/

namespace Airlink

/-! ## Computations side by side -/

/-- Both results are the same error, or both are values that are related. -/
inductive Parallel {ε α β : Type} (r : α → β → Prop) : Except ε α → Except ε β → Prop where
  | error (e : ε) : Parallel r (.error e) (.error e)
  | ok {a : α} {b : β} (h : r a b) : Parallel r (.ok a) (.ok b)

namespace Parallel

variable {ε α β γ δ : Type} {r : α → β → Prop} {q : γ → δ → Prop}

theorem refl (x : Except ε α) : Parallel Eq x x := by
  cases x with
  | error e => exact .error e
  | ok a => exact .ok rfl

theorem cases {x : Except ε α} {y : Except ε β} (h : Parallel r x y) :
    (∃ e, x = .error e ∧ y = .error e) ∨ ∃ a b, x = .ok a ∧ y = .ok b ∧ r a b := by
  cases h with
  | error e => exact .inl ⟨e, rfl, rfl⟩
  | ok h => exact .inr ⟨_, _, rfl, rfl, h⟩

theorem bind {x : Except ε α} {y : Except ε β} {f : α → Except ε γ} {g : β → Except ε δ}
    (first : Parallel r x y) (next : ∀ a b, r a b → Parallel q (f a) (g b)) :
    Parallel q (x >>= f) (y >>= g) := by
  cases first with
  | error e => exact .error e
  | ok h => exact next _ _ h

end Parallel

/-! ## Relations on outcomes -/

/-- Copies of one kind whose buffers are related. -/
inductive Duplicate.Alike (r : Buffer → Buffer → Prop) : Duplicate → Duplicate → Prop where
  | retransmit {b c : Buffer} (h : r b c) (scope : Scope) :
      Alike r (.retransmit b scope) (.retransmit c scope)
  | monitor {b c : Buffer} (h : r b c) : Alike r (.monitor b) (.monitor c)

/-- Outcomes of one kind that differ at most by related buffers. -/
inductive Outcome.Alike (r : Buffer → Buffer → Prop) : Outcome → Outcome → Prop where
  | deliver {b c : Buffer} (h : r b c) : Alike r (.deliver b) (.deliver c)
  | forward {b c : Buffer} (h : r b c) (scope : Scope) :
      Alike r (.forward b scope) (.forward c scope)
  | duplicate {b c : Buffer} {ds es : List Duplicate} (h : r b c)
      (copies : List.Forall₂ (Duplicate.Alike r) ds es) :
      Alike r (.duplicate b ds) (.duplicate c es)
  | monitor {b c : Buffer} (h : r b c) :
      Alike r (.event (.monitor b)) (.event (.monitor c))
  | event (e : HostEvent) : Alike r (.event e) (.event e)
  | drop (reason : DropReason) : Alike r (.drop reason) (.drop reason)

namespace Outcome

variable {r : Buffer → Buffer → Prop} {x y : Outcome}

theorem Alike.drop_eq {reason : DropReason} (h : (Outcome.drop reason).Alike r y) :
    y = .drop reason := by
  cases h
  rfl

/-- The octets of the frame that goes on, if one does. -/
def bytes? : Outcome → Option Bytes
  | .deliver buf => some buf.window
  | .forward buf _ => some buf.window
  | .duplicate buf _ => some buf.window
  | .event _ => none
  | .drop _ => none

theorem Alike.bytes? (window : ∀ b c, r b c → b.window = c.window) (h : x.Alike r y) :
    x.bytes? = y.bytes? := by
  cases h with
  | deliver h => exact congrArg some (window _ _ h)
  | forward h scope => exact congrArg some (window _ _ h)
  | duplicate h copies => exact congrArg some (window _ _ h)
  | monitor h => rfl
  | event e => rfl
  | drop reason => rfl

end Outcome

/-! ## Relations that the operations keep -/

/-- A received buffer with other octets, made after a buffer: its flags and further ones, its
priority and its time of arrival. -/
def Buffer.renew (b : Buffer) (payload : Bytes) (bits : UInt32) : Buffer :=
  { withHeadroom .rx defaultHeadroom payload with
    flags := b.flags.insert bits
    priority := b.priority
    rxStamped := b.rxStamped }

@[simp] theorem Buffer.frame_renew (b : Buffer) (payload : Bytes) (bits : UInt32) :
    (b.renew payload bits).frame = ⟨payload, .rx, b.flags.insert bits, b.priority⟩ := by
  have window : (b.renew payload bits).window = payload :=
    window_withHeadroom .rx defaultHeadroom payload
  rw [frame, window]
  rfl

/-- Related buffers have the same octets, and doing the same to both gives related buffers. -/
structure Buffer.Congruence (r : Buffer → Buffer → Prop) : Prop where
  window {b c : Buffer} (h : r b c) : b.window = c.window
  advance {b c : Buffer} (h : r b c) (n : Nat) : Parallel r (b.advance n) (c.advance n)
  truncate {b c : Buffer} (h : r b c) (n : Nat) : r (b.truncate n) (c.truncate n)
  overwrite {b c : Buffer} (h : r b c) (pos : Nat) (patch : Bytes) :
    r (b.overwrite pos patch) (c.overwrite pos patch)
  prepend {b c : Buffer} (h : r b c) (header : Bytes) : r (b.prepend header) (c.prepend header)
  duplicate {b c : Buffer} (h : r b c) : r b.duplicate c.duplicate
  toTx {b c : Buffer} (h : r b c) : r b.toTx c.toTx
  flag {b c : Buffer} (h : r b c) (bits : UInt32) : r (b.flag bits) (c.flag bits)
  retype {b c : Buffer} (h : r b c) (type : Option Ieee80211.FrameType) :
    r { b with frameType := type } { c with frameType := type }
  renew {b c : Buffer} (h : r b c) (payload : Bytes) (bits : UInt32) :
    r (b.renew payload bits) (c.renew payload bits)

namespace Buffer.Congruence

variable {r : Buffer → Buffer → Prop} {b c : Buffer}

theorem size (cong : Congruence r) (h : r b c) : b.size = c.size := by
  rw [← b.length_window, ← c.length_window, cong.window h]

/-- A copy for a monitor, whose frame type is noted beside the frame. -/
theorem monitorCopy (cong : Congruence r) (h : r b c) (type : Option Ieee80211.FrameType) :
    r { b.duplicate.flag BufferFlags.monitor with frameType := type }
      { c.duplicate.flag BufferFlags.monitor with frameType := type } :=
  cong.retype (cong.flag (cong.duplicate h) BufferFlags.monitor) type

end Buffer.Congruence

/-! ## Marks -/

/-- The first buffer holds the frame of the second with some flags set. -/
def Marks (bits : UInt32) (b c : Buffer) : Prop := b.frame = c.frame.mark bits

namespace Marks

variable {bits : UInt32} {b c : Buffer}

theorem window (h : Marks bits b c) : b.window = c.window := congrArg Frame.bytes h

/-- Marks stay where the octets of both frames become the same others. -/
theorem withBytes (h : Marks bits b c) {b' c' : Buffer} {bytes : Bytes}
    (hb : b'.frame = { b.frame with bytes }) (hc : c'.frame = { c.frame with bytes }) :
    Marks bits b' c' := by
  unfold Marks at h ⊢
  rw [hb, hc, h]
  rfl

/-- The operations on buffers are operations on frames, so marks are kept. -/
theorem congruence (bits : UInt32) : Buffer.Congruence (Marks bits) where
  window := Marks.window
  advance {b c} h n := by
    have size : b.size = c.size := by rw [← b.length_window, ← c.length_window, h.window]
    by_cases fits : n ≤ c.size
    · obtain ⟨b', hb, frame⟩ := b.advance_of_le (size ▸ fits)
      obtain ⟨c', hc, frame'⟩ := c.advance_of_le fits
      rw [hb, hc]
      have frame : b'.frame = { b.frame with bytes := c.window.drop n } := by
        rw [frame, ← h.window]
        rfl
      exact .ok (h.withBytes frame frame')
    · have refused (d : Buffer) (same : d.size = c.size) :
          d.advance n = .error (.truncated "frame" n c.size) := by
        rw [← same] at fits ⊢
        exact dif_neg fits
      rw [refused b size, refused c rfl]
      exact .error _
  truncate {b c} h n := h.withBytes (b.frame_truncate n) (h.window ▸ c.frame_truncate n)
  overwrite {b c} h pos patch :=
    h.withBytes (b.frame_overwrite pos patch) (h.window ▸ c.frame_overwrite pos patch)
  prepend {b c} h header :=
    h.withBytes (b.frame_prepend header) (h.window ▸ c.frame_prepend header)
  duplicate h := by
    unfold Marks at h ⊢
    rw [Buffer.frame_duplicate, Buffer.frame_duplicate, h]
  toTx h := by
    unfold Marks at h ⊢
    rw [Buffer.frame_toTx, Buffer.frame_toTx, h, Frame.mark_comm]
    rfl
  flag h others := by
    unfold Marks at h ⊢
    rw [Buffer.frame_flag, Buffer.frame_flag, h, Frame.mark_comm]
  retype h _ := h
  renew {b c} h payload others := by
    have flags : b.flags = c.flags.insert bits := congrArg Frame.flags h
    have priority : b.priority = c.priority := congrArg Frame.priority h
    unfold Marks
    rw [Buffer.frame_renew, Buffer.frame_renew, flags, priority, BufferFlags.insert_comm]
    rfl
end Marks

/-! ## Forwarding -/

namespace Forwarding

variable {r : Buffer → Buffer → Prop} {b c : Buffer}

theorem copies_alike (cong : Buffer.Congruence r) (v : View) (h : r b c) :
    List.Forall₂ (Duplicate.Alike r) (copies v b) (copies v c) := by
  unfold copies
  refine List.rel_append ?_ ?_
  · split
    · exact .nil
    · exact .cons (.retransmit (cong.toTx (cong.duplicate h)) .bss) .nil
  · split
    · exact .cons (.monitor (cong.monitorCopy h (some .data))) .nil
    · exact .nil

theorem decideGroup_alike (cong : Buffer.Congruence r) (v : View) (h : r b c) :
    (decideGroup v b).Alike r (decideGroup v c) := by
  have related := copies_alike cong v h
  unfold decideGroup
  generalize copies v b = ds at related
  generalize copies v c = es at related
  cases related with
  | nil => exact .deliver h
  | cons first rest => exact .duplicate h (.cons first rest)

theorem decideUnicast_alike (cong : Buffer.Congruence r) (v : View) (h : r b c) (dest : HwAddr) :
    (decideUnicast v b dest).Alike r (decideUnicast v c dest) := by
  unfold decideUnicast
  split
  · exact .deliver h
  · split
    · split
      · exact .deliver h
      · exact .forward (cong.toTx h) .bss
    · split
      · split
        · exact .deliver h
        · exact .forward (cong.toTx h) _
      · split
        · exact .deliver h
        · exact .drop .unroutableUnicast

theorem decide_alike (cong : Buffer.Congruence r) (v : View) (h : r b c) (dest : HwAddr) :
    (decide v b dest).Alike r (decide v c dest) := by
  unfold decide
  split
  · exact .deliver h
  · split
    · exact decideGroup_alike cong v h
    · exact decideUnicast_alike cong v h dest

end Forwarding

/-! ## Ingress -/

namespace Ingress

variable {r : Buffer → Buffer → Prop} {b c : Buffer}

theorem routeTo_alike (cong : Buffer.Congruence r) (env : Env) (st : State) (h : r b c)
    (dest : HwAddr) : (routeTo env st b dest).Alike r (routeTo env st c dest) := by
  unfold routeTo
  split
  · exact .deliver h
  · exact Forwarding.decide_alike cong _ h dest

/-- Routing drops a frame for one reason only, and otherwise the frame goes on as it is. -/
theorem routeTo_cases (env : Env) (st : State) (b : Buffer) (dest : HwAddr) :
    routeTo env st b dest = .drop .unroutableUnicast ∨
      (routeTo env st b dest).bytes? = some b.window := by
  unfold routeTo Forwarding.decide Forwarding.decideGroup Forwarding.decideUnicast
  repeat' split
  all_goals first | exact .inr rfl | exact .inl rfl

/-- The rest of the way of a translated frame, after the verdict on its packet. -/
def conclude (env : Env) (st : State) (buf : Buffer) : Screening.Verdict → Outcome × State
  | .drop reason => (.drop reason, st)
  | .pass => (routeTo env st buf (HwAddr.ofSlice buf.window 0), st)
  | .tdls tdls =>
    let st := note env st (HwAddr.ofSlice buf.window 6) tdls
    (routeTo env st buf (HwAddr.ofSlice buf.window 0), st)

/-- A frame that goes on does so as it is. -/
theorem conclude_bytes? (env : Env) (st : State) (b : Buffer) (verdict : Screening.Verdict) :
    (conclude env st b verdict).1.bytes? = none ∨
      (conclude env st b verdict).1.bytes? = some b.window := by
  have sent (st : State) (dest : HwAddr) : (routeTo env st b dest).bytes? = none ∨
      (routeTo env st b dest).bytes? = some b.window := by
    rcases routeTo_cases env st b dest with dropped | bytes
    · exact .inl (by rw [dropped]; rfl)
    · exact .inr bytes
  cases verdict with
  | drop reason => exact .inl rfl
  | pass => exact sent st _
  | tdls tdls => exact sent _ _

/-- A frame is translated, screened and sent on its way. -/
theorem route_of_toEthernet (env : Env) (st : State) {translation : Translation}
    (h : b.toEthernet = .ok (translation, c)) :
    route env st b = conclude env st c (screen env translation c.window) := by
  simp only [route, h]
  cases screen env translation c.window with
  | drop reason => rfl
  | pass => rfl
  | tdls tdls => rfl

/-- What processing two frames gives is alike, and it leaves the same state. -/
def AgreeBy (r : Buffer → Buffer → Prop) (x y : Outcome × State) : Prop :=
  x.1.Alike r y.1 ∧ x.2 = y.2

/-- What processing two frames gives differs by flags only. -/
def Agree (bits : UInt32) (x y : Outcome × State) : Prop :=
  x.1.Alike (Marks bits) y.1 ∧ x.2 = y.2

theorem conclude_agree (cong : Buffer.Congruence r) (env : Env) (st : State) (h : r b c)
    (verdict : Screening.Verdict) :
    AgreeBy r (conclude env st b verdict) (conclude env st c verdict) := by
  unfold conclude
  rw [cong.window h]
  cases verdict with
  | drop reason => exact ⟨.drop reason, rfl⟩
  | pass => exact ⟨routeTo_alike cong env st h _, rfl⟩
  | tdls tdls => exact ⟨routeTo_alike cong env _ h _, rfl⟩

end Ingress

end Airlink
