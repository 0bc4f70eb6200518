import Airlink.Proofs.Detour
import Airlink.Proofs.Radio.Steps
import Airlink.Proofs.Storage.Interfaces

/-!
# Radios that are given the same frames

Radios are alike if their interfaces are (`Radio.Alike`): they find the same interfaces, offer the
same neighbors, and carry out outcomes alike, so that what they hand to the host and relay holds the
same frames (`dispatchAll_alike`).

With the lemmas on interfaces this says what `storage_unseen` states: the octets in front of a
window and behind it influence nothing that the data path does.
-/

namespace Airlink

open Buffer (SameFrame)
open Outside (Call)

variable {σ τ : Type}

namespace Radio

/-! ## Radios side by side -/

/-- Radios whose interfaces are alike, one by one. -/
structure Alike (r : Buffer → Buffer → Prop) (a b : Radio) : Prop where
  interfaces : List.Forall₂ (Interface.Alike r) a.interfaces b.interfaces
  unattributed : a.unattributed = b.unattributed

namespace Alike

variable {r : Buffer → Buffer → Prop} {a b : Radio}

theorem getElem? (h : a.Alike r b) (k : Nat) :
    a.interfaces[k]? = none ∧ b.interfaces[k]? = none ∨
      ∃ i j, a.interfaces[k]? = some i ∧ b.interfaces[k]? = some j ∧ i.Alike r j := by
  cases at_ : a.interfaces[k]? with
  | none =>
    have behind := List.getElem?_eq_none_iff.1 at_
    rw [h.interfaces.length_eq] at behind
    exact .inl ⟨rfl, List.getElem?_eq_none_iff.2 behind⟩
  | some i =>
    obtain ⟨j, there, alike⟩ := exists_of_forall₂ h.interfaces at_
    exact .inr ⟨i, j, rfl, there, alike⟩

/-- What is done to the interfaces at one position is done alike if the interfaces become alike. -/
theorem modify (h : a.Alike r b) (k : Nat) {f g : Interface → Interface}
    (became : ∀ {i j : Interface}, i.Alike r j → (f i).Alike r (g j)) :
    List.Forall₂ (Interface.Alike r) (a.interfaces.modify k f) (b.interfaces.modify k g) := by
  have interfaces := h.interfaces
  generalize a.interfaces = is at interfaces ⊢
  generalize b.interfaces = js at interfaces ⊢
  induction interfaces generalizing k with
  | nil =>
    rw [List.modify_nil, List.modify_nil]
    exact .nil
  | cons first rest ih =>
    cases k with
    | zero => exact .cons (became first) rest
    | succ k => exact .cons first (ih k)

theorem count (h : a.Alike r b) (k : Nat) (f : Counters → Counters) :
    (a.count k f).Alike r (b.count k f) :=
  ⟨h.modify k fun h => h.count f, h.unattributed⟩

theorem set (h : a.Alike r b) (k : Nat) {i j : Interface} (became : i.Alike r j) :
    (a.set k i).Alike r (b.set k j) := by
  refine ⟨?_, h.unattributed⟩
  unfold Radio.set
  rw [List.set_eq_modify, List.set_eq_modify]
  exact h.modify k fun _ => became

/-- The same numbers are given to the interfaces, so the same places are found. -/
theorem find?_eq (h : a.Alike r b) (bss : UInt8) : a.find? bss = b.find? bss := by
  have numbers : a.numbers = b.numbers := by
    rw [numbers_eq, numbers_eq]
    exact List.forall₂_eq_eq_eq ▸ List.rel_map (fun _ _ alike => alike.bssNum) h.interfaces
  rw [find?_eq_numbers, find?_eq_numbers, numbers]

theorem neighbors_eq (h : a.Alike r b) (k : Nat) : a.neighbors k = b.neighbors k := by
  have others : List.Forall₂ (Interface.Alike r) (a.interfaces.eraseIdx k)
      (b.interfaces.eraseIdx k) := by
    rw [List.eraseIdx_eq_take_drop_succ, List.eraseIdx_eq_take_drop_succ]
    exact List.rel_append (List.forall₂_take k h.interfaces)
      (List.forall₂_drop (k + 1) h.interfaces)
  have accessPoints := List.rel_filter (p := (·.settings.role == .accessPoint))
    (q := (·.settings.role == .accessPoint)) (fun i j alike => by simp only [alike.settings]) others
  exact List.forall₂_eq_eq_eq ▸ List.rel_map
    (fun _ _ alike => Prod.ext alike.bssNum alike.stations) accessPoints

/-- A number names alike interfaces at the same place, or none. -/
theorem require (h : a.Alike r b) (bss : UInt8) :
    Parallel (fun x y => x.1 = y.1 ∧ Interface.Alike r x.2 y.2) (a.require bss)
      (b.require bss) := by
  unfold Radio.require
  rw [h.find?_eq]
  cases b.find? bss with
  | none => exact .error _
  | some k =>
    dsimp only
    obtain ⟨ha, hb⟩ | ⟨i, j, ha, hb, alike⟩ := h.getElem? k
    · rw [ha, hb]
      exact .error _
    · rw [ha, hb]
      exact .ok ⟨rfl, alike⟩

end Alike

/-- Two runs ended alike: the radios are alike and the states of the parties correspond. -/
def Ends (r : Buffer → Buffer → Prop) (S : σ → τ → Prop) (x : Radio × σ) (y : Radio × τ) : Prop :=
  x.1.Alike r y.1 ∧ S x.2 y.2

/-! ## Outcomes carried out -/

section Dispatch

variable {stamped : Prop} {S : σ → τ → Prop} {o : Outside σ} {p : Outside τ} {a b : Radio} {s : σ}
  {t : τ} {x y : Buffer}

theorem deliver_alike (parties : o.Alike (SameFrame stamped) S p)
    (h : a.Alike (SameFrame stamped) b) (states : S s t) (same : x.SameFrame stamped y) (k : Nat) :
    Ends (SameFrame stamped) S (a.deliver o k x s) (b.deliver p k y t) := by
  obtain ⟨answer, states⟩ := parties.deliver same states
  unfold deliver
  dsimp only
  rw [answer]
  generalize (p.deliver y t).1 = answer
  cases answer with
  | error e => exact ⟨h.count k _, states⟩
  | ok delivery =>
    cases delivery with
    | done => exact ⟨h.count k _, states⟩
    | pending => exact ⟨h.count k _, states⟩

theorem relayThrough_alike (parties : o.Alike (SameFrame stamped) S p)
    (h : a.Alike (SameFrame stamped) b) (states : S s t) (same : x.SameFrame stamped y) (k : Nat) :
    Ends (SameFrame stamped) S (a.relayThrough o k x s) (b.relayThrough p k y t) := by
  unfold relayThrough
  obtain ⟨ha, hb⟩ | ⟨i, j, ha, hb, alike⟩ := h.getElem? k
  · rw [ha, hb]
    exact ⟨h, states⟩
  · rw [ha, hb]
    obtain ⟨relayed, states⟩ := Interface.relay_alike parties alike states same
    exact ⟨h.set k relayed, states⟩

theorem relay_alike (parties : o.Alike (SameFrame stamped) S p)
    (h : a.Alike (SameFrame stamped) b) (states : S s t) (same : x.SameFrame stamped y) (k : Nat)
    (scope : Scope) :
    Ends (SameFrame stamped) S (a.relay o k x scope s) (b.relay p k y scope t) := by
  unfold relay
  cases scope with
  | bss => exact relayThrough_alike parties h states same k
  | sibling bss =>
    dsimp only
    rw [h.find?_eq]
    cases b.find? bss with
    | none => exact ⟨h.count k _, states⟩
    | some target => exact relayThrough_alike parties h states same target

theorem dispatchCopy_alike (parties : o.Alike (SameFrame stamped) S p)
    (h : a.Alike (SameFrame stamped) b) (states : S s t) {c d : Duplicate}
    (copies : c.Alike (SameFrame stamped) d) (k : Nat) :
    Ends (SameFrame stamped) S (a.dispatchCopy o k c s) (b.dispatchCopy p k d t) := by
  cases copies with
  | retransmit same scope => exact relay_alike parties (h.count k _) states same k scope
  | monitor same => exact ⟨h.count k _, parties.deliverMonitor same states⟩

theorem dispatchEvent_alike (parties : o.Alike (SameFrame stamped) S p)
    (h : a.Alike (SameFrame stamped) b) (states : S s t) {e f : HostEvent}
    (events : e.Alike (SameFrame stamped) f) (k : Nat) (bss : UInt8) :
    Ends (SameFrame stamped) S (a.dispatchEvent o k bss e s) (b.dispatchEvent p k bss f t) := by
  have told := parties.event bss events states
  cases events with
  | debug text => exact ⟨h.count k _, told⟩
  | management frame => exact ⟨h.count k _, told⟩
  | monitor same => exact ⟨(h.count k _).count k _, told⟩

/-- What is carried out one after the other ends alike if each step does. -/
theorem foldl_alike {r : Buffer → Buffer → Prop} {α β : Type} {R : α → β → Prop}
    {f : Radio × σ → α → Radio × σ} {g : Radio × τ → β → Radio × τ}
    (step : ∀ x y c d, Ends r S x y → R c d → Ends r S (f x c) (g y d)) {cs : List α}
    {ds : List β} (alike : List.Forall₂ R cs ds) {x : Radio × σ} {y : Radio × τ}
    (start : Ends r S x y) : Ends r S (cs.foldl f x) (ds.foldl g y) := by
  induction alike generalizing x y with
  | nil => exact start
  | cons first rest ih => exact ih (step x y _ _ start first)

theorem dispatch_alike (parties : o.Alike (SameFrame stamped) S p)
    (h : a.Alike (SameFrame stamped) b) (states : S s t) {c d : Outcome}
    (outcomes : c.Alike (SameFrame stamped) d) (k : Nat) (bss : UInt8) :
    Ends (SameFrame stamped) S (a.dispatch o k bss c s) (b.dispatch p k bss d t) := by
  cases outcomes with
  | deliver same => exact deliver_alike parties h states same k
  | forward same scope => exact relay_alike parties (h.count k _) states same k scope
  | duplicate same copies =>
    have start : Ends (SameFrame stamped) S (a, s) (b, t) := ⟨h, states⟩
    obtain ⟨copied, states⟩ := foldl_alike
      (f := fun st copy => st.1.dispatchCopy o k copy st.2)
      (g := fun st copy => st.1.dispatchCopy p k copy st.2)
      (fun _ _ _ _ ends alike => dispatchCopy_alike parties ends.1 ends.2 alike k) copies start
    exact deliver_alike parties copied states same k
  | monitor same => exact dispatchEvent_alike parties h states (.monitor same) k bss
  | event e => exact dispatchEvent_alike parties h states (.refl SameFrame.refl e) k bss
  | drop reason => exact ⟨h.count k _, states⟩

theorem dispatchAll_alike (parties : o.Alike (SameFrame stamped) S p)
    (h : a.Alike (SameFrame stamped) b) (states : S s t) {cs ds : List Outcome}
    (outcomes : List.Forall₂ (Outcome.Alike (SameFrame stamped)) cs ds) (k : Nat) (bss : UInt8) :
    Ends (SameFrame stamped) S (a.dispatchAll o k bss cs s) (b.dispatchAll p k bss ds t) := by
  have start : Ends (SameFrame stamped) S (a, s) (b, t) := ⟨h, states⟩
  refine foldl_alike ?_ outcomes start
  intro x y c d ends alike
  exact dispatch_alike parties ends.1 ends.2 alike k bss

end Dispatch

/-! ## Operations -/

section Operations

variable {stamped : Prop} {S : σ → τ → Prop} {o : Outside σ} {p : Outside τ} {a b : Radio} {s : σ}
  {t : τ} {x y : Buffer}

theorem reject_alike (h : a.Alike (SameFrame stamped) b) (same : x.SameFrame stamped y)
    (reason : DropReason) : (a.reject x reason).Alike (SameFrame stamped) (b.reject y reason) := by
  refine ⟨h.interfaces, ?_⟩
  unfold reject
  rw [h.unattributed, (SameFrame.congruence stamped).size same]

theorem receive_alike (parties : o.Alike (SameFrame stamped) S p)
    (h : a.Alike (SameFrame stamped) b) (states : S s t) (same : x.SameFrame stamped y)
    (now : Instant) :
    (a.receive o now s x).1 = (b.receive p now t y).1 ∧
      Ends (SameFrame stamped) S (a.receive o now s x).2 (b.receive p now t y).2 := by
  have cong := SameFrame.congruence stamped
  unfold receive
  rw [same.window, cong.size same]
  cases y.window[1]? with
  | none => exact ⟨rfl, reject_alike h same _, states⟩
  | some bss =>
    dsimp only
    obtain ⟨e, ha, hb⟩ | ⟨⟨k, i⟩, ⟨k', j⟩, ha, hb, place, interfaces⟩ := (h.require bss).cases
    · rw [ha, hb]
      exact ⟨rfl, reject_alike h same _, states⟩
    · obtain rfl : k = k' := place
      obtain ⟨outcomes, received, states⟩ := Interface.receive_alike cong parties interfaces states
        same (b.neighbors k) now
      rw [ha, hb]
      dsimp only
      rw [h.neighbors_eq]
      exact ⟨rfl, dispatchAll_alike parties (h.set k received) states outcomes k bss⟩

theorem receiveReordered_alike (parties : o.Alike (SameFrame stamped) S p)
    (h : a.Alike (SameFrame stamped) b) (states : S s t) (same : x.SameFrame stamped y)
    (now : Instant) (bss : UInt8) :
    (a.receiveReordered o now s bss x).1 = (b.receiveReordered p now t bss y).1 ∧
      Ends (SameFrame stamped) S (a.receiveReordered o now s bss x).2
        (b.receiveReordered p now t bss y).2 := by
  unfold receiveReordered
  obtain ⟨e, ha, hb⟩ | ⟨⟨k, i⟩, ⟨k', j⟩, ha, hb, place, interfaces⟩ := (h.require bss).cases
  · rw [ha, hb]
    exact ⟨rfl, h, states⟩
  · obtain rfl : k = k' := place
    obtain ⟨outcomes, received, states⟩ := Interface.receiveReordered_alike
      (SameFrame.congruence stamped) parties interfaces states same (b.neighbors k) now
    rw [ha, hb]
    dsimp only
    rw [h.neighbors_eq]
    exact ⟨rfl, dispatchAll_alike parties (h.set k received) states outcomes k bss⟩

theorem send_alike (parties : o.Alike (SameFrame stamped) S p)
    (h : a.Alike (SameFrame stamped) b) (states : S s t) (same : x.SameFrame stamped y)
    (bss : UInt8) (hints : TransmitHints) :
    (a.send o s bss x hints).1 = (b.send p t bss y hints).1 ∧
      Ends (SameFrame stamped) S (a.send o s bss x hints).2 (b.send p t bss y hints).2 := by
  unfold send
  obtain ⟨e, ha, hb⟩ | ⟨⟨k, i⟩, ⟨k', j⟩, ha, hb, place, interfaces⟩ := (h.require bss).cases
  · rw [ha, hb]
    exact ⟨rfl, h, states⟩
  · obtain rfl : k = k' := place
    obtain ⟨answer, sent, states⟩ := Interface.send_alike parties interfaces states same hints
    rw [ha, hb]
    exact ⟨answer, h.set k sent, states⟩

end Operations

end Radio

/-! ## The two runs -/

/-- **Octets outside the window.** Two buffers hold the same frame, with any headroom and any octets
around it. Parties that answer alike, and alike interfaces or radios, are given the one and the
other. Then receiving, receiving again what was released, sending and relaying give outcomes of the
same kind in the same order, with the same frames in them, and the same answers; the same frames are
handed to the transport, the host and the reorder engine; and the same interfaces are reached, but
for where the buffers in their backlogs keep the same frames. -/
theorem storage_unseen {stamped : Prop} {S : σ → τ → Prop} {o : Outside σ} {p : Outside τ}
    (parties : o.Alike (SameFrame stamped) S p) {s : σ} {t : τ} (states : S s t) {x y : Buffer}
    (same : x.SameFrame stamped y) :
    (∀ i j : Interface, i.Alike (SameFrame stamped) j →
      ∀ (near : Neighbors) (now : Instant) (hints : TransmitHints),
        let Ended := Interface.Ends (SameFrame stamped) (Outside.AlikeLogs (SameFrame stamped) S)
        let received := i.receive o.logged near now (s, []) x
        let received' := j.receive p.logged near now (t, []) y
        let released := i.receiveReordered o.logged near now (s, []) x
        let released' := j.receiveReordered p.logged near now (t, []) y
        let sent := i.send o.logged (s, []) x hints
        let sent' := j.send p.logged (t, []) y hints
        (List.Forall₂ (Outcome.Alike (SameFrame stamped)) received.1 received'.1 ∧
          Ended received.2 received'.2) ∧
        (List.Forall₂ (Outcome.Alike (SameFrame stamped)) released.1 released'.1 ∧
          Ended released.2 released'.2) ∧
        (sent.1 = sent'.1 ∧ Ended sent.2 sent'.2) ∧
        Ended (i.relay o.logged (s, []) x) (j.relay p.logged (t, []) y)) ∧
    (∀ a b : Radio, a.Alike (SameFrame stamped) b →
      ∀ (now : Instant) (bss : UInt8) (hints : TransmitHints),
        let Ended := Radio.Ends (SameFrame stamped) (Outside.AlikeLogs (SameFrame stamped) S)
        let received := a.receive o.logged now (s, []) x
        let received' := b.receive p.logged now (t, []) y
        let released := a.receiveReordered o.logged now (s, []) bss x
        let released' := b.receiveReordered p.logged now (t, []) bss y
        let sent := a.send o.logged (s, []) bss x hints
        let sent' := b.send p.logged (t, []) bss y hints
        (received.1 = received'.1 ∧ Ended received.2 received'.2) ∧
        (released.1 = released'.1 ∧ Ended released.2 released'.2) ∧
        (sent.1 = sent'.1 ∧ Ended sent.2 sent'.2)) := by
  have cong := SameFrame.congruence stamped
  have logged := parties.logged
  have start : Outside.AlikeLogs (SameFrame stamped) S (s, []) (t, []) := ⟨states, .nil⟩
  constructor
  · intro i j alike near now hints
    exact ⟨Interface.receive_alike cong logged alike start same near now,
      Interface.receiveReordered_alike cong logged alike start same near now,
      Interface.send_alike logged alike start same hints,
      Interface.relay_alike logged alike start same⟩
  · intro a b alike now bss hints
    exact ⟨Radio.receive_alike logged alike start same now,
      Radio.receiveReordered_alike logged alike start same now bss,
      Radio.send_alike logged alike start same bss hints⟩

/-- A transport and a host that take everything look at no buffer. -/
theorem Replay.accepting_alike (r : Buffer → Buffer → Prop) :
    accepting.Alike r (fun _ _ => True) accepting where
  submit h _ _ _ := ⟨.success h, trivial⟩
  deliver _ _ _ _ := ⟨rfl, trivial⟩
  sendComplete _ _ _ _ _ := trivial
  event _ _ _ _ _ _ _ := trivial
  deliverMonitor _ _ _ _ := trivial
  hasSession _ _ _ _ _ := rfl
  reorder _ _ _ _ _ _ _ _ _ _ := ⟨rfl, trivial⟩
  record _ _ _ _ _ _ := trivial

/-- A buffer with stale octets on both sides of a frame. -/
def staleAround (frame : Bytes) : Buffer where
  store := List.replicate 40 0xee ++ (frame ++ [0xdd, 0xdd])
  offset := 40
  size := frame.length
  fits := by
    rw [List.length_append, List.length_replicate, List.length_append]
    omega
  direction := .rx
  flags := .none
  priority := 0
  rxStamped := true
  txStamped := false
  frameType := none

theorem staleAround_sameFrame (frame : Bytes) :
    (Buffer.ofBytes .rx frame).SameFrame True (staleAround frame) := by
  have window : (staleAround frame).window = frame := by
    simp [Buffer.window, staleAround, Bytes.slice]
  refine ⟨?_, rfl, fun _ => rfl, fun _ => rfl⟩
  rw [Buffer.frame, Buffer.frame, window, Buffer.window_ofBytes]
  rfl

/-- A request to set up a direct link, in a buffer without headroom and between stale octets: it is
delivered alike, and sent alike though the descriptor for it goes into a new store only once. -/
theorem storage_unseen_stale :
    let x := Buffer.ofBytes .rx Interface.setupRequest
    let y := staleAround Interface.setupRequest
    let received := Interface.standard.receive Replay.accepting.logged [] 0 ((), []) x
    let received' := Interface.standard.receive Replay.accepting.logged [] 0 ((), []) y
    let sent := Interface.standard.send Replay.accepting.logged ((), []) x .none
    let sent' := Interface.standard.send Replay.accepting.logged ((), []) y .none
    x.headroom ≠ y.headroom ∧ x.SameFrame True y ∧ received.1.length = 1 ∧
      List.Forall₂ (Outcome.Alike (SameFrame True)) received.1 received'.1 ∧
      received.2.1.Alike (SameFrame True) received'.2.1 ∧
      sent.2.2.2.length = 2 ∧
      List.Forall₂ (Call.Alike (SameFrame True)) sent.2.2.2 sent'.2.2.2 := by
  intro x y received received' sent sent'
  have same : x.SameFrame True y := staleAround_sameFrame Interface.setupRequest
  obtain ⟨interfaces, -⟩ := storage_unseen (Replay.accepting_alike (SameFrame True)) trivial same
  obtain ⟨⟨outcomes, reached, -⟩, -, ⟨-, -, -, calls⟩, -⟩ := interfaces Interface.standard
    Interface.standard (.refl SameFrame.refl _) [] 0 .none
  exact ⟨by decide, same, by decide +kernel, outcomes, reached, by decide +kernel, calls⟩

end Airlink
