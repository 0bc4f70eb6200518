import Airlink.Proofs.Radio.Relay
import Airlink.Proofs.Radio.Steps

/-!
# What a received frame does to the siblings

An access point looks at the station tables of its siblings to find where a frame goes out, and may
transmit through one of them while the frame is still being received. Of the table of a sibling that
changes only how much was sent to its stations (`StationTable.untransmitted`): who is known, and all
else that is known of them, stays. What it looks up is there: a frame that is relayed to a sibling
names the first other access point that knows its destination (`FirstKnowing`), and when the frame
is relayed that interface is found. `Radio.receive_contained` states both for receiving a frame and
for receiving what the reorder engine has released.
-/

namespace Airlink

variable {σ : Type}

/-! ## Tables apart from what was sent -/

/-- An entry without the counts of what was sent. -/
def Station.untransmitted (s : Station) : Station := { s with txPackets := 0, txBytes := 0 }

/-- A table without the counts of what was sent. -/
def StationTable.untransmitted (t : StationTable) : StationTable :=
  { t with stations := t.stations.map Station.untransmitted }

namespace StationTable

theorem untransmitted_sent (t : StationTable) (addr : HwAddr) (size : Nat) :
    (t.modify addr (·.sent size)).untransmitted = t.untransmitted := by
  unfold untransmitted modify
  rw [List.map_map]
  congr 2
  funext s
  rw [Function.comp_apply]
  split
  · rfl
  · rfl

/-- Who is known does not depend on what was sent. -/
theorem contains_untransmitted (t : StationTable) (addr : HwAddr) :
    t.untransmitted.contains addr = t.contains addr := by
  unfold contains untransmitted
  rw [List.any_map]
  rfl

end StationTable

namespace Interface

theorem untransmitted_account (i : Interface) (answer : Submission) :
    (i.account answer).stations.untransmitted = i.stations.untransmitted := by
  unfold account
  cases answer with
  | success buf =>
    dsimp only
    split
    · exact i.stations.untransmitted_sent _ _
    · rfl
  | busy buf => rfl
  | failure buf reason => rfl

theorem untransmitted_submit (o : Outside σ) (i : Interface) (s : σ) (framed : Buffer) :
    (i.submit o s framed).1.stations.untransmitted = i.stations.untransmitted := by
  unfold submit
  split
  · dsimp only
    rw [← i.untransmitted_account (o.submit framed s).1]
    cases (o.submit framed s).1 <;> rfl
  · rfl

theorem untransmitted_relay (o : Outside σ) (i : Interface) (s : σ) (buf : Buffer) :
    (i.relay o s buf).1.stations.untransmitted = i.stations.untransmitted := by
  unfold relay
  split
  · rfl
  · exact untransmitted_submit o i s _

/-- The tables of two interfaces say the same but for what was sent. -/
def SameStations (i j : Interface) : Prop :=
  j.stations.untransmitted = i.stations.untransmitted

/-- Carrying out outcomes only adds to what was sent. -/
theorem carriage_sameStations (o : Outside σ) : Carriage o SameStations where
  refl _ := rfl
  trans h h' := h'.trans h
  count _ _ := rfl
  relay i s buf := i.untransmitted_relay o s buf

end Interface

/-! ## Where frames are relayed to -/

/-- The element found when one position is left aside is the first at the other positions. -/
theorem of_find?_eraseIdx {α : Type} {p : α → Bool} {l : List α} {k : Nat} {x : α}
    (found : (l.eraseIdx k).find? p = some x) :
    ∃ t, t ≠ k ∧ l[t]? = some x ∧ p x = true ∧
      ∀ n y, n < t → n ≠ k → l[n]? = some y → p y = false := by
  induction l generalizing k with
  | nil => cases found
  | cons y l ih =>
    cases k with
    | zero =>
      rw [List.eraseIdx_zero, List.tail_cons] at found
      obtain ⟨holds, t, inside, here, first⟩ := List.find?_eq_some_iff_getElem.1 found
      refine ⟨t + 1, Nat.succ_ne_zero t, ?_, holds, fun n z before other at_ => ?_⟩
      · rw [List.getElem?_cons_succ, List.getElem?_eq_getElem inside, here]
      · obtain ⟨n, rfl⟩ := Nat.exists_eq_succ_of_ne_zero other
        have fails := first n (Nat.lt_of_succ_lt_succ before)
        rw [List.getElem?_cons_succ] at at_
        obtain ⟨_, rfl⟩ := List.getElem?_eq_some_iff.1 at_
        simpa using fails
    | succ k =>
      rw [List.eraseIdx_cons_succ] at found
      by_cases holds : p y = true
      · rw [List.find?_cons_of_pos holds] at found
        cases found
        exact ⟨0, (Nat.succ_ne_zero k).symm, rfl, holds, fun n _ before => absurd before (by omega)⟩
      · rw [List.find?_cons_of_neg holds] at found
        obtain ⟨t, other, at_, isX, first⟩ := ih found
        refine ⟨t + 1, fun same => other (Nat.succ.inj same), at_, isX,
          fun n z before apart at' => ?_⟩
        cases n with
        | zero =>
          cases at'
          exact Bool.eq_false_iff.2 holds
        | succ n =>
          exact first n z (Nat.lt_of_succ_lt_succ before) (fun same => apart (congrArg _ same)) at'

/-- The outcome relays to a sibling only if that is where the destination is located, and sends
copies out only through the interface itself. -/
def Outcome.Located (near : Neighbors) : Outcome → Prop
  | .forward buf (.sibling bss) =>
    ∃ dest, HwAddr.at? buf.window 0 = some dest ∧ near.locate? dest = some bss
  | .duplicate _ copies => ∀ buf scope, .retransmit buf scope ∈ copies → scope = .bss
  | _ => True

namespace Ingress

/-- A frame is relayed to a sibling that knows its destination. -/
theorem located_routeTo (env : Env) (st : State) (b : Buffer) {dest : HwAddr}
    (isDest : HwAddr.at? b.window 0 = some dest) : (routeTo env st b dest).Located env.near := by
  unfold routeTo
  split
  · trivial
  unfold Forwarding.decide
  split
  · trivial
  split
  · unfold Forwarding.decideGroup
    split
    · trivial
    · intro buf scope mem
      rcases List.mem_append.1 mem with mem | mem
      · split at mem
        · cases mem
        · cases List.mem_singleton.1 mem
          rfl
      · split at mem
        · cases List.mem_singleton.1 mem
        · cases mem
  · unfold Forwarding.decideUnicast
    split
    · trivial
    split
    · split
      · trivial
      · trivial
    split
    · next bss located =>
      split
      · trivial
      · exact ⟨dest, isDest, located⟩
    · split
      · trivial
      · trivial

theorem located_process (env : Env) (st : State) (buf : Buffer) (desc : RxDescriptor) :
    (process env st buf desc).1.Located env.near := by
  have processed := process_processed env st buf desc
  generalize process env st buf desc = result at processed
  cases processed with
  | event e untranslated => trivial
  | drop reason untranslated unscreened => trivial
  | @sent b c translation carried translated =>
    have room : Translation.headerSize ≤ c.window.length := by
      rw [c.length_window]
      exact Buffer.size_of_toEthernet translated
    have isDest : HwAddr.at? c.window 0 = some (HwAddr.ofSlice c.window 0) :=
      HwAddr.at?_eq_some (Nat.le_trans (by decide) room)
    cases screen env translation c.window with
    | drop reason => trivial
    | pass => exact located_routeTo env st c isDest
    | tdls tdls => exact located_routeTo env _ c isDest

end Ingress

namespace Interface

theorem located_receive (o : Outside σ) (near : Neighbors) (now : Instant) (i : Interface) (s : σ)
    (buf : Buffer) : ∀ outcome ∈ (i.receive o near now s buf).1, outcome.Located near :=
  i.forall_receive o near now s buf (fun st buf desc => Ingress.located_process _ st buf desc)
    (fun _ => trivial) (fun _ => trivial)

theorem located_receiveReordered (o : Outside σ) (near : Neighbors) (now : Instant) (i : Interface)
    (s : σ) (buf : Buffer) :
    ∀ outcome ∈ (i.receiveReordered o near now s buf).1, outcome.Located near := by
  unfold receiveReordered
  split
  · intro outcome mem
    obtain rfl := List.mem_singleton.1 mem
    trivial
  · exact Ingress.forall_processAll _ _ _ _
      (fun st buf desc => Ingress.located_process _ st buf desc) fun _ => trivial

end Interface

namespace Radio

/-- The interface at position `t` is the first access point other than the interface at position `k`
that knows an address. -/
structure FirstKnowing (r : Radio) (k : Nat) (dest : HwAddr) (t : Nat) (j : Interface) : Prop where
  other : t ≠ k
  at_ : r.interfaces[t]? = some j
  role : j.settings.role = .accessPoint
  knows : j.stations.contains dest = true
  first : ∀ (n : Nat) (l : Interface), n < t → n ≠ k → r.interfaces[n]? = some l →
    l.settings.role = .accessPoint → l.stations.contains dest = false

/-- A sibling that is located is the first that knows the address. -/
theorem firstKnowing_of_locate? {r : Radio} {k : Nat} {dest : HwAddr} {bss : UInt8}
    (located : (r.neighbors k).locate? dest = some bss) :
    ∃ t j, FirstKnowing r k dest t j ∧ j.bssNum = bss := by
  obtain ⟨sibling, found, rfl⟩ := Option.map_eq_some_iff.1 located
  unfold neighbors at found
  rw [List.find?_map, List.find?_filter] at found
  obtain ⟨j, isFirst, rfl⟩ := Option.map_eq_some_iff.1 found
  obtain ⟨t, other, at_, holds, first⟩ := of_find?_eraseIdx isFirst
  simp only [Function.comp_apply, beq_iff_eq, decide_eq_true_eq] at holds
  refine ⟨t, j, ⟨other, at_, holds.1, holds.2, fun n l before apart atN role => ?_⟩, rfl⟩
  simpa [role] using first n l before apart atN

/-- The radio and the state of the parties after outcomes of a frame that the interface at a
position, with the given number, received. -/
def carriedOut (o : Outside σ) (r : Radio) (k : Nat) (bss : UInt8)
    (received : List Outcome × Interface × σ) (outcomes : List Outcome) : Radio × σ :=
  (r.set k received.2.1).dispatchAll o k bss outcomes received.2.2

/-- What the interface at a position, with the given number, made of a frame stays there: of the
other tables nothing changes but what was sent, and every relay through a sibling goes to the first
that knows the destination, which is found when the frame is relayed. -/
structure Contained (o : Outside σ) (r : Radio) (k : Nat) (bss : UInt8)
    (received : List Outcome × Interface × σ) : Prop where
  tables : ∀ (l : Nat) (j : Interface), l ≠ k → r.interfaces[l]? = some j →
    ∃ j', (carriedOut o r k bss received received.1).1.interfaces[l]? = some j' ∧
      (∀ addr, j'.stations.contains addr = j.stations.contains addr) ∧
      j'.stations.untransmitted = j.stations.untransmitted
  forwards : ∀ before buf number rest,
    received.1 = before ++ .forward buf (.sibling number) :: rest →
      let reached := carriedOut o r k bss received before
      ∃ t j dest, HwAddr.at? buf.window 0 = some dest ∧ FirstKnowing r k dest t j ∧
        j.bssNum = number ∧ (∃ j', reached.1.interfaces[t]? = some j' ∧ j'.bssNum = number) ∧
        reached.1.dispatch o k bss (.forward buf (.sibling number)) reached.2 =
          (reached.1.count k Counters.countForwarded).relayThrough o t buf reached.2
  copies : ∀ buf ds, .duplicate buf ds ∈ received.1 →
    ∀ copy scope, .retransmit copy scope ∈ ds → scope = .bss

/-- Outcomes that relay to where the destination is located are contained. -/
theorem contained_of_located (o : Outside σ) {r : Radio} (arises : r.Arises) {k : Nat}
    {i : Interface} (at_ : r.interfaces[k]? = some i) (bss : UInt8)
    {received : List Outcome × Interface × σ} (same : received.2.1.identity = i.identity)
    (located : ∀ outcome ∈ received.1, outcome.Located (r.neighbors k)) :
    Contained o r k bss received := by
  constructor
  case tables =>
    intro l j other atL
    have here : (r.set k received.2.1).interfaces[l]? = some j :=
      (List.getElem?_set_ne other.symm).trans atL
    have kept := dispatchesAll (Interface.carriage_sameStations o) k bss received.1
      (r.set k received.2.1) received.2.2
    obtain ⟨j', there, untransmitted⟩ := exists_of_forall₂ kept here
    refine ⟨j', there, fun addr => ?_, untransmitted⟩
    rw [← j'.stations.contains_untransmitted, untransmitted, j.stations.contains_untransmitted]
  case forwards =>
    intro before buf number rest split reached
    have mem : Outcome.forward buf (.sibling number) ∈ received.1 := by
      rw [split]
      exact List.mem_append_right _ List.mem_cons_self
    obtain ⟨dest, isDest, locates⟩ := located _ mem
    obtain ⟨t, j, first, names⟩ := firstKnowing_of_locate? locates
    -- The interfaces are still the ones they were, so the number is found where it was.
    have identities : reached.1.identities = r.identities :=
      (identities_dispatchAll o k bss before _ _).trans (identities_set at_ same)
    have found : reached.1.find? number = some t := by
      rw [find?_eq_numbers, numbers_of_identities identities, ← find?_eq_numbers]
      exact arises.find?_eq_some_iff.2 ⟨j, first.at_, names⟩
    obtain ⟨j', there, isNumber⟩ := find?_eq_some found
    refine ⟨t, j, dest, isDest, first, names, ⟨j', there, isNumber⟩, ?_⟩
    have counted : (reached.1.count k Counters.countForwarded).find? number = some t := by
      rw [find?_eq_numbers, numbers_count, ← find?_eq_numbers, found]
    simp only [dispatch, relay, counted]
  case copies =>
    intro buf ds mem
    exact located _ mem

/-- **Tables of siblings.** Let a radio that arises receive a frame for one of its interfaces, or a
frame that the reorder engine has released to it. In the tables of all other interfaces the same
stations are known, and nothing is changed about them but what was sent to them. Wherever an outcome
relays to another interface, that is the first other access point whose table has the destination,
and it is there when the frame is relayed; copies go out through the receiving interface only. -/
theorem receive_contained (o : Outside σ) (now : Instant) {r : Radio} (arises : r.Arises) {k : Nat}
    {i : Interface} (at_ : r.interfaces[k]? = some i) (s : σ) (buf : Buffer) :
    let received := i.receive o (r.neighbors k) now s buf
    let released := i.receiveReordered o (r.neighbors k) now s buf
    (buf.window[1]? = some i.bssNum →
      r.receive o now s buf = (.ok (), carriedOut o r k i.bssNum received received.1) ∧
        Contained o r k i.bssNum received) ∧
    r.receiveReordered o now s i.bssNum buf =
        (.ok (), carriedOut o r k i.bssNum released released.1) ∧
      Contained o r k i.bssNum released := by
  intro received released
  have required := arises.require_eq_ok at_
  refine ⟨fun names => ⟨?_, ?_⟩, ?_, ?_⟩
  · simp only [receive, names, required]
    rfl
  · exact contained_of_located o arises at_ _ (i.identity_receive o (r.neighbors k) now s buf)
      (i.located_receive o (r.neighbors k) now s buf)
  · simp only [receiveReordered, required]
    rfl
  · exact contained_of_located o arises at_ _
      (i.identity_receiveReordered o (r.neighbors k) now s buf)
      (i.located_receiveReordered o (r.neighbors k) now s buf)

/-- The second access point sends a frame on that came to the first: its table says how much, and
nothing else new. -/
theorem receive_contained_siblings :
    let frame := Buffer.ofBytes .rx toSibling
    let second := knowing 1 ⟨2, 0, 0, 0, 2, 0xc⟩
    let received := (relayingPoint 0).receive Replay.accepting (siblings.neighbors 0) 0 () frame
    let after := (siblings.receive Replay.accepting 0 () frame).2.1
    siblings.Arises ∧ received.1.flatMap Outcome.scopes = [.sibling 1] ∧
      Contained Replay.accepting siblings 0 0 received ∧
      ∃ j, after.interfaces[1]? = some j ∧ j.stations ≠ second.stations ∧
        j.stations.untransmitted = second.stations.untransmitted := by
  intro frame second received after
  obtain ⟨arrival, -⟩ := receive_contained Replay.accepting 0 siblings_reachable.arises
    (k := 0) (i := relayingPoint 0) rfl () frame
  obtain ⟨ran, contained⟩ := arrival (by decide)
  obtain ⟨j, there, -, same⟩ := contained.tables 1 second (by decide) rfl
  have there : after.interfaces[1]? = some j := by
    rw [show after = _ from congrArg (·.2.1) ran]
    exact there
  have changed : after.interfaces[1]?.map (·.stations) ≠ some second.stations := by
    decide +kernel
  refine ⟨siblings_reachable.arises, by decide +kernel, contained, j, there, fun kept => ?_, same⟩
  rw [there, Option.map_some, kept] at changed
  exact changed rfl

end Radio

end Airlink
