import Airlink.Proofs.Relaying
import Mathlib.Data.FinEnum

/-!
# What becomes of a frame at an access point

Where the data path relays at all, a group frame goes to the host, with copies of it as the policy
and the settings say (`Forwarding.decideGroup_eq`), and a unicast frame goes one way: it is
forwarded just if the data path relays it (`Forwarding.decideUnicast_eq_forward_iff`), dropped just
if nobody knows its destination and the host relays no unicast
(`Forwarding.decideUnicast_eq_drop_iff`), and otherwise goes to the host.
-/

namespace Airlink

/-! ## Bits of the policy -/

namespace ForwardingPolicy

/-- The single bits that a policy is made of. -/
def classes : List UInt8 := [enabled, hostGroup, hostLocal, hostSibling]

/-- A single bit is not among those set just if it is clear. -/
theorem has_eq_false_iff (p : ForwardingPolicy) {bit : UInt8} (single : bit ∈ classes) :
    p.has bit = false ↔ p.bits &&& bit = 0 := by
  -- For a mask of several bits the two differ: one of them may be set and another clear.
  have bitwise : ∀ bit ∈ classes, ∀ b : UInt8, (b &&& bit == bit) = false ↔ b &&& bit = 0 := by
    decide +kernel
  exact bitwise bit single p.bits

end ForwardingPolicy

/-! ## Siblings -/

/-- A number is that of the first sibling that knows an address. -/
def Neighbors.IsFirst (near : Neighbors) (addr : HwAddr) (bss : UInt8) : Prop :=
  ∃ before table after, near = before ++ (bss, table) :: after ∧ table.contains addr = true ∧
    ∀ sibling ∈ before, sibling.2.contains addr = false

namespace Neighbors

variable (near : Neighbors) (addr : HwAddr)

theorem locate?_eq_some_iff (bss : UInt8) :
    near.locate? addr = some bss ↔ near.IsFirst addr bss := by
  unfold locate? IsFirst
  simp only [Option.map_eq_some_iff, List.find?_eq_some_iff_append]
  constructor
  · rintro ⟨⟨n, table⟩, ⟨knows, before, after, rfl, unknowing⟩, rfl⟩
    exact ⟨before, table, after, rfl, knows,
      fun sibling mem => by simpa using unknowing sibling mem⟩
  · rintro ⟨before, table, after, rfl, knows, unknowing⟩
    exact ⟨(bss, table),
      ⟨knows, before, after, rfl, fun sibling mem => by simp [unknowing sibling mem]⟩, rfl⟩

theorem locate?_eq_none_iff :
    near.locate? addr = none ↔ ∀ sibling ∈ near, sibling.2.contains addr = false := by
  simp [locate?]

end Neighbors

/-! ## Copies and turned buffers -/

/-- A buffer is another one turned around for relaying: only its direction and the mark of a relayed
frame are new. -/
structure Buffer.TurnsInto (b c : Buffer) : Prop where
  window : c.window = b.window
  priority : c.priority = b.priority
  direction : c.direction = .tx
  flags : c.flags = b.flags.insert BufferFlags.forwarded
  frameType : c.frameType = b.frameType
  rxStamped : c.rxStamped = b.rxStamped
  txStamped : c.txStamped = b.txStamped

/-- A buffer is a copy of another one for a monitor: only the mark of such copies and the frame type
are new. -/
structure Buffer.Monitored (b c : Buffer) : Prop where
  window : c.window = b.window
  priority : c.priority = b.priority
  direction : c.direction = b.direction
  flags : c.flags = b.flags.insert BufferFlags.monitor
  frameType : c.frameType = some .data
  rxStamped : c.rxStamped = b.rxStamped
  txStamped : c.txStamped = b.txStamped

namespace Buffer

variable (b : Buffer)

theorem turnsInto_toTx : b.TurnsInto b.toTx := ⟨rfl, rfl, rfl, rfl, rfl, rfl, rfl⟩

theorem turnsInto_duplicateForTx : b.TurnsInto b.duplicateForTx :=
  ⟨b.window_duplicate, rfl, rfl, rfl, rfl, rfl, rfl⟩

theorem monitored_duplicate :
    b.Monitored { b.duplicate.flag BufferFlags.monitor with frameType := some .data } :=
  ⟨b.window_duplicate, rfl, rfl, rfl, rfl, rfl, rfl⟩

end Buffer

namespace Forwarding

variable (v : View) (buf : Buffer) (dest : HwAddr)

/-! ## Group frames -/

/-- A group frame goes to the host. Unless the host relays group traffic a copy goes out again, and
another goes to a monitor if it is to see group traffic. -/
theorem decideGroup_eq :
    ∃ again monitored, buf.TurnsInto again ∧ buf.Monitored monitored ∧
      decideGroup v buf =
        match (if v.policy.bits &&& ForwardingPolicy.hostGroup = 0 then
            [Duplicate.retransmit again .bss] else []) ++
          (if v.monitorGroup then [Duplicate.monitor monitored] else []) with
        | [] => .deliver buf
        | copies => .duplicate buf copies := by
  refine ⟨_, _, buf.turnsInto_duplicateForTx, buf.monitored_duplicate, ?_⟩
  have clear : v.policy.has ForwardingPolicy.hostGroup = false ↔ _ :=
    v.policy.has_eq_false_iff (by decide)
  unfold decideGroup copies
  simp only [← clear]
  cases v.policy.has ForwardingPolicy.hostGroup <;> rfl

/-! ## Unicast frames -/

variable {v buf dest}

theorem relays_bss_iff :
    Relays v dest .bss ↔
      v.stations.contains dest = true ∧ v.policy.has ForwardingPolicy.hostLocal = false :=
  ⟨fun | .own known allowed => ⟨known, allowed⟩, fun ⟨known, allowed⟩ => .own known allowed⟩

theorem relays_sibling_iff {bss : UInt8} :
    Relays v dest (.sibling bss) ↔
      v.stations.contains dest = false ∧ v.policy.has ForwardingPolicy.hostSibling = false ∧
        v.near.locate? dest = some bss :=
  ⟨fun | .sibling unknown located allowed => ⟨unknown, allowed, located⟩,
    fun ⟨unknown, allowed, located⟩ => .sibling unknown located allowed⟩

/-- What becomes of a unicast frame, and why. -/
inductive UnicastFate (v : View) (buf : Buffer) (dest : HwAddr) : Outcome → Prop where
  | own (own : dest = v.ownAddr) : UnicastFate v buf dest (.deliver buf)
  | relayed {scope : Scope} (foreign : dest ≠ v.ownAddr) (relays : Relays v dest scope) :
      UnicastFate v buf dest (.forward buf.toTx scope)
  /-- The host relays to the stations of the interface. -/
  | hostLocal (known : v.stations.contains dest = true)
      (host : v.policy.has ForwardingPolicy.hostLocal = true) :
      UnicastFate v buf dest (.deliver buf)
  /-- The host relays to the siblings. -/
  | hostSibling {bss : UInt8} (unknown : v.stations.contains dest = false)
      (located : v.near.locate? dest = some bss)
      (host : v.policy.has ForwardingPolicy.hostSibling = true) :
      UnicastFate v buf dest (.deliver buf)
  /-- Nobody knows the destination, and the host relays unicast. -/
  | hostUnknown (unknown : v.stations.contains dest = false)
      (nowhere : v.near.locate? dest = none)
      (host : v.policy.has ForwardingPolicy.hostLocal = true ∨
        v.policy.has ForwardingPolicy.hostSibling = true) :
      UnicastFate v buf dest (.deliver buf)
  | lost (foreign : dest ≠ v.ownAddr) (unknown : v.stations.contains dest = false)
      (nowhere : v.near.locate? dest = none)
      (noLocal : v.policy.has ForwardingPolicy.hostLocal = false)
      (noSibling : v.policy.has ForwardingPolicy.hostSibling = false) :
      UnicastFate v buf dest (.drop .unroutableUnicast)

/-- A unicast frame meets its fate. -/
theorem unicastFate_decideUnicast (v : View) (buf : Buffer) (dest : HwAddr) :
    UnicastFate v buf dest (decideUnicast v buf dest) := by
  unfold decideUnicast
  split
  · next own => exact .own own
  · next foreign =>
    split
    · next known =>
      split
      · next host => exact .hostLocal known host
      · next allowed => exact .relayed foreign (.own known (Bool.eq_false_iff.2 allowed))
    · next unknown =>
      have unknown := Bool.eq_false_iff.2 unknown
      split
      · next bss located =>
        split
        · next host => exact .hostSibling unknown located host
        · next allowed =>
          exact .relayed foreign (.sibling unknown located (Bool.eq_false_iff.2 allowed))
      · next nowhere =>
        split
        · next host => exact .hostUnknown unknown nowhere (Bool.or_eq_true_iff.1 host)
        · next none =>
          obtain ⟨noLocal, noSibling⟩ := Bool.or_eq_false_iff.1 (Bool.eq_false_iff.2 none)
          exact .lost foreign unknown nowhere noLocal noSibling

/-- Whatever fate a unicast frame has, it meets. -/
theorem UnicastFate.decideUnicast_eq {out : Outcome} (fate : UnicastFate v buf dest out) :
    decideUnicast v buf dest = out := by
  unfold decideUnicast
  cases fate with
  | own own => rw [if_pos own]
  | relayed foreign relays =>
    cases relays with
    | own known allowed => simp [foreign, known, allowed]
    | sibling unknown located allowed => simp [foreign, unknown, located, allowed]
  | hostLocal known host => simp [known, host]
  | hostSibling unknown located host => simp [unknown, located, host]
  | hostUnknown unknown nowhere host => simp [unknown, nowhere, host]
  | lost foreign unknown nowhere noLocal noSibling =>
    simp [foreign, unknown, nowhere, noLocal, noSibling]

theorem decideUnicast_eq_iff {out : Outcome} :
    decideUnicast v buf dest = out ↔ UnicastFate v buf dest out :=
  ⟨fun met => met ▸ unicastFate_decideUnicast v buf dest, UnicastFate.decideUnicast_eq⟩

/-- A unicast frame is forwarded just if the data path relays it. -/
theorem decideUnicast_eq_forward_iff {c : Buffer} {scope : Scope} :
    decideUnicast v buf dest = .forward c scope ↔
      c = buf.toTx ∧ dest ≠ v.ownAddr ∧ Relays v dest scope := by
  rw [decideUnicast_eq_iff]
  constructor
  · intro fate
    cases fate with
    | relayed foreign relays => exact ⟨rfl, foreign, relays⟩
  · rintro ⟨rfl, foreign, relays⟩
    exact .relayed foreign relays

/-- It is dropped just if nobody knows its destination and the host relays no unicast. -/
theorem decideUnicast_eq_drop_iff :
    decideUnicast v buf dest = .drop .unroutableUnicast ↔
      dest ≠ v.ownAddr ∧ v.stations.contains dest = false ∧ v.near.locate? dest = none ∧
        v.policy.has ForwardingPolicy.hostLocal = false ∧
        v.policy.has ForwardingPolicy.hostSibling = false := by
  rw [decideUnicast_eq_iff]
  constructor
  · intro fate
    cases fate with
    | lost foreign unknown nowhere noLocal noSibling =>
      exact ⟨foreign, unknown, nowhere, noLocal, noSibling⟩
  · rintro ⟨foreign, unknown, nowhere, noLocal, noSibling⟩
    exact .lost foreign unknown nowhere noLocal noSibling

/-- A unicast frame goes one way. -/
theorem decideUnicast_eq_or (v : View) (buf : Buffer) (dest : HwAddr) :
    decideUnicast v buf dest = .deliver buf ∨
      (∃ scope, decideUnicast v buf dest = .forward buf.toTx scope) ∨
      decideUnicast v buf dest = .drop .unroutableUnicast := by
  have fate := unicastFate_decideUnicast v buf dest
  generalize decideUnicast v buf dest = out at fate
  cases fate with
  | own | hostLocal | hostSibling | hostUnknown => exact .inl rfl
  | @relayed scope => exact .inr (.inl ⟨scope, rfl⟩)
  | lost => exact .inr (.inr rfl)

/-! ## Any frame -/

/-- **What becomes of a frame.** If the policy does not let the data path relay, a frame goes to the
host as it is. If it does,

* so does a group frame. A copy of it goes out again just if the bit that leaves group traffic to
  the host is clear, and another one goes to a monitor just if that is to see group traffic;
* a unicast frame either goes to the host as it is or is turned around and forwarded or is dropped.
  It is forwarded to a station of the interface just if the destination is not the interface itself
  but known to it, and the bit that leaves such traffic to the host is clear. It is forwarded to a
  sibling just if the destination is neither the interface itself nor known to it, the bit that
  leaves such traffic to the host is clear, and the sibling is the first that knows it. It is
  dropped just if the destination is neither the interface itself nor known to it or any sibling,
  and both bits are clear. -/
theorem decide_fate (v : View) (buf : Buffer) (dest : HwAddr) :
    let out := decide v buf dest
    let Clear (bit : UInt8) := v.policy.bits &&& bit = 0
    let Known := v.stations.contains dest = true
    if Clear ForwardingPolicy.enabled then out = .deliver buf
    else if dest.isGroup then
      ∃ again monitored, buf.TurnsInto again ∧ buf.Monitored monitored ∧
        out = match (if Clear ForwardingPolicy.hostGroup then
              [Duplicate.retransmit again .bss] else []) ++
            (if v.monitorGroup then [Duplicate.monitor monitored] else []) with
          | [] => .deliver buf
          | copies => .duplicate buf copies
    else
      (out = .deliver buf ∨ (∃ c scope, buf.TurnsInto c ∧ out = .forward c scope) ∨
        out = .drop .unroutableUnicast) ∧
      ((∃ c, out = .forward c .bss) ↔
        dest ≠ v.ownAddr ∧ Known ∧ Clear ForwardingPolicy.hostLocal) ∧
      (∀ bss, (∃ c, out = .forward c (.sibling bss)) ↔
        dest ≠ v.ownAddr ∧ ¬ Known ∧ Clear ForwardingPolicy.hostSibling ∧
          v.near.IsFirst dest bss) ∧
      (out = .drop .unroutableUnicast ↔
        dest ≠ v.ownAddr ∧ ¬ Known ∧
          (∀ sibling ∈ v.near, ¬ sibling.2.contains dest = true) ∧
          Clear ForwardingPolicy.hostLocal ∧ Clear ForwardingPolicy.hostSibling) := by
  intro out Clear Known
  have clear {bit : UInt8} (single : bit ∈ ForwardingPolicy.classes) :
      Clear bit ↔ v.policy.has bit = false := (v.policy.has_eq_false_iff single).symm
  have hostLocal : Clear ForwardingPolicy.hostLocal ↔ _ := clear (by decide)
  have hostSibling : Clear ForwardingPolicy.hostSibling ↔ _ := clear (by decide)
  split
  · next off =>
    have off : v.policy.isEnabled = false := (clear (by decide)).1 off
    simp [out, decide, off]
  · next on =>
    have on : v.policy.isEnabled = true := by
      rw [clear (by decide), Bool.not_eq_false] at on
      exact on
    have relaying : out = if dest.isGroup then decideGroup v buf else decideUnicast v buf dest := by
      simp only [out, decide, on, Bool.not_true, Bool.false_eq_true, if_false]
    split
    · next group =>
      rw [relaying, if_pos group]
      exact decideGroup_eq v buf
    · next unicast =>
      rw [relaying, if_neg unicast]
      refine ⟨?_, ?_, fun bss => ?_, ?_⟩
      · rcases decideUnicast_eq_or v buf dest with delivered | ⟨scope, forwarded⟩ | dropped
        · exact .inl delivered
        · exact .inr (.inl ⟨buf.toTx, scope, buf.turnsInto_toTx, forwarded⟩)
        · exact .inr (.inr dropped)
      · simp [decideUnicast_eq_forward_iff, relays_bss_iff, hostLocal, Known]
      · simp [decideUnicast_eq_forward_iff, relays_sibling_iff, hostSibling, Known,
          Neighbors.locate?_eq_some_iff]
      · simp [decideUnicast_eq_drop_iff, hostLocal, hostSibling, Known,
          Neighbors.locate?_eq_none_iff]

end Forwarding

end Airlink
