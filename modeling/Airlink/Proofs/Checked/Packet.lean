import Airlink.Proofs.Checked.Header
import Airlink.Screening

/-!
# Packets with their checks

What the screening reads of a packet. The two tests for packets that may take over an address read
at fixed places behind a comparison of the length; the reader of direct-link frames compares once
for its header and once for the fixed fields of the action; and the walk over the elements
(`elements`) compares at each element for its two octets and for its body. An element starts behind
the body of the one before, so that the walk ends.
-/

namespace Airlink.Checked

open Screening (Verdict arpSize ipv6Size icmpv6 neighborAdvert solicited)

/-- Whether the octet at a place passes a test. -/
def test (data : Bytes) (place : Nat) (p : UInt8 → Bool) : Run Bool := do
  return p (← octet data place)

theorem test_eq {data : Bytes} {place : Nat} (h : place < data.length) (p : UInt8 → Bool) :
    test data place p = .ok (p (data.byteAt place)) := by
  rw [test, octet_eq h]
  rfl

/-! ## Packets that may take over an address -/

/-- A request or reply of address resolution whose sender and target addresses are equal. -/
def isGratuitousArp (packet : Bytes) : Run Bool :=
  if packet.length < arpSize then return false
  else do
    let operation ← be16 packet 6
    if operation ≠ 1 ∧ operation ≠ 2 then return false
    else return (← span packet 14 18) == (← span packet 24 28)

/-- A neighbour advertisement whose solicited flag is clear. -/
def isUnsolicitedAdvert (packet : Bytes) : Run Bool :=
  pure (decide (ipv6Size + 4 < packet.length))
  <&&> test packet 6 (· == icmpv6)
  <&&> test packet ipv6Size (· == neighborAdvert)
  <&&> test packet (ipv6Size + 4) (· &&& solicited == 0)

@[simp] theorem isGratuitousArp_eq (packet : Bytes) :
    isGratuitousArp packet = .ok (Screening.isGratuitousArp packet) := by
  unfold isGratuitousArp Screening.isGratuitousArp
  by_cases short : packet.length < arpSize
  · rw [if_pos short, decide_eq_false (Nat.not_le.2 short)]
    rfl
  · have fits : 28 ≤ packet.length := Nat.not_lt.1 short
    rw [if_neg short, decide_eq_true (Nat.not_lt.1 short), be16_eq (by omega), ok_bind,
      span_eq (by decide) (by omega), ok_bind, span_eq (by decide) fits, ok_bind, pure_eq_ok]
    by_cases first : packet.be16At 6 = 1
    · simp [first]
    · by_cases second : packet.be16At 6 = 2 <;> simp [first, second]

@[simp] theorem isUnsolicitedAdvert_eq (packet : Bytes) :
    isUnsolicitedAdvert packet = .ok (Screening.isUnsolicitedAdvert packet) := by
  unfold isUnsolicitedAdvert Screening.isUnsolicitedAdvert
  rw [Bool.and_assoc, Bool.and_assoc, pure_eq_ok]
  refine and_eq fun long => ?_
  have fits : ipv6Size + 4 < packet.length := of_decide_eq_true long
  have six : 6 < packet.length := Nat.lt_trans (by decide) fits
  rw [test_eq six, test_eq (by omega), test_eq fits]
  exact and_eq fun _ => and_eq fun _ => rfl

/-! ## Direct-link frames -/

/-- What a sequence of elements adds to what is announced so far. -/
def elements (caps : Capabilities) (data : Bytes) : Run Capabilities :=
  if data.length < 2 then return caps
  else do
    let id ← octet data 0
    let length ← octet data 1
    match data.slice? 2 length.toNat with
    | none => return caps
    | some body =>
      match _h : behind data (2 + length.toNat) with
      | .error fault => throw fault
      | .ok rest => elements (caps.union (Element.mk id body).capabilities) rest
termination_by data.length
decreasing_by
  have := length_behind _h
  omega

/-- Whether a packet is no direct-link frame. -/
def isForeign (packet : Bytes) : Run Bool :=
  pure (decide (packet.length < Tdls.headerSize))
  <||> test packet 0 (· != Tdls.payloadType)
  <||> test packet 1 (· != Tdls.category)

/-- The status with which the fixed fields of an action start, if they do. -/
def status (action : TdlsAction) (fixed : Bytes) : Run UInt16 :=
  if action.hasStatus then le16 fixed 0 else return 0

/-- Reads the action frame that a packet is. -/
def tdls? (packet : Bytes) : Run (Option Tdls) := do
  if ← isForeign packet then return none
  else
    match TdlsAction.ofCode? (← octet packet 2) with
    | none => return none
    | some action =>
      match packet.slice? Tdls.headerSize action.fixedSize with
      | none => return none
      | some fixed => do
        let status ← status action fixed
        if action = .teardown ∨ status ≠ 0 then
          return some { action, status, capabilities := .none }
        else do
          let caps ← elements .legacy (← behind packet (Tdls.headerSize + action.fixedSize))
          return some { action, status, capabilities := caps.union .directLink }

/-- The walk stops at an element that is cut short and goes on behind one that is not. -/
theorem elements_cons (caps : Capabilities) (id length : UInt8) (rest : Bytes) :
    elements caps (id :: length :: rest) =
      if rest.length < length.toNat then .ok caps
      else elements (caps.union (Element.mk id (rest.take length.toNat)).capabilities)
        (rest.drop length.toNat) := by
  have two : (id :: length :: rest).length = rest.length + 2 := rfl
  have tail : (id :: length :: rest).drop (2 + length.toNat) = rest.drop length.toNat := by
    rw [← List.drop_drop]
    rfl
  rw [elements, if_neg (by omega), octet_eq (by omega), ok_bind, octet_eq (by omega), ok_bind,
    show Bytes.byteAt (id :: length :: rest) 1 = length from rfl, Bytes.slice?]
  by_cases short : rest.length < length.toNat
  · rw [if_pos short, if_neg (by omega)]
    rfl
  · rw [if_neg short, if_pos (by omega)]
    simp only
    split
    · next fault stops =>
      rw [behind_eq (by omega)] at stops
      cases stops
    · next after stops =>
      rw [behind_eq (by omega), tail] at stops
      cases stops
      rfl

theorem elements_eq (data : Bytes) (caps : Capabilities) :
    elements caps data =
      .ok ((Element.cut data).foldl (fun caps e => caps.union e.capabilities) caps) := by
  induction data using Element.cut.induct generalizing caps with
  | case1 id length rest short =>
    rw [elements_cons, if_pos short, Element.cut, if_pos short]
    rfl
  | case2 id length rest long ih =>
    rw [elements_cons, if_neg long, ih, Element.cut, if_neg long, List.foldl_cons]
  | case3 data other =>
    have short : data.length < 2 := by
      match data with
      | [] | [_] => simp
      | id :: length :: rest => exact (other id length rest rfl).elim
    rw [elements, if_pos short, Element.cut]
    · rfl
    · exact other

theorem isForeign_eq (packet : Bytes) :
    isForeign packet = .ok (decide (packet.length < Tdls.headerSize)
      || (packet.byteAt 0 != Tdls.payloadType || packet.byteAt 1 != Tdls.category)) := by
  rw [isForeign, pure_eq_ok]
  refine or_eq fun long => ?_
  have fits : 3 ≤ packet.length := Nat.not_lt.1 (of_decide_eq_false long)
  rw [test_eq (by omega), test_eq (by omega)]
  exact or_eq fun _ => rfl

/-- An action that has a status has room for it. -/
theorem two_le_fixedSize {action : TdlsAction} (h : action.hasStatus = true) :
    2 ≤ action.fixedSize := by
  revert h
  cases action <;> decide

theorem status_eq {packet : Bytes} {action : TdlsAction}
    (fits : Tdls.headerSize + action.fixedSize ≤ packet.length) :
    status action (packet.slice Tdls.headerSize action.fixedSize) =
      .ok (if action.hasStatus then packet.le16At Tdls.headerSize else 0) := by
  unfold status
  split
  · next has =>
    have two := two_le_fixedSize has
    rw [le16_eq (by rw [Bytes.length_slice_of_le fits]; omega), Bytes.le16At,
      Bytes.slice_slice (by omega)]
    rfl
  · rfl

@[simp] theorem tdls?_eq (packet : Bytes) : tdls? packet = .ok (Tdls.parse? packet) := by
  unfold tdls? Tdls.parse?
  rw [isForeign_eq, ok_bind]
  simp only [Bool.or_eq_true, decide_eq_true_eq, bne_iff_ne]
  by_cases foreign : packet.length < Tdls.headerSize ∨ packet.byteAt 0 ≠ Tdls.payloadType ∨
      packet.byteAt 1 ≠ Tdls.category
  · rw [if_pos foreign, if_pos foreign]
    rfl
  have fits : 3 ≤ packet.length := Nat.not_lt.1 fun short => foreign (.inl short)
  rw [if_neg foreign, if_neg foreign, octet_eq (by omega), ok_bind]
  cases TdlsAction.ofCode? (packet.byteAt 2) with
  | none => rfl
  | some action =>
    simp only [Option.bind_some, Bytes.slice?]
    by_cases room : Tdls.headerSize + action.fixedSize ≤ packet.length
    · rw [if_pos room, if_neg (Nat.not_lt.2 room)]
      simp only [status_eq room, behind_eq room, elements_eq, ok_bind]
      by_cases silent : action = .teardown ∨
          (if action.hasStatus then packet.le16At Tdls.headerSize else 0) ≠ 0
      · rw [if_pos silent, if_pos silent]
        rfl
      · rw [if_neg silent, if_neg silent]
        rfl
    · rw [if_neg room, if_pos (Nat.not_le.1 room)]
      rfl

/-! ## The verdict -/

/-- Looks at a packet. -/
def inspect (etherType : UInt16) (packet : Bytes) (filter : Bool) : Run Verdict := do
  let takesOver ← pure (etherType == EtherType.arp && filter) <&&> isGratuitousArp packet
  if takesOver then return .drop .gratuitousArp
  else
    let unasked ← pure (etherType == EtherType.ipv6 && filter) <&&> isUnsolicitedAdvert packet
    if unasked then return .drop .unsolicitedNeighborAdvert
    else if etherType = EtherType.dot11Encap then
      return (← tdls? packet).elim .pass .tdls
    else return .pass

@[simp] theorem inspect_eq (etherType : UInt16) (packet : Bytes) (filter : Bool) :
    inspect etherType packet filter = .ok (Screening.inspect etherType packet filter) := by
  unfold inspect Screening.inspect
  simp only [isGratuitousArp_eq, isUnsolicitedAdvert_eq, tdls?_eq, pure_eq_ok, and_ok, ok_bind,
    Bool.and_eq_true, beq_iff_eq, and_assoc]
  split
  · rfl
  · split
    · rfl
    · split <;> rfl

end Airlink.Checked
