import Airlink.HwAddr
import Airlink.Proofs.Bytes

/-!
# Accesses with their checks

A program that asks for an octet behind the end of its data, for a stretch that is not there, or for
the difference of a number and a larger one stops with a `Fault`. The functions of the data path are
total: they read zeros behind the end, shorten stretches and stop differences at zero. To show that
none of this ever matters, the computations here make every access with its check (`Run`), and the
functions of the receive path are written once more in terms of them; each gives the value of the
function it repeats, and so no check ever fails.

This module has the accesses themselves. For each there is a lemma that says when it gives a result
and which (`octet_eq_ok_iff`, `span_eq_ok_iff`, `minus_eq_ok_iff`, `put_eq_ok_iff`): where the
condition fails there is a fault. Under the condition the result is that of the total function.
-/

namespace Airlink

namespace Bytes

/-- A stretch up to the end. -/
theorem slice_length_sub (data : Bytes) (k : Nat) : data.slice k (data.length - k) = data.drop k :=
  List.take_of_length_le (Nat.le_of_eq List.length_drop)

end Bytes

namespace Checked

/-- An access that stops a program. -/
inductive Fault where
  /-- An octet at or behind the end. -/
  | index (length place : Nat)
  /-- A stretch that ends behind the end, or before its own start. -/
  | stretch (length start stop : Nat)
  /-- The difference of a number and a larger one. -/
  | underflow (a b : Nat)
  /-- Octets copied over a stretch of another length. -/
  | mismatch (length copied : Nat)
  deriving DecidableEq, Repr

/-- A computation that checks its accesses. -/
abbrev Run := Except Fault

variable {α β : Type}

@[simp] theorem ok_bind (a : α) (f : α → Run β) : ((Except.ok a : Run α) >>= f) = f a := rfl

@[simp] theorem pure_eq_ok (a : α) : (pure a : Run α) = .ok a := rfl

/-- The second of two conditions is computed if the first holds, and may rely on it. -/
theorem and_eq {p q : Bool} {x : Run Bool} (h : p = true → x = .ok q) :
    ((.ok p : Run Bool) <&&> x) = .ok (p && q) := by
  cases p with
  | true => exact h rfl
  | false => rfl

@[simp] theorem and_ok (p q : Bool) : ((.ok p : Run Bool) <&&> .ok q) = .ok (p && q) :=
  and_eq fun _ => rfl

/-- The second of two conditions is computed if the first fails, and may rely on it. -/
theorem or_eq {p q : Bool} {x : Run Bool} (h : p = false → x = .ok q) :
    ((.ok p : Run Bool) <||> x) = .ok (p || q) := by
  cases p with
  | true => rfl
  | false => exact h rfl

/-! ## Refusals -/

/-- A computation that checks its accesses and may be refused what it asks for. A refusal is a
result like any other; a fault is not. -/
abbrev Attempt (ε : Type) := ExceptT ε Run

section Attempt

variable {ε : Type}

/-- What is refused or not without an access. -/
def given (x : Except ε α) : Attempt ε α := ExceptT.mk (.ok x)

@[simp] theorem run_given (x : Except ε α) : (given x).run = .ok x := rfl

@[simp] theorem given_ok_bind (a : α) (f : α → Attempt ε β) : (given (.ok a) >>= f) = f a := rfl

/-- An access that succeeds does not stop an attempt. -/
@[simp] theorem lift_ok_bind (a : α) (f : α → Attempt ε β) :
    ((liftM (.ok a : Run α) : Attempt ε α) >>= f) = f a := rfl

/-- Two steps are an attempt without faults if both are. The second one may rely on the first not
having been refused. -/
theorem run_bind {x : Attempt ε α} {y : Except ε α} {f : α → Attempt ε β} {g : α → Except ε β}
    (first : x.run = .ok y) (second : ∀ a, y = .ok a → (f a).run = .ok (g a)) :
    (x >>= f).run = .ok (y >>= g) := by
  rw [ExceptT.run_bind, first, ok_bind]
  cases y with
  | error e => rfl
  | ok a => exact second a rfl

/-- A refusal may be given in other words. -/
theorem run_adapt {ε' : Type} {x : Attempt ε α} {y : Except ε α} (h : x.run = .ok y)
    (f : ε → ε') : (x.adapt f).run = .ok (y.mapError f) := by
  have adapted : (x.adapt f).run = Except.mapError f <$> x.run := rfl
  rw [adapted, h]
  rfl

end Attempt

/-! ## Reading -/

/-- The octet at a place. -/
def octet (data : Bytes) (place : Nat) : Run UInt8 :=
  match data[place]? with
  | some b => .ok b
  | none => .error (.index data.length place)

/-- The octets from one place up to another. -/
def span (data : Bytes) (start stop : Nat) : Run Bytes :=
  if start ≤ stop ∧ stop ≤ data.length then .ok (data.slice start (stop - start))
  else .error (.stretch data.length start stop)

/-- The octets from a place on. -/
def behind (data : Bytes) (start : Nat) : Run Bytes := span data start data.length

/-- The difference of two numbers. -/
def minus (a b : Nat) : Run Nat := if b ≤ a then .ok (a - b) else .error (.underflow a b)

theorem octet_eq_ok_iff {data : Bytes} {place : Nat} {b : UInt8} :
    octet data place = .ok b ↔ place < data.length ∧ data.byteAt place = b := by
  unfold octet Bytes.byteAt
  rw [List.getD_eq_getElem?_getD]
  by_cases h : place < data.length <;> simp [h]

theorem span_eq_ok_iff {data octets : Bytes} {start stop : Nat} :
    span data start stop = .ok octets ↔
      start ≤ stop ∧ stop ≤ data.length ∧ data.slice start (stop - start) = octets := by
  unfold span
  split
  · next h => simp [h]
  · next h => simpa using fun le fits => (h ⟨le, fits⟩).elim

theorem minus_eq_ok_iff {a b d : Nat} : minus a b = .ok d ↔ b ≤ a ∧ a - b = d := by
  unfold minus
  by_cases h : b ≤ a <;> simp [h]

theorem octet_eq {data : Bytes} {place : Nat} (h : place < data.length) :
    octet data place = .ok (data.byteAt place) := octet_eq_ok_iff.2 ⟨h, rfl⟩

theorem span_eq {data : Bytes} {start stop : Nat} (h : start ≤ stop) (fits : stop ≤ data.length) :
    span data start stop = .ok (data.slice start (stop - start)) :=
  span_eq_ok_iff.2 ⟨h, fits, rfl⟩

theorem span_zero_eq {data : Bytes} {stop : Nat} (fits : stop ≤ data.length) :
    span data 0 stop = .ok (data.take stop) := span_eq (Nat.zero_le stop) fits

theorem behind_eq {data : Bytes} {start : Nat} (h : start ≤ data.length) :
    behind data start = .ok (data.drop start) := by
  rw [behind, span_eq h (Nat.le_refl _), Bytes.slice_length_sub]

/-- What stands behind a place is shorter by as much as stands in front. -/
theorem length_behind {data rest : Bytes} {start : Nat} (h : behind data start = .ok rest) :
    start + rest.length = data.length := by
  obtain ⟨le, -, rfl⟩ := span_eq_ok_iff.1 h
  rw [Bytes.slice_length_sub, List.length_drop]
  omega

theorem minus_eq {a b : Nat} (h : b ≤ a) : minus a b = .ok (a - b) := minus_eq_ok_iff.2 ⟨h, rfl⟩

/-! ## Words and addresses -/

/-- The 16-bit word at a place, most significant octet first. -/
def be16 (data : Bytes) (place : Nat) : Run UInt16 := do
  let high ← octet data place
  let low ← octet data (place + 1)
  return UInt16.ofNat (Bytes.beNat [high, low])

/-- The 16-bit word at a place, least significant octet first. -/
def le16 (data : Bytes) (place : Nat) : Run UInt16 := do
  let low ← octet data place
  let high ← octet data (place + 1)
  return UInt16.ofNat (Bytes.leNat [low, high])

/-- The 32-bit word at a place, least significant octet first. -/
def le32 (data : Bytes) (place : Nat) : Run UInt32 := do
  let b0 ← octet data place
  let b1 ← octet data (place + 1)
  let b2 ← octet data (place + 2)
  let b3 ← octet data (place + 3)
  return UInt32.ofNat (Bytes.leNat [b0, b1, b2, b3])

/-- The address that octets are, of which there must be six. -/
def ofOctets (octets : Bytes) : Run HwAddr :=
  match HwAddr.ofBytes? octets with
  | some a => .ok a
  | none => .error (.mismatch HwAddr.size octets.length)

/-- The address at a place. -/
def addr (data : Bytes) (place : Nat) : Run HwAddr := do
  ofOctets (← span data place (place + HwAddr.size))

/-- The address at a place, if the data reaches that far. -/
def addr? (data : Bytes) (place : Nat) : Run (Option HwAddr) :=
  match data.slice? place HwAddr.size with
  | none => return none
  | some octets => return some (← ofOctets octets)

theorem be16_eq {data : Bytes} {place : Nat} (h : place + 2 ≤ data.length) :
    be16 data place = .ok (data.be16At place) := by
  rw [be16, octet_eq (by omega), ok_bind, octet_eq (by omega), ok_bind, Bytes.be16At,
    Bytes.slice_succ (by omega), Bytes.slice_succ (by omega)]
  rfl

theorem le16_eq {data : Bytes} {place : Nat} (h : place + 2 ≤ data.length) :
    le16 data place = .ok (data.le16At place) := by
  rw [le16, octet_eq (by omega), ok_bind, octet_eq (by omega), ok_bind, Bytes.le16At,
    Bytes.slice_succ (by omega), Bytes.slice_succ (by omega)]
  rfl

theorem le32_eq {data : Bytes} {place : Nat} (h : place + 4 ≤ data.length) :
    le32 data place = .ok (data.le32At place) := by
  rw [le32, octet_eq (by omega), ok_bind, octet_eq (by omega), ok_bind, octet_eq (by omega),
    ok_bind, octet_eq (by omega), ok_bind, Bytes.le32At, Bytes.slice_succ (by omega),
    Bytes.slice_succ (by omega), Bytes.slice_succ (by omega), Bytes.slice_succ (by omega)]
  rfl

/-- The six octets of an address. -/
theorem ofOctets_slice {data : Bytes} {place : Nat} (h : place + 6 ≤ data.length) :
    ofOctets (data.slice place HwAddr.size) = .ok (HwAddr.ofSlice data place) := by
  rw [show HwAddr.size = 5 + 1 from rfl, Bytes.slice_succ (by omega), Bytes.slice_succ (by omega),
    Bytes.slice_succ (by omega), Bytes.slice_succ (by omega), Bytes.slice_succ (by omega),
    Bytes.slice_succ (by omega)]
  rfl

theorem addr_eq {data : Bytes} {place : Nat} (h : place + 6 ≤ data.length) :
    addr data place = .ok (HwAddr.ofSlice data place) := by
  have fits : place + HwAddr.size ≤ data.length := h
  rw [addr, span_eq (Nat.le_add_right _ _) fits, ok_bind, Nat.add_sub_cancel_left, ofOctets_slice h]

theorem addr?_eq_some {data : Bytes} {place : Nat} (h : place + 6 ≤ data.length) :
    addr? data place = .ok (some (HwAddr.ofSlice data place)) := by
  have fits : place + HwAddr.size ≤ data.length := h
  rw [addr?, Bytes.slice?, if_pos fits]
  simp only
  rw [ofOctets_slice h]
  rfl

@[simp] theorem addr?_eq (data : Bytes) (place : Nat) :
    addr? data place = .ok (HwAddr.at? data place) := by
  by_cases fits : place + HwAddr.size ≤ data.length
  · have whole := ofOctets_slice fits
    rw [addr?_eq_some fits, HwAddr.at?, Bytes.slice?, if_pos fits, Option.bind_some]
    unfold ofOctets at whole
    split at whole
    · next found =>
      cases whole
      rw [found]
    · cases whole
  · rw [addr?, HwAddr.at?, Bytes.slice?, if_neg fits]
    rfl

/-! ## Writing -/

/-- The data with octets copied over those from one place up to another. -/
def put (data : Bytes) (start stop : Nat) (octets : Bytes) : Run Bytes :=
  if start ≤ stop ∧ stop ≤ data.length then
    if octets.length = stop - start then .ok (data.take start ++ octets ++ data.drop stop)
    else .error (.mismatch (stop - start) octets.length)
  else .error (.stretch data.length start stop)

theorem put_eq_ok_iff {data octets result : Bytes} {start stop : Nat} :
    put data start stop octets = .ok result ↔
      start + octets.length = stop ∧ stop ≤ data.length ∧
        data.take start ++ octets ++ data.drop stop = result := by
  unfold put
  by_cases fits : start ≤ stop ∧ stop ≤ data.length
  · rw [if_pos fits]
    by_cases same : octets.length = stop - start
    · have sum : start + octets.length = stop := by omega
      rw [if_pos same]
      simp [sum, fits.2]
    · have sum : start + octets.length ≠ stop := by omega
      rw [if_neg same]
      simp [sum]
  · rw [if_neg fits]
    simpa using fun sum le => (fits ⟨by omega, le⟩).elim

theorem put_eq {data octets : Bytes} {start stop : Nat} (same : start + octets.length = stop)
    (fits : stop ≤ data.length) :
    put data start stop octets = .ok (data.overwrite start octets) := by
  refine put_eq_ok_iff.2 ⟨same, fits, ?_⟩
  rw [Bytes.overwrite, List.take_of_length_le (l := octets) (by omega), same]

/-- What is written over the middle of three pieces stands between the others. -/
theorem put_append {front middle back octets : Bytes} (same : octets.length = middle.length) :
    put (front ++ middle ++ back) front.length (front.length + middle.length) octets =
      .ok (front ++ octets ++ back) := by
  have whole : (front ++ middle).length = front.length + middle.length := List.length_append
  refine put_eq_ok_iff.2 ⟨by rw [same], by rw [List.length_append, whole]; omega, ?_⟩
  rw [List.append_assoc front middle, List.take_left' rfl, ← List.append_assoc,
    List.drop_left' whole]

end Checked

end Airlink
