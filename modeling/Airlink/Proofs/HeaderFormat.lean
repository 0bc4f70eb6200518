import Airlink.Ieee80211.Header
import Airlink.Proofs.HwAddr
import Mathlib.Data.Nat.Bitwise

/-!
# The format of 802.11 headers

The first word of a frame says which optional fields its header has, and so where each of them
stands and where the header ends (`Header.addressesEnd`, `Header.qosEnd`, `Header.formatEnd`).
Reading accepts every frame that holds all these octets and is no control frame, and gives the
fields at their places (`Header.laidOut`); `Header.parse_eq` has the refusals too, with what each
one says.

A header that was read depends on its own octets only: it is read from every frame that starts with
them, and from no frame that ends before the last of them (`Header.parse_format`).
-/

namespace Airlink.Ieee80211

/-! ## Bits of the first word -/

/-- Masking a single bit leaves something just if the bit is set. -/
theorem and_two_pow_bne_zero (n i : Nat) : (n &&& 2 ^ i != 0) = n.testBit i := by
  rw [Nat.and_two_pow]
  cases n.testBit i <;> simp

namespace FrameControl

/-- A bit of a word is set just if masking it leaves something. -/
theorem and_bne_zero (word : UInt16) {mask : UInt16} {i : Nat} (single : mask.toNat = 2 ^ i) :
    (word &&& mask != 0) = word.toNat.testBit i := by
  rw [← and_two_pow_bne_zero, ← single, ← UInt16.toNat_and, Bool.eq_iff_iff]
  simp [← UInt16.toNat_inj]

variable (fc : FrameControl)

theorem toDs_eq : fc.toDs = fc.value.toNat.testBit 8 := and_bne_zero _ rfl

theorem fromDs_eq : fc.fromDs = fc.value.toNat.testBit 9 := and_bne_zero _ rfl

theorem hasOrder_eq : fc.hasOrder = fc.value.toNat.testBit 15 := and_bne_zero _ rfl

/-- A shifted word cut down to its lowest bits. -/
theorem toNat_shiftRight_and (word places mask : UInt16) {i w : Nat}
    (shift : places.toNat % 16 = i) (low : mask.toNat = 2 ^ w - 1) :
    ((word >>> places) &&& mask).toNat = word.toNat / 2 ^ i % 2 ^ w := by
  rw [UInt16.toNat_and, UInt16.toNat_shiftRight, shift, low, Nat.and_two_pow_sub_one_eq_mod,
    Nat.shiftRight_eq_div_pow]

/-- The type is named by the third and the fourth bit. -/
theorem bits_type : fc.type.bits.toNat = fc.value.toNat / 2 ^ 2 % 2 ^ 2 := by
  have code : ((fc.value >>> 2) &&& 0x3).toUInt8 =
      UInt8.ofNat (fc.value.toNat / 2 ^ 2 % 2 ^ 2) := by
    rw [← toNat_shiftRight_and fc.value 2 3 (i := 2) (w := 2) rfl rfl]
    rfl
  have named : ∀ n < 2 ^ 2, (FrameType.ofBits (UInt8.ofNat n)).bits.toNat = n := by decide
  rw [type, code, named _ (Nat.mod_lt _ (by decide))]

/-- The highest bit of the subtype is the eighth of the word. -/
theorem subtype_and_bne_zero : (fc.subtype &&& 0x8 != 0) = fc.value.toNat.testBit 7 := by
  have subtype : fc.subtype.toNat = fc.value.toNat / 2 ^ 4 % 2 ^ 4 := by
    rw [FrameControl.subtype, UInt16.toNat_toUInt8,
      toNat_shiftRight_and fc.value 4 0xf (i := 4) (w := 4) rfl rfl]
    exact Nat.mod_eq_of_lt (by omega)
  have bit : fc.value.toNat.testBit 7 = fc.subtype.toNat.testBit 3 := by
    rw [subtype, Nat.testBit_mod_two_pow, Nat.testBit_div_two_pow]
    rfl
  rw [bit, ← and_two_pow_bne_zero, show 2 ^ 3 = (0x8 : UInt8).toNat from rfl, ← UInt8.toNat_and,
    Bool.eq_iff_iff]
  simp [← UInt8.toNat_inj]

end FrameControl

namespace Header

/-! ## The layout -/

/-- The number that the first word names a frame type by. -/
def typeCode (word : UInt16) : Nat := word.toNat / 2 ^ 2 % 2 ^ 2

/-- A fourth address is announced by both distribution-system bits. -/
def announcesAddr4 (word : UInt16) : Bool := word.toNat.testBit 8 && word.toNat.testBit 9

/-- A QoS control field is announced by the highest bit of the subtype of a data frame. -/
def announcesQos (word : UInt16) : Bool := typeCode word == 2 && word.toNat.testBit 7

/-- An HT control field is announced by the order bit of a QoS data or a management frame. -/
def announcesHt (word : UInt16) : Bool :=
  word.toNat.testBit 15 && (announcesQos word || typeCode word == 0)

/-- Where the addresses and sequence control end. -/
def addressesEnd (word : UInt16) : Nat := 24 + if announcesAddr4 word then 6 else 0

/-- Where the QoS control field ends, if there is one. -/
def qosEnd (word : UInt16) : Nat := addressesEnd word + if announcesQos word then 2 else 0

/-- Where the header ends. -/
def formatEnd (word : UInt16) : Nat := qosEnd word + if announcesHt word then 4 else 0

/-- The end of the first optional field that a frame of `length` octets does not hold. -/
def missingEnd (word : UInt16) (length : Nat) : Nat :=
  if length < addressesEnd word then addressesEnd word
  else if length < qosEnd word then qosEnd word
  else formatEnd word

/-- The header at the start of a frame, with every field read at its place. -/
def laidOut (data : Bytes) : Header :=
  let word := data.le16At 0
  { frameControl := ⟨word⟩
    duration := data.le16At 2
    addr1 := HwAddr.ofSlice data 4
    addr2 := HwAddr.ofSlice data 10
    addr3 := HwAddr.ofSlice data 16
    addr4 := if announcesAddr4 word then some (HwAddr.ofSlice data 24) else none
    seqCtrl := data.le16At 22
    qosCtrl := if announcesQos word then some (data.le16At (addressesEnd word)) else none
    htCtrl := if announcesHt word then some (data.le32At (qosEnd word)) else none
    size := formatEnd word }

/-- The ends of the fields follow one another. -/
theorem ends_le (word : UInt16) :
    baseHeaderSize ≤ addressesEnd word ∧ addressesEnd word ≤ qosEnd word ∧
      qosEnd word ≤ formatEnd word :=
  ⟨Nat.le_add_right _ _, Nat.le_add_right _ _, Nat.le_add_right _ _⟩

theorem type_eq_control_iff (word : UInt16) :
    (FrameControl.mk word).type = .control ↔ typeCode word = 1 := by
  rw [typeCode, ← FrameControl.bits_type ⟨word⟩]
  cases (FrameControl.mk word).type <;> decide

theorem announcesAddr4_eq (word : UInt16) :
    ((FrameControl.mk word).toDs && (FrameControl.mk word).fromDs) = announcesAddr4 word := by
  rw [FrameControl.toDs_eq, FrameControl.fromDs_eq, announcesAddr4]

theorem isQosData_eq (word : UInt16) :
    (FrameControl.mk word).isQosData = announcesQos word := by
  rw [FrameControl.isQosData, FrameControl.subtype_and_bne_zero, announcesQos, typeCode,
    ← FrameControl.bits_type ⟨word⟩]
  cases (FrameControl.mk word).type <;> rfl

theorem hasHtControl_eq (word : UInt16) :
    (FrameControl.mk word).hasHtControl = announcesHt word := by
  rw [FrameControl.hasHtControl, FrameControl.hasOrder_eq, isQosData_eq, announcesHt, typeCode,
    ← FrameControl.bits_type ⟨word⟩]
  cases (FrameControl.mk word).type <;> rfl

/-! ## Reading -/

theorem require_eq_error {data : Bytes} {size : Nat} (short : data.length < size) :
    require data size = .error (.truncated "802.11 header" size data.length) := if_pos short

theorem require_eq_ok {data : Bytes} {size : Nat} (fits : size ≤ data.length) :
    require data size = .ok () := if_neg (Nat.not_lt.2 fits)

theorem le_of_require {data : Bytes} {size : Nat} (h : require data size = .ok ()) :
    size ≤ data.length := by
  by_contra short
  rw [require_eq_error (Nat.not_le.1 short)] at h
  cases h

/-- An optional field is read where the frame holds it, and is missing otherwise. -/
theorem optionalField_eq (announced : Bool) {data : Bytes} {size width : Nat} (read : Nat → α)
    (next : Nat) (fits : size ≤ data.length)
    (ends : next = size + if announced then width else 0) :
    optionalField announced data size width read =
      if data.length < next then .error (.truncated "802.11 header" next data.length)
      else .ok (if announced then some (read size) else none, next) := by
  cases announced with
  | false =>
    have ends : next = size := ends
    rw [ends, if_neg (Nat.not_lt.2 fits)]
    rfl
  | true =>
    have ends : next = size + width := ends
    rw [ends]
    split
    · next short => simp only [optionalField, if_true, require_eq_error short]; rfl
    · next whole => simp only [optionalField, if_true, require_eq_ok (Nat.not_lt.1 whole)]; rfl

/-- Reading a header is refused for want of the first octets, for the type of the frame, or for want
of an optional field, and otherwise gives the fields at their places. -/
theorem parse_eq (data : Bytes) :
    parse data =
      if data.length < 24 then .error (.truncated "802.11 header" 24 data.length)
      else if typeCode (data.le16At 0) = 1 then
        .error (.invalidHeader "control frames carry no addressable body")
      else if data.length < formatEnd (data.le16At 0) then
        .error (.truncated "802.11 header" (missingEnd (data.le16At 0) data.length) data.length)
      else .ok (laidOut data) := by
  obtain ⟨base, second, third⟩ := ends_le (data.le16At 0)
  unfold parse
  by_cases short : data.length < baseHeaderSize
  · rw [require_eq_error short]
    exact (if_pos short).symm
  have whole : baseHeaderSize ≤ data.length := Nat.not_lt.1 short
  rw [require_eq_ok whole, if_neg (show ¬ data.length < 24 from short)]
  by_cases isControl : typeCode (data.le16At 0) = 1
  · rw [if_pos isControl]
    simp only [bind, Except.bind, type_eq_control_iff, isControl, if_true]
    rfl
  rw [if_neg isControl]
  simp only [bind, Except.bind, type_eq_control_iff, isControl, if_false, announcesAddr4_eq,
    isQosData_eq, hasHtControl_eq]
  rw [optionalField_eq _ _ (addressesEnd (data.le16At 0)) whole rfl]
  by_cases noAddr4 : data.length < addressesEnd (data.le16At 0)
  · have short : data.length < formatEnd (data.le16At 0) := by omega
    rw [if_pos noAddr4, if_pos short, missingEnd, if_pos noAddr4]
  rw [if_neg noAddr4]
  dsimp only
  rw [optionalField_eq _ _ (qosEnd (data.le16At 0)) (Nat.not_lt.1 noAddr4) rfl]
  by_cases noQos : data.length < qosEnd (data.le16At 0)
  · have short : data.length < formatEnd (data.le16At 0) := by omega
    rw [if_pos noQos, if_pos short, missingEnd, if_neg noAddr4, if_pos noQos]
  rw [if_neg noQos]
  dsimp only
  rw [optionalField_eq _ _ (formatEnd (data.le16At 0)) (Nat.not_lt.1 noQos) rfl]
  by_cases noHt : data.length < formatEnd (data.le16At 0)
  · rw [if_pos noHt, if_pos noHt, missingEnd, if_neg noAddr4, if_neg noQos]
  rw [if_neg noHt, if_neg noHt]
  rfl

/-! ## What a header depends on -/

/-- A header is read just if the frame holds it and is no control frame. -/
theorem parse_eq_ok_iff {data : Bytes} {h : Header} :
    parse data = .ok h ↔
      formatEnd (data.le16At 0) ≤ data.length ∧ typeCode (data.le16At 0) ≠ 1 ∧
        laidOut data = h := by
  obtain ⟨base, second, third⟩ := ends_le (data.le16At 0)
  have start : 24 ≤ formatEnd (data.le16At 0) := base.trans (second.trans third)
  rw [parse_eq]
  split
  · simp only [reduceCtorEq, false_iff]
    omega
  split
  · next isControl => simp [isControl]
  split
  · simp only [reduceCtorEq, false_iff]
    omega
  · next otherType whole => simp [otherType, Nat.not_lt.1 whole]

theorem addressesEnd_eq {word : UInt16} (announced : announcesAddr4 word = true) :
    addressesEnd word = 24 + 6 := by
  rw [addressesEnd, if_pos announced]

theorem qosEnd_eq {word : UInt16} (announced : announcesQos word = true) :
    qosEnd word = addressesEnd word + 2 := by
  rw [qosEnd, if_pos announced]

theorem formatEnd_eq {word : UInt16} (announced : announcesHt word = true) :
    formatEnd word = qosEnd word + 4 := by
  rw [formatEnd, if_pos announced]

/-- No octet behind the end of a header has a part in it. -/
theorem laidOut_take {data : Bytes} {n : Nat} (fits : formatEnd (data.le16At 0) ≤ n) :
    laidOut (data.take n) = laidOut data := by
  obtain ⟨base, second, third⟩ := ends_le (data.le16At 0)
  have start : 24 ≤ n := base.trans (second.trans (third.trans fits))
  have word : Bytes.le16At (data.take n) 0 = data.le16At 0 := Bytes.le16At_take (by omega)
  have addr4 (announced : announcesAddr4 (data.le16At 0) = true) :
      HwAddr.ofSlice (data.take n) 24 = HwAddr.ofSlice data 24 :=
    HwAddr.ofSlice_take (by rw [← addressesEnd_eq announced]; omega)
  have qos (announced : announcesQos (data.le16At 0) = true) :
      Bytes.le16At (data.take n) (addressesEnd (data.le16At 0)) =
        data.le16At (addressesEnd (data.le16At 0)) :=
    Bytes.le16At_take (by rw [← qosEnd_eq announced]; omega)
  have ht (announced : announcesHt (data.le16At 0) = true) :
      Bytes.le32At (data.take n) (qosEnd (data.le16At 0)) =
        data.le32At (qosEnd (data.le16At 0)) :=
    Bytes.le32At_take (by rw [← formatEnd_eq announced]; exact fits)
  unfold laidOut
  simp (disch := omega) only [word, Bytes.le16At_take, HwAddr.ofSlice_take]
  congr 1
  · exact ite_congr rfl (fun announced => by rw [addr4 announced]) fun _ => rfl
  · exact ite_congr rfl (fun announced => by rw [qos announced]) fun _ => rfl
  · exact ite_congr rfl (fun announced => by rw [ht announced]) fun _ => rfl

/-- A frame that starts with the octets of a header has that header. -/
theorem parse_of_take_eq {data other : Bytes} {h : Header} (parsed : parse data = .ok h)
    (agree : other.take h.size = data.take h.size) : parse other = .ok h := by
  obtain ⟨whole, otherType, rfl⟩ := parse_eq_ok_iff.1 parsed
  have agree : other.take (formatEnd (data.le16At 0)) = data.take (formatEnd (data.le16At 0)) :=
    agree
  obtain ⟨base, second, third⟩ := ends_le (data.le16At 0)
  have start : 24 ≤ formatEnd (data.le16At 0) := base.trans (second.trans third)
  have word : other.le16At 0 = data.le16At 0 := by
    rw [← Bytes.le16At_take (n := formatEnd (data.le16At 0)) (by omega), agree,
      Bytes.le16At_take (by omega)]
  have holds : formatEnd (data.le16At 0) ≤ other.length := by
    have lengths := congrArg List.length agree
    rw [List.length_take, List.length_take, Nat.min_eq_left whole] at lengths
    omega
  refine parse_eq_ok_iff.2 ⟨word ▸ holds, word ▸ otherType, ?_⟩
  calc laidOut other
      = laidOut (other.take (formatEnd (data.le16At 0))) := (laidOut_take (by rw [word])).symm
    _ = laidOut (data.take (formatEnd (data.le16At 0))) := by rw [agree]
    _ = laidOut data := laidOut_take (Nat.le_refl _)

/-- A frame that ends inside of its header has none. -/
theorem parse_take_of_lt {data : Bytes} {h : Header} (parsed : parse data = .ok h) {n : Nat}
    (short : n < h.size) :
    ∃ need, parse (data.take n) = .error (.truncated "802.11 header" need n) := by
  obtain ⟨whole, otherType, rfl⟩ := parse_eq_ok_iff.1 parsed
  have short : n < formatEnd (data.le16At 0) := short
  have length : (data.take n).length = n := List.length_take_of_le (by omega)
  rw [parse_eq, length]
  by_cases start : n < 24
  · exact ⟨24, if_pos start⟩
  have word : Bytes.le16At (data.take n) 0 = data.le16At 0 := Bytes.le16At_take (by omega)
  rw [word, if_neg start, if_neg otherType, if_pos short]
  exact ⟨_, rfl⟩

/-- Headers are read by their format. A frame of fewer than 24 octets is refused, a control frame
next, and then a frame that ends before the fields its first word announces; of any other frame
every field is read at its place. What is behind the header has no part in this: frames that agree
on its octets have the same header, whatever follows, and a frame cut off inside of it has none. -/
theorem parse_format (data : Bytes) :
    (parse data =
      if data.length < 24 then .error (.truncated "802.11 header" 24 data.length)
      else if typeCode (data.le16At 0) = 1 then
        .error (.invalidHeader "control frames carry no addressable body")
      else if data.length < formatEnd (data.le16At 0) then
        .error (.truncated "802.11 header" (missingEnd (data.le16At 0) data.length) data.length)
      else .ok (laidOut data)) ∧
    ∀ h, parse data = .ok h →
      (∀ other, other.take h.size = data.take h.size → parse other = .ok h) ∧
      (∀ rest, parse (data ++ rest) = .ok h) ∧
      ∀ n < h.size, ∃ need, parse (data.take n) = .error (.truncated "802.11 header" need n) := by
  refine ⟨parse_eq data, fun h parsed => ⟨fun other => parse_of_take_eq parsed, fun rest => ?_,
    fun n => parse_take_of_lt parsed⟩⟩
  obtain ⟨whole, -, rfl⟩ := parse_eq_ok_iff.1 parsed
  exact parse_of_take_eq parsed (List.take_append_of_le_length whole)

/-- The header of a QoS data frame with every optional field. -/
def everyField : Bytes :=
  [0x88, 0x83, 0x2c, 0x00, 0x02, 0x00, 0x00, 0x00, 0x00, 0x01, 0x02, 0x00, 0x00, 0x00, 0x00, 0x02,
    0x02, 0x00, 0x00, 0x00, 0x00, 0x03, 0x10, 0x00, 0x02, 0x00, 0x00, 0x00, 0x00, 0x04, 0x05, 0x00,
    0x78, 0x56, 0x34, 0x12]

/-- It is read in front of a body, but not without its last octet. -/
theorem parse_format_everyField :
    parse everyField = .ok (laidOut everyField) ∧ (laidOut everyField).size = 36 ∧
      (laidOut everyField).qosCtrl = some 5 ∧ (laidOut everyField).htCtrl = some 0x12345678 ∧
      parse (everyField ++ [0xaa, 0xaa]) = .ok (laidOut everyField) ∧
      ∃ need, parse (everyField.take 35) = .error (.truncated "802.11 header" need 35) := by
  have parsed : parse everyField = .ok (laidOut everyField) := by decide
  obtain ⟨-, rests, prefixes⟩ := (parse_format everyField).2 _ parsed
  exact ⟨parsed, by decide, by decide, by decide, rests _, prefixes 35 (by decide)⟩

end Header
end Airlink.Ieee80211
