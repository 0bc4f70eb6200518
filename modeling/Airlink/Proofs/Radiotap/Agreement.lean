import Airlink.Proofs.Radiotap.Fields

/-!
# Radiotap headers written and read

Writing goes by the fields that a header has and reading by the presence word, so the two agree on
the headers whose presence word says which fields are there (`Consistent`). Every header that is
read or that describes a reception is consistent. A consistent header is read back from its octets
and whatever follows (`parse_encode`); reading looks at no octet behind the length that it gives
(`parse_of_take_eq`). Together they are `encode_parse_agree`.
-/

namespace Airlink

open Bytes

namespace Radiotap

/-! ## Consistent headers -/

/-- The presence word of a header has a bit. -/
def announces (h : Radiotap) (bit : UInt32) : Bool := h.present &&& bit != 0

/-- A header whose presence word announces the fields that it has and no further presence word. Its
other bits are arbitrary. The two words of the channel are there together. -/
structure Consistent (h : Radiotap) : Prop where
  extension : h.announces extensionBit = false
  timestamp : h.announces timestampBit = h.timestamp.isSome
  flags : h.announces flagsBit = h.flags.isSome
  rate : h.announces rateBit = h.rate.isSome
  channelFreq : h.announces channelBit = h.channelFreq.isSome
  channelFlags : h.announces channelBit = h.channelFlags.isSome
  signal : h.announces signalBit = h.signal.isSome
  noise : h.announces noiseBit = h.noise.isSome
  antenna : h.announces antennaBit = h.antenna.isSome
  mcs : h.announces mcsBit = h.mcs.isSome
  vht : h.announces vhtBit = h.vht.isSome

/-- The presence word that belongs to the fields of a header makes it consistent. -/
theorem consistent_presence (h : Radiotap) (paired : h.channelFlags.isSome = h.channelFreq.isSome) :
    Consistent { h with present := h.presence } := by
  have bits : ∀ timestamp flags rate channel signal noise antenna mcs vht : Bool,
      let bit (b : Bool) (word : UInt32) : UInt32 := if b then word else 0
      let present := bit timestamp timestampBit ||| bit flags flagsBit ||| bit rate rateBit
        ||| bit channel channelBit ||| bit signal signalBit ||| bit noise noiseBit
        ||| bit antenna antennaBit ||| bit mcs mcsBit ||| bit vht vhtBit
      (present &&& extensionBit != 0) = false ∧ (present &&& timestampBit != 0) = timestamp ∧
        (present &&& flagsBit != 0) = flags ∧ (present &&& rateBit != 0) = rate ∧
        (present &&& channelBit != 0) = channel ∧ (present &&& signalBit != 0) = signal ∧
        (present &&& noiseBit != 0) = noise ∧ (present &&& antennaBit != 0) = antenna ∧
        (present &&& mcsBit != 0) = mcs ∧ (present &&& vhtBit != 0) = vht := by
    decide +kernel
  obtain ⟨extension, timestamp, flags, rate, channel, signal, noise, antenna, mcs, vht⟩ :=
    bits h.timestamp.isSome h.flags.isSome h.rate.isSome h.channelFreq.isSome h.signal.isSome
      h.noise.isSome h.antenna.isSome h.mcs.isSome h.vht.isSome
  exact ⟨extension, timestamp, flags, rate, channel, channel.trans paired.symm, signal, noise,
    antenna, mcs, vht⟩

/-- The header of a reception is consistent. -/
theorem consistent_ofReception (r : Reception) : (ofReception r).Consistent := by
  refine consistent_presence _ ?_
  exact Option.isSome_map

/-! ## Reading what was written -/

/-- The fields of a header as they are read: the two words of the channel are read one after the
other. -/
def words (h : Radiotap) : List (Nat × Bytes) :=
  (h.timestamp.map fun v => (8, ofLe64 v)).toList
    ++ ((h.flags.map fun v => (1, [v])).toList
    ++ ((h.rate.map fun v => (1, [v])).toList
    ++ ((h.channelFreq.map fun v => (2, ofLe16 v)).toList
    ++ ((h.channelFlags.map fun v => (2, ofLe16 v)).toList
    ++ ((h.signal.map fun v => (1, [v.toUInt8])).toList
    ++ ((h.noise.map fun v => (1, [v.toUInt8])).toList
    ++ ((h.antenna.map fun v => (1, [v])).toList
    ++ ((h.mcs.map fun v => (1, v.encode)).toList
    ++ ((h.vht.map fun v => (2, v.encode)).toList ++ [])))))))))

/-- A header with a whole channel is laid out as it is read. -/
theorem layOut_words (h : Radiotap) (paired : h.channelFlags.isSome = h.channelFreq.isSome)
    (pos : Nat) : layOut pos h.words = layOut pos h.fields := by
  unfold words fields
  simp only [List.append_assoc, List.append_nil]
  iterate 3 refine layOut_append_congr _ _ fun pos => ?_
  cases freq : h.channelFreq with
  | none =>
    rw [freq] at paired
    have none := Option.isSome_eq_false_iff.1 paired
    rw [Option.isNone_iff_eq_none.1 none]
    rfl
  | some f =>
    rw [freq] at paired
    obtain ⟨g, flags⟩ := Option.isSome_iff_exists.1 paired
    rw [flags]
    refine (layOut_append_left _ pos Nat.two_pos ?_).symm
    rw [length_ofLe16]
    exact (Nat.dvd_add_right (dvd_alignUp pos 2)).2 (Nat.dvd_refl 2)

/-- The reader of a whole header takes all fields of a consistent header. -/
theorem Takes.readFields {header : Bytes} {h : Radiotap} (base : Radiotap) (c : h.Consistent)
    (present : base.present = h.present) :
    Takes header (readFields header base) h.words
      { h with version := base.version, length := base.length, present := base.present } := by
  obtain ⟨-, timestamp, flags, rate, channelFreq, channelFlags, signal, noise, antenna, mcs, vht⟩ :=
    c
  unfold announces at *
  rw [← present] at timestamp flags rate channelFreq channelFlags signal noise antenna mcs vht
  exact (ifPresent _ timestamp (word64 _)).bind <| (ifPresent _ flags (octet _)).bind <|
    (ifPresent _ rate (octet _)).bind <| (ifPresent _ channelFreq (word16 _)).bind <|
    (ifPresent _ channelFlags (word16 _)).bind <| (ifPresent _ signal (signedOctet _)).bind <|
    (ifPresent _ noise (signedOctet _)).bind <| (ifPresent _ antenna (octet _)).bind <|
    (ifPresent _ mcs Takes.mcs).bind <| (ifPresent _ vht Takes.vht).bind <| pure _

/-- The octets of a header are few, so that their number fits its word. -/
theorem room_fields_le (h : Radiotap) : room h.fields ≤ 50 := by
  have timestamp : room (h.timestamp.map fun v => (8, ofLe64 v)).toList ≤ 16 :=
    room_toList_map_le _ fun v => Nat.le_of_eq (congrArg (8 + ·) (length_ofLe64 v))
  have flags : room (h.flags.map fun v => (1, [v])).toList ≤ 2 :=
    room_toList_map_le _ fun _ => Nat.le_refl 2
  have rate : room (h.rate.map fun v => (1, [v])).toList ≤ 2 :=
    room_toList_map_le _ fun _ => Nat.le_refl 2
  have channel : room (h.channelFreq.map fun v =>
      (2, ofLe16 v ++ ofLe16 (h.channelFlags.getD 0))).toList ≤ 6 :=
    room_toList_map_le _ fun v => by simp
  have signal : room (h.signal.map fun v => (1, [v.toUInt8])).toList ≤ 2 :=
    room_toList_map_le _ fun _ => Nat.le_refl 2
  have noise : room (h.noise.map fun v => (1, [v.toUInt8])).toList ≤ 2 :=
    room_toList_map_le _ fun _ => Nat.le_refl 2
  have antenna : room (h.antenna.map fun v => (1, [v])).toList ≤ 2 :=
    room_toList_map_le _ fun _ => Nat.le_refl 2
  have mcs : room (h.mcs.map fun v => (1, v.encode)).toList ≤ 4 :=
    room_toList_map_le _ fun _ => Nat.le_refl 4
  have vht : room (h.vht.map fun v => (2, v.encode)).toList ≤ 14 :=
    room_toList_map_le _ fun v => by simp [Vht.encode]
  unfold fields
  simp only [room_append]
  omega

theorem length_encode (h : Radiotap) :
    h.encode.length = fixedSize + (layOut fixedSize h.fields).length := by
  simp [encode, fixedSize]
  omega

theorem length_encode_lt (h : Radiotap) : h.encode.length < 2 ^ 16 := by
  have body := Nat.le_trans (length_layOut_le fixedSize h.fields) (room_fields_le h)
  rw [length_encode, fixedSize] at *
  omega

/-- A header as it is read back: with its true length. -/
def written (h : Radiotap) : Radiotap := { h with length := UInt16.ofNat h.encode.length }

/-- A header without any field. -/
def bare (version : UInt8) (length : UInt16) (present : UInt32) : Radiotap where
  version
  length
  present
  timestamp := none
  flags := none
  rate := none
  channelFreq := none
  channelFlags := none
  signal := none
  noise := none
  antenna := none
  mcs := none
  vht := none

/-- What the fixed octets of a header say. -/
def opening (data : Bytes) : Radiotap := bare (data.byteAt 0) (data.le16At 2) (data.le32At 4)

/-- The fixed octets say what was written into them. -/
theorem opening_encode (h : Radiotap) (rest : Bytes) :
    opening (h.encode ++ rest) = bare h.version (UInt16.ofNat h.encode.length) h.present := by
  have length : (h.encode ++ rest).le16At 2 = UInt16.ofNat h.encode.length := by
    change UInt16.ofNat (leNat (leBytes 2 _)) = _
    have fits : h.encode.length < 256 ^ 2 := length_encode_lt h
    rw [← length_encode, leNat_leBytes, Nat.mod_eq_of_lt fits]
  have present : (h.encode ++ rest).le32At 4 = h.present := ofNat_leNat_ofLe32 h.present
  rw [opening, length, present]
  rfl

/-- The three reasons to refuse a header before its fields are read. -/
theorem parse_eq (data : Bytes) :
    parse data =
      if data.length < fixedSize then .error (.radiotap "header too short")
      else if (data.le16At 2).toNat < fixedSize || data.length < (data.le16At 2).toNat then
        .error (.radiotap "incomplete header")
      else if (opening data).announces extensionBit then
        .error (.radiotap "extended present bitmaps are not supported")
      else
        readFields (data.take (data.le16At 2).toNat) (opening data) fixedSize >>=
          fun read => .ok (read.1, (data.le16At 2).toNat) := by
  unfold parse announces opening bare
  dsimp only
  by_cases short : data.length < fixedSize
  · rw [if_pos short, if_pos short]
    rfl
  rw [if_neg short, if_neg short]
  split
  · rfl
  split
  · rfl
  · rfl

/-- A header is read just when its octets are there, it announces no further presence word and its
fields are read from its octets. -/
theorem parse_eq_ok_iff {data : Bytes} {h : Radiotap} {n : Nat} :
    parse data = .ok (h, n) ↔
      (data.le16At 2).toNat = n ∧ fixedSize ≤ n ∧ n ≤ data.length ∧
        (opening data).announces extensionBit = false ∧
        ∃ next, readFields (data.take n) (opening data) fixedSize = .ok (h, next) := by
  rw [parse_eq]
  constructor
  · intro accepted
    split at accepted
    · cases accepted
    split at accepted
    · cases accepted
    next fits =>
    split at accepted
    · cases accepted
    next single =>
    simp only [Bool.or_eq_true, decide_eq_true_eq, not_or, Nat.not_lt] at fits
    cases read : readFields (data.take (data.le16At 2).toNat) (opening data) fixedSize with
    | error e =>
      rw [read] at accepted
      cases accepted
    | ok r =>
      rw [read] at accepted
      cases accepted
      exact ⟨rfl, fits.1, fits.2, Bool.eq_false_iff.2 single, r.2, read⟩
  · rintro ⟨rfl, least, most, single, next, read⟩
    have long : ¬ data.length < fixedSize := by omega
    have fits : ¬ ((data.le16At 2).toNat < fixedSize || data.length < (data.le16At 2).toNat) := by
      simp only [Bool.or_eq_true, decide_eq_true_eq]
      omega
    rw [if_neg long, if_neg fits, if_neg (Bool.eq_false_iff.1 single), read]
    rfl

/-- The octets of a consistent header, whatever follows, are read as that header. -/
theorem parse_encode {h : Radiotap} (c : h.Consistent) (rest : Bytes) :
    parse (h.encode ++ rest) = .ok (h.written, h.encode.length) := by
  have announced : ((h.encode ++ rest).le16At 2).toNat = h.encode.length := by
    have word := congrArg Radiotap.length (opening_encode h rest)
    change (h.encode ++ rest).le16At 2 = UInt16.ofNat h.encode.length at word
    rw [word, UInt16.toNat_ofNat_of_lt' (length_encode_lt h)]
  have least : fixedSize ≤ h.encode.length := by
    rw [length_encode]
    exact Nat.le_add_right _ _
  have most : h.encode.length ≤ (h.encode ++ rest).length := by
    rw [List.length_append]
    exact Nat.le_add_right _ _
  -- The fields are taken from behind the fixed octets.
  have laid : h.encode.drop fixedSize = layOut fixedSize (h.words ++ []) := by
    have paired := c.channelFlags.symm.trans c.channelFreq
    rw [List.append_nil, layOut_words h paired]
    rfl
  obtain ⟨next, fields, -⟩ := Takes.readFields
    (bare h.version (UInt16.ofNat h.encode.length) h.present) c rfl fixedSize [] laid
  refine parse_eq_ok_iff.2 ⟨announced, least, most, ?_, next, ?_⟩
  · rw [opening_encode]
    exact c.extension
  · rw [opening_encode, List.take_left' rfl, fields]
    rfl

/-! ## What a reading depends on -/

/-- The fixed octets stand in front of all others. -/
theorem opening_take {data : Bytes} {n : Nat} (h : fixedSize ≤ n) :
    opening (data.take n) = opening data := by
  unfold fixedSize at h
  simp (disch := omega) only [opening, le16At, le32At, slice_take, byteAt_take]

/-- Octets behind the length of a header that was read make no difference. -/
theorem parse_of_take_eq {data other : Bytes} {h : Radiotap} {n : Nat}
    (read : parse data = .ok (h, n)) (same : other.take n = data.take n) :
    parse other = .ok (h, n) := by
  obtain ⟨length, least, most, single, fields⟩ := parse_eq_ok_iff.1 read
  have reach : n ≤ other.length := by
    have lengths := congrArg List.length same
    rw [List.length_take, List.length_take, Nat.min_eq_left most] at lengths
    omega
  have opens : opening other = opening data := by
    rw [← opening_take least, same, opening_take least]
  have announced : other.le16At 2 = data.le16At 2 := congrArg Radiotap.length opens
  refine parse_eq_ok_iff.2 ⟨?_, least, reach, ?_, ?_⟩
  · rw [announced, length]
  · rw [opens, single]
  · rw [opens, same]
    exact fields

/-! ## Headers that were read -/

namespace FieldReader

/-- A field that was read if announced is there just when it was announced. -/
theorem isSome_of_ifPresent {present bit : UInt32} {read : FieldReader α} {pos next : Nat}
    {o : Option α} (got : ifPresent present bit read pos = .ok (o, next)) :
    (present &&& bit != 0) = o.isSome := by
  unfold ifPresent at got
  cases set : present &&& bit != 0 with
  | false =>
    rw [set] at got
    cases got
    rfl
  | true =>
    rw [set] at got
    change (read pos >>= fun r => Pure.pure (some r.1, r.2)) = _ at got
    cases value : read pos with
    | error e =>
      rw [value] at got
      cases got
    | ok r =>
      rw [value] at got
      cases got
      rfl

theorem bind_eq_ok_iff {read : FieldReader α} {then_ : α → FieldReader β} {pos : Nat}
    {r : β × Nat} :
    (read >>= then_) pos = .ok r ↔
      ∃ v middle, read pos = .ok (v, middle) ∧ then_ v middle = .ok r := by
  change (read pos >>= fun r => then_ r.1 r.2) = .ok r ↔ _
  cases read pos with
  | error e =>
    constructor
    · intro fails
      cases fails
    · rintro ⟨v, middle, reads, -⟩
      cases reads
  | ok taken =>
    constructor
    · intro goesOn
      exact ⟨taken.1, taken.2, rfl, goesOn⟩
    · rintro ⟨v, middle, reads, goesOn⟩
      cases reads
      exact goesOn

end FieldReader

/-- The header that was read has the fields that its presence word announces. -/
theorem consistent_of_readFields {header : Bytes} {base h : Radiotap} {pos next : Nat}
    (single : base.announces extensionBit = false)
    (read : readFields header base pos = .ok (h, next)) :
    h.Consistent ∧ h.version = base.version ∧ h.length = base.length ∧
      h.present = base.present := by
  unfold readFields at read
  simp only [FieldReader.bind_eq_ok_iff] at read
  obtain ⟨timestamp, _, timestampRead, flags, _, flagsRead, rate, _, rateRead, freq, _, freqRead,
    channelFlags, _, channelFlagsRead, signal, _, signalRead, noise, _, noiseRead, antenna, _,
    antennaRead, mcs, _, mcsRead, vht, _, vhtRead, done⟩ := read
  cases done
  open FieldReader in
  refine ⟨⟨single, isSome_of_ifPresent timestampRead, isSome_of_ifPresent flagsRead,
    isSome_of_ifPresent rateRead, isSome_of_ifPresent freqRead,
    isSome_of_ifPresent channelFlagsRead, isSome_of_ifPresent signalRead,
    isSome_of_ifPresent noiseRead, isSome_of_ifPresent antennaRead, isSome_of_ifPresent mcsRead,
    isSome_of_ifPresent vhtRead⟩, rfl, rfl, rfl⟩

theorem consistent_of_parse {data : Bytes} {h : Radiotap} {n : Nat}
    (read : parse data = .ok (h, n)) : h.Consistent ∧ h.length.toNat = n := by
  obtain ⟨length, -, -, single, next, fields⟩ := parse_eq_ok_iff.1 read
  obtain ⟨c, -, same, -⟩ := consistent_of_readFields single fields
  rw [same]
  exact ⟨c, length⟩

/-- **Writing and reading a header agree.** A consistent header is read back from its octets and
whatever follows, with its length filled in. A header that was read is consistent, has its length
and lies in the frame, and no octet behind it makes a difference; written again it is read as the
same header with its length filled in, which has the same octets. The header of a reception is
consistent. -/
theorem encode_parse_agree :
    (∀ (h : Radiotap) (rest : Bytes), h.Consistent →
      parse (h.encode ++ rest) =
        .ok ({ h with length := UInt16.ofNat h.encode.length }, h.encode.length)) ∧
    (∀ (data : Bytes) (h : Radiotap) (n : Nat), parse data = .ok (h, n) →
      h.Consistent ∧ h.length.toNat = n ∧ n ≤ data.length ∧
        (∀ other : Bytes, other.take n = data.take n → parse other = .ok (h, n)) ∧
        h.written.encode = h.encode ∧
          ∀ rest : Bytes, parse (h.encode ++ rest) = .ok (h.written, h.encode.length)) ∧
    ∀ r : Reception, (ofReception r).Consistent := by
  refine ⟨fun h rest c => parse_encode c rest, fun data h n read => ?_, consistent_ofReception⟩
  obtain ⟨c, length⟩ := consistent_of_parse read
  obtain ⟨-, -, inside, -⟩ := parse_eq_ok_iff.1 read
  exact ⟨c, length, inside, fun other => parse_of_take_eq read, rfl, parse_encode c⟩

/-- A header of five fields with padding in front of two of them and two presence bits that nothing
stands for, in front of two octets; and one whose length covers three octets behind its only
field. -/
theorem encode_parse_agree_padded :
    let vht : Vht := ⟨0x45, 4, 1, 0x92, 0, 0, 0, 1, 0, 0x1ff⟩
    let h : Radiotap := { bare 3 0 0x40200c0b with
      timestamp := some 0x0102030405060708, flags := some 0x80, channelFreq := some 5180,
      channelFlags := some 0x140, antenna := some 1, vht := some vht }
    let data : Bytes := [0, 0, 12, 0, 2, 0, 0, 0, 0x10, 7, 8, 9, 0x88]
    h.encode.length = 36 ∧ parse (h.encode ++ [0x88, 0x02]) = .ok ({ h with length := 36 }, 36) ∧
      ∃ read, parse data = .ok (read, 12) ∧ parse (data.take 12) = .ok (read, 12) ∧
        read.encode.length = 9 ∧ parse (read.encode ++ [7]) = .ok (read.written, 9) := by
  intro vht h data
  let short : Radiotap := { bare 0 12 2 with flags := some 0x10 }
  obtain ⟨writes, reads, -⟩ := encode_parse_agree
  have c : h.Consistent := by constructor <;> decide
  have single : short.Consistent := by constructor <;> decide
  -- The three octets behind the field are laid out like a field that nothing reads.
  have laid : (data.take 12).drop fixedSize =
      layOut fixedSize (short.words ++ [(1, [7, 8, 9])]) := by decide
  obtain ⟨next, fields, -⟩ := Takes.readFields (bare 0 12 2) single rfl fixedSize _ laid
  have read : parse data = .ok (short, 12) :=
    parse_eq_ok_iff.2 ⟨by decide, by decide, by decide, by decide, next, fields⟩
  obtain ⟨-, -, -, depends, -, again⟩ := reads data short 12 read
  have front : (data.take 12).take 12 = data.take 12 := by decide
  have long : h.encode.length = 36 := by decide
  have nine : short.encode.length = 9 := by decide
  have written := writes h [0x88, 0x02] c
  have rewritten := again [7]
  rw [long] at written
  rw [nine] at rewritten
  exact ⟨long, written, short, read, depends (data.take 12) front, nine, rewritten⟩

end Radiotap

end Airlink
