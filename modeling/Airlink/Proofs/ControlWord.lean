import Airlink.Descriptor.ControlWord
import Mathlib.Data.FinEnum

/-!
# Fields of the control words

Each setter of a control word puts the bits of its own field in place and leaves the others alone
(`TxControl.Write.apply_and_of_apart`, `TxChannelControl.Write.apply_and_of_apart`). So after any
number of writes a field holds what was last written to it (`read_foldl`): see `power_writeAll`,
`retryLimit_writeAll` and `rate_writeAll` for the first word, `bandwidth_writeAll` and
`channel_writeAll` for the second.

The bit that leaves the power to the host is the exception. A write of the power raises it and none
clears it, so it stays up once it was raised (`TxControl.hostPower_writeAll`), and a later write
that gives the power back to firmware does not take: see `TxControl.hostPower_stuck`.
-/

namespace Airlink

/-! ## Replacing bits of a word -/

/-- A word with the bits under a mask replaced by those of another word. -/
def putBits (word mask value : UInt32) : UInt32 := (word &&& ~~~mask) ||| (value &&& mask)

/-- Words are equal if they are so bit by bit. -/
theorem eq_of_bits {x y : UInt32} (h : ∀ (i : Nat) (_ : i < 32), x.toBitVec[i] = y.toBitVec[i]) :
    x = y :=
  UInt32.toBitVec_inj.1 (BitVec.eq_of_getElem_eq h)

section putBits

variable {word mask value k : UInt32}

/-- What is read apart from the mask is what stood there before. -/
theorem putBits_and_of_apart (apart : k &&& mask = 0) :
    putBits word mask value &&& k = word &&& k := by
  refine eq_of_bits fun i h => ?_
  have bit : (k.toBitVec[i] && mask.toBitVec[i]) = false := by
    simpa using congrArg (·.toBitVec[i]) apart
  simp only [putBits, UInt32.toBitVec_and, UInt32.toBitVec_or, UInt32.toBitVec_not,
    BitVec.getElem_and, BitVec.getElem_or, BitVec.getElem_not]
  grind

/-- What is read under the mask is what was put there. -/
theorem putBits_and_of_covered (covered : k &&& mask = k) :
    putBits word mask value &&& k = value &&& k := by
  refine eq_of_bits fun i h => ?_
  have bit : (k.toBitVec[i] && mask.toBitVec[i]) = k.toBitVec[i] := by
    simpa using congrArg (·.toBitVec[i]) covered
  simp only [putBits, UInt32.toBitVec_and, UInt32.toBitVec_or, UInt32.toBitVec_not,
    BitVec.getElem_and, BitVec.getElem_or, BitVec.getElem_not]
  grind

/-- What is apart from a mask is apart from a smaller one. -/
theorem apart_of_covered {other : UInt32} (covered : mask &&& other = mask)
    (apart : k &&& other = 0) : k &&& mask = 0 := by
  rw [← covered, UInt32.and_comm mask, ← UInt32.and_assoc, apart, UInt32.zero_and]

/-- Clearing a field, filling it and raising a further bit puts the field and the bit. -/
theorem putBits_field (word field value bit : UInt32) :
    (word &&& ~~~field) ||| (value &&& field) ||| bit =
      putBits word (field ||| bit) ((value &&& field) ||| bit) := by
  refine eq_of_bits fun i h => ?_
  simp only [putBits, UInt32.toBitVec_and, UInt32.toBitVec_or, UInt32.toBitVec_not,
    BitVec.getElem_and, BitVec.getElem_or, BitVec.getElem_not]
  grind

end putBits

/-! ## The last write -/

/-- Let writes either set what is read to a value of their argument or leave it as it is. After any
number of them, what is read is the value of the last argument, and what it was before if no write
had one. -/
theorem read_foldl {ω α β γ : Type} {write : ω → α → ω} {read : ω → γ} {arg? : α → Option β}
    {value : β → γ} (same : ∀ w a b, arg? a = some b → read (write w a) = value b)
    (other : ∀ w a, arg? a = none → read (write w a) = read w) (w : ω) (as : List α) :
    read (as.foldl write w) = (as.filterMap arg?).getLast?.elim (read w) value := by
  induction as generalizing w with
  | nil => rfl
  | cons a as ih =>
    rw [List.foldl_cons, ih]
    cases given : arg? a with
    | none => rw [List.filterMap_cons_none given, other w a given]
    | some b =>
      rw [List.filterMap_cons_some given, List.getLast?_cons, same w a b given]
      cases (as.filterMap arg?).getLast? <;> rfl

/-- Bits that no write of a sequence touches keep their values. -/
theorem bits_foldl {ω α : Type} {write : ω → α → ω} {bits : ω → UInt32} {field : α → UInt32}
    (apart : ∀ w a k, k &&& field a = 0 → bits (write w a) &&& k = bits w &&& k) (w : ω)
    (as : List α) {k : UInt32} (untouched : ∀ a ∈ as, k &&& field a = 0) :
    bits (as.foldl write w) &&& k = bits w &&& k := by
  induction as generalizing w with
  | nil => rfl
  | cons a as ih =>
    obtain ⟨here, behind⟩ := List.forall_mem_cons.1 untouched
    rw [List.foldl_cons, ih _ behind, apart w a k here]

/-! ## The first word -/

namespace TxControl

/-- A write of a field. -/
inductive Write where
  | power (dbm : Int8) (hostControlled : Bool)
  | retryLimit (limit : UInt8)
  | rate (rate : UInt8)
  deriving DecidableEq, Repr

namespace Write

/-- The word after a write. -/
def apply (w : TxControl) : Write → TxControl
  | power dbm hostControlled => w.withPower dbm hostControlled
  | retryLimit limit => w.withRetryLimit limit
  | rate r => w.withRate r

/-- The bits of the field that is written, with the one that says that it counts or who decides
it. -/
def field : Write → UInt32
  | power _ _ => powerMask ||| hostPowerBit
  | retryLimit _ => retryMask ||| retryOverride
  | rate _ => rateMask ||| rateOverride

/-- What a write of the power sets it to. -/
def power? : Write → Option (Int8 × Bool)
  | power dbm hostControlled => some (dbm, hostControlled)
  | _ => none

/-- What a write of the retry limit sets it to. -/
def limit? : Write → Option UInt8
  | retryLimit limit => some limit
  | _ => none

/-- What a write of the rate sets it to. -/
def rate? : Write → Option UInt8
  | rate r => some r
  | _ => none

end Write

/-- The word after several writes. -/
def writeAll (w : TxControl) (writes : List Write) : TxControl := writes.foldl Write.apply w

variable (w : TxControl)

/-! ### The setters as replaced bits -/

theorem bits_withPower (dbm : Int8) (hostControlled : Bool) :
    (w.withPower dbm hostControlled).bits =
      putBits w.bits (powerMask ||| if hostControlled then hostPowerBit else 0)
        ((dbm.toUInt8.toUInt32 &&& powerMask) ||| if hostControlled then hostPowerBit else 0) := by
  have inside : ∀ b : UInt8, b.toUInt32 &&& powerMask = b.toUInt32 := by decide +kernel
  rw [← putBits_field, inside, withPower]
  cases hostControlled with
  | true => rfl
  | false => exact UInt32.or_zero.symm

theorem bits_withRetryLimit (limit : UInt8) :
    (w.withRetryLimit limit).bits =
      putBits w.bits (retryMask ||| retryOverride)
        (((limit.toUInt32 <<< 8) &&& retryMask) ||| retryOverride) :=
  putBits_field w.bits retryMask (limit.toUInt32 <<< 8) retryOverride

theorem bits_withRate (rate : UInt8) :
    (w.withRate rate).bits =
      putBits w.bits (rateMask ||| rateOverride)
        (((rate.toUInt32 <<< 16) &&& rateMask) ||| rateOverride) := by
  have inside : ∀ b : UInt8, (b.toUInt32 <<< 16) &&& rateMask = b.toUInt32 <<< 16 := by
    decide +kernel
  rw [← putBits_field, inside]
  rfl

/-- A write leaves all bits alone that are not of its field. -/
theorem Write.apply_and_of_apart (a : Write) {k : UInt32} (apart : k &&& a.field = 0) :
    (a.apply w).bits &&& k = w.bits &&& k := by
  cases a with
  | power dbm hostControlled =>
    have covered : (powerMask ||| if hostControlled then hostPowerBit else 0) &&&
        Write.field (.power dbm hostControlled) =
          powerMask ||| if hostControlled then hostPowerBit else 0 := by
      rw [field]
      cases hostControlled <;> decide
    rw [apply, bits_withPower]
    exact putBits_and_of_apart (apart_of_covered covered apart)
  | retryLimit limit =>
    rw [apply, bits_withRetryLimit]
    exact putBits_and_of_apart apart
  | rate r =>
    rw [apply, bits_withRate]
    exact putBits_and_of_apart apart

/-! ### Reading what was written -/

/-- Of what the power is set to, the power field gets the octet. -/
theorem power_withPower (dbm : Int8) (hostControlled : Bool) :
    (w.withPower dbm hostControlled).power = dbm := by
  have octet : ∀ (b : UInt8) (host : Bool),
      (((b.toUInt32 &&& powerMask) ||| if host then hostPowerBit else 0) &&& powerMask).toUInt8 =
        b := by
    decide +kernel
  have covered : ∀ host : Bool,
      powerMask &&& (powerMask ||| if host then hostPowerBit else 0) = powerMask := by decide
  rw [power, bits_withPower, putBits_and_of_covered (covered hostControlled), octet,
    Int8.toInt8_toUInt8]

theorem retryLimit_withRetryLimit (limit : UInt8) :
    (w.withRetryLimit limit).retryLimit = some (limit % 16) := by
  have read : ∀ b : UInt8, (⟨((b.toUInt32 <<< 8) &&& retryMask) ||| retryOverride⟩ :
      TxControl).retryLimit = some (b % 16) := by
    decide +kernel
  rw [← read, retryLimit, bits_withRetryLimit, putBits_and_of_covered (by decide),
    putBits_and_of_covered (by decide)]
  rfl

theorem rate_withRate (r : UInt8) : (w.withRate r).rate = some r := by
  have read : ∀ b : UInt8, (⟨((b.toUInt32 <<< 16) &&& rateMask) ||| rateOverride⟩ :
      TxControl).rate = some b := by
    decide +kernel
  rw [← read, rate, bits_withRate, putBits_and_of_covered (by decide),
    putBits_and_of_covered (by decide)]
  rfl

/-- Setting the power raises the bit that leaves it to the host, or leaves the bit as it is. -/
theorem hostPower_withPower (dbm : Int8) (hostControlled : Bool) :
    (w.withPower dbm hostControlled).hostPower = (w.hostPower || hostControlled) := by
  rw [hostPower, bits_withPower]
  cases hostControlled with
  | true =>
    have raised : ∀ b : UInt8,
        ((b.toUInt32 &&& powerMask) ||| hostPowerBit) &&& hostPowerBit ≠ 0 := by
      decide +kernel
    rw [putBits_and_of_covered (by decide)]
    simpa using raised _
  | false =>
    rw [putBits_and_of_apart (by decide), Bool.or_false, hostPower]

/-! ### After several writes -/

variable (writes : List Write)

theorem power_writeAll :
    (w.writeAll writes).power =
      (writes.filterMap Write.power?).getLast?.elim w.power Prod.fst := by
  refine read_foldl (fun w a p given => ?_) (fun w a none => ?_) w writes
  · cases a <;> cases given
    exact w.power_withPower _ _
  · cases a with
    | power => cases none
    | retryLimit | rate =>
      rw [power, Write.apply_and_of_apart w _ (by rw [Write.field]; decide), power]

theorem retryLimit_writeAll :
    (w.writeAll writes).retryLimit =
      (writes.filterMap Write.limit?).getLast?.elim w.retryLimit
        fun limit => some (limit % 16) := by
  refine read_foldl (fun w a p given => ?_) (fun w a none => ?_) w writes
  · cases a <;> cases given
    exact w.retryLimit_withRetryLimit _
  · cases a with
    | retryLimit => cases none
    | power | rate =>
      rw [retryLimit, Write.apply_and_of_apart w _ (by rw [Write.field]; decide),
        Write.apply_and_of_apart w _ (by rw [Write.field]; decide), retryLimit]

theorem rate_writeAll :
    (w.writeAll writes).rate = (writes.filterMap Write.rate?).getLast?.elim w.rate some := by
  refine read_foldl (fun w a p given => ?_) (fun w a none => ?_) w writes
  · cases a <;> cases given
    exact w.rate_withRate _
  · cases a with
    | rate => cases none
    | power | retryLimit =>
      rw [rate, Write.apply_and_of_apart w _ (by rw [Write.field]; decide),
        Write.apply_and_of_apart w _ (by rw [Write.field]; decide), rate]

/-- The power is left to the host once some write of the power left it to the host. -/
theorem hostPower_writeAll :
    (w.writeAll writes).hostPower =
      (w.hostPower || (writes.filterMap Write.power?).any Prod.snd) := by
  induction writes generalizing w with
  | nil => exact (Bool.or_false _).symm
  | cons a writes ih =>
    rw [writeAll, List.foldl_cons, ← writeAll, ih]
    cases a with
    | power dbm hostControlled =>
      have given : Write.power? (.power dbm hostControlled) = some (dbm, hostControlled) := rfl
      rw [Write.apply, hostPower_withPower, List.filterMap_cons_some given, List.any_cons,
        Bool.or_assoc]
    | retryLimit | rate =>
      rw [hostPower, Write.apply_and_of_apart w _ (by rw [Write.field]; decide), ← hostPower,
        List.filterMap_cons_none rfl]

/-- The last write of the power decides who is left with it, unless it takes the power from the host
after it was left to the host before. -/
theorem hostPower_writeAll_eq_last_iff :
    let powers := writes.filterMap Write.power?
    (w.writeAll writes).hostPower = powers.getLast?.elim w.hostPower Prod.snd ↔
      ¬ (powers.getLast?.map Prod.snd = some false ∧
        (w.hostPower = true ∨ ∃ p ∈ powers, p.2 = true)) := by
  intro powers
  rw [hostPower_writeAll]
  change (w.hostPower || powers.any Prod.snd) = _ ↔ _
  clear_value powers
  cases last : powers.getLast? with
  | none =>
    obtain rfl := List.getLast?_eq_none_iff.1 last
    simp
  | some p =>
    obtain ⟨dbm, host⟩ := p
    cases host with
    | true =>
      have raised : powers.any Prod.snd = true :=
        List.any_eq_true.2 ⟨_, List.mem_of_getLast? last, rfl⟩
      simp [raised]
    | false => simp

end TxControl

/-! ## The second word -/

namespace TxChannelControl

/-- A write of a field. -/
inductive Write where
  | bandwidth (bandwidth : UInt8)
  | channel (channel : UInt8)
  deriving DecidableEq, Repr

namespace Write

/-- The word after a write. -/
def apply (w : TxChannelControl) : Write → TxChannelControl
  | bandwidth b => w.withBandwidth b
  | channel c => w.withChannel c

/-- The bits of the field that is written, with the one that says that it counts. -/
def field : Write → UInt32
  | bandwidth _ => bandwidthMask ||| bandwidthOverride
  | channel _ => channelMask

/-- What a write of the bandwidth sets it to. -/
def bandwidth? : Write → Option UInt8
  | bandwidth b => some b
  | _ => none

/-- What a write of the channel sets it to. -/
def channel? : Write → Option UInt8
  | channel c => some c
  | _ => none

end Write

/-- The word after several writes. -/
def writeAll (w : TxChannelControl) (writes : List Write) : TxChannelControl :=
  writes.foldl Write.apply w

variable (w : TxChannelControl)

/-! ### The setters as replaced bits -/

theorem bits_withBandwidth (bandwidth : UInt8) :
    (w.withBandwidth bandwidth).bits =
      putBits w.bits (bandwidthMask ||| bandwidthOverride)
        (((bandwidth.toUInt32 <<< 16) &&& bandwidthMask) ||| bandwidthOverride) :=
  putBits_field w.bits bandwidthMask (bandwidth.toUInt32 <<< 16) bandwidthOverride

theorem bits_withChannel (channel : UInt8) :
    (w.withChannel channel).bits = putBits w.bits channelMask (channel.toUInt32 <<< 21) := by
  have inside : ∀ b : UInt8, (b.toUInt32 <<< 21) &&& channelMask = b.toUInt32 <<< 21 := by
    decide +kernel
  rw [putBits, inside]
  rfl

/-- A write leaves all bits alone that are not of its field. -/
theorem Write.apply_and_of_apart (a : Write) {k : UInt32} (apart : k &&& a.field = 0) :
    (a.apply w).bits &&& k = w.bits &&& k := by
  cases a with
  | bandwidth b =>
    rw [apply, bits_withBandwidth]
    exact putBits_and_of_apart apart
  | channel c =>
    rw [apply, bits_withChannel]
    exact putBits_and_of_apart apart

/-! ### Reading what was written -/

theorem bandwidth_withBandwidth (b : UInt8) :
    (w.withBandwidth b).bandwidth = some (b % 8) := by
  have read : ∀ b : UInt8, (⟨((b.toUInt32 <<< 16) &&& bandwidthMask) ||| bandwidthOverride⟩ :
      TxChannelControl).bandwidth = some (b % 8) := by
    decide +kernel
  rw [← read, bandwidth, bits_withBandwidth, putBits_and_of_covered (by decide),
    putBits_and_of_covered (by decide)]
  rfl

theorem channel_withChannel (c : UInt8) : (w.withChannel c).channel = c := by
  have read : ∀ b : UInt8, (⟨b.toUInt32 <<< 21⟩ : TxChannelControl).channel = b := by
    decide +kernel
  conv_rhs => rw [← read c]
  rw [channel, bits_withChannel, putBits_and_of_covered (by decide), channel]

/-! ### After several writes -/

variable (writes : List Write)

theorem bandwidth_writeAll :
    (w.writeAll writes).bandwidth =
      (writes.filterMap Write.bandwidth?).getLast?.elim w.bandwidth fun b => some (b % 8) := by
  refine read_foldl (fun w a p given => ?_) (fun w a none => ?_) w writes
  · cases a <;> cases given
    exact w.bandwidth_withBandwidth _
  · cases a with
    | bandwidth => cases none
    | channel =>
      rw [bandwidth, Write.apply_and_of_apart w _ (by rw [Write.field]; decide),
        Write.apply_and_of_apart w _ (by rw [Write.field]; decide), bandwidth]

theorem channel_writeAll :
    (w.writeAll writes).channel =
      (writes.filterMap Write.channel?).getLast?.elim w.channel id := by
  refine read_foldl (fun w a p given => ?_) (fun w a none => ?_) w writes
  · cases a <;> cases given
    exact w.channel_withChannel _
  · cases a with
    | channel => cases none
    | bandwidth => rw [channel, Write.apply_and_of_apart w _ (by rw [Write.field]; decide), channel]

end TxChannelControl

/-! ## Both words -/

/-- **What is left of the writes.** After any writes to the first word, the power, the retry limit
and the rate are what was last written to them, of the retry limit four bits, and after any writes
to the second so are the channel and the bandwidth, of which three bits are kept. A field that was
not written is what it was, and so is every bit that belongs to no written field.

The power is left to the host if it was before or if any write left it to the host. So this is what
the last write of the power says unless that one takes back what was left to the host. -/
theorem control_words_written (w : TxControl) (writes : List TxControl.Write)
    (c : TxChannelControl) (channelWrites : List TxChannelControl.Write) :
    let v := w.writeAll writes
    let powers := writes.filterMap TxControl.Write.power?
    let d := c.writeAll channelWrites
    v.power = powers.getLast?.elim w.power Prod.fst ∧
    v.hostPower = (w.hostPower || powers.any Prod.snd) ∧
    (v.hostPower = powers.getLast?.elim w.hostPower Prod.snd ↔
      ¬ (powers.getLast?.map Prod.snd = some false ∧
        (w.hostPower = true ∨ ∃ p ∈ powers, p.2 = true))) ∧
    v.retryLimit = (writes.filterMap TxControl.Write.limit?).getLast?.elim w.retryLimit
      (fun limit => some (limit % 16)) ∧
    v.rate = (writes.filterMap TxControl.Write.rate?).getLast?.elim w.rate some ∧
    (∀ k, (∀ a ∈ writes, k &&& a.field = 0) → v.bits &&& k = w.bits &&& k) ∧
    d.bandwidth =
      (channelWrites.filterMap TxChannelControl.Write.bandwidth?).getLast?.elim c.bandwidth
        (fun bandwidth => some (bandwidth % 8)) ∧
    d.channel =
      (channelWrites.filterMap TxChannelControl.Write.channel?).getLast?.elim c.channel id ∧
    ∀ k, (∀ a ∈ channelWrites, k &&& a.field = 0) → d.bits &&& k = c.bits &&& k := by
  intro v powers d
  refine ⟨w.power_writeAll writes, w.hostPower_writeAll writes,
    w.hostPower_writeAll_eq_last_iff writes, w.retryLimit_writeAll writes,
    w.rate_writeAll writes, fun k untouched => ?_, c.bandwidth_writeAll channelWrites,
    c.channel_writeAll channelWrites, fun k untouched => ?_⟩
  · exact bits_foldl (fun w a _ => TxControl.Write.apply_and_of_apart w a) w writes untouched
  · exact bits_foldl (fun c a _ => TxChannelControl.Write.apply_and_of_apart c a) c channelWrites
      untouched

/-- The power is left to the host, and then set anew for firmware to decide: it stays with the
host. -/
theorem TxControl.hostPower_stuck :
    let writes : List Write := [.power 20 true, .power 5 false]
    let v := writeAll ⟨0⟩ writes
    (writes.filterMap Write.power?).getLast? = some (5, false) ∧ v.power = 5 ∧
      v.hostPower = true := by
  decide

end Airlink
