import Airlink.Proofs.Screened

/-!
# Descriptors that do not fit their buffers

A descriptor may declare more octets than the buffer behind it holds. A buffer loses its descriptor
in two steps: advancing over the offset fails if the buffer ends before, but cutting down to the
length leaves a payload that is too short as it is. So a frame whose descriptor does not fit is
dropped for that if the offset alone does not fit, or if it is an aggregate, whose payload is taken
in one piece (`Ingress.processAll_misfit_iff`). Any other such frame goes on with fewer octets than
its descriptor declares.
-/

namespace Airlink

/-- Screening drops frames for its own reasons. -/
theorem Screening.isScreening_of_threat? {frame : Bytes} {reason : DropReason}
    (h : threat? frame = some reason) : reason.IsScreening := by
  unfold threat? takeover? at h
  split at h
  · cases h
    exact .inl rfl
  · split at h
    · cases h
      exact .inr rfl
    · cases h

namespace Ingress

/-- Whether frames of a class go on with the payload that their descriptor names. -/
def TakesPayload (settings : Settings) : FrameClass → Prop
  | .data | .amsdu | .raw80211 | .debug => True
  | .management => settings.mgmtPassthrough = true
  | .blockAckRequest => False

instance (settings : Settings) : DecidablePred (TakesPayload settings)
  | .data | .amsdu | .raw80211 | .debug => .isTrue trivial
  | .management => inferInstanceAs (Decidable (settings.mgmtPassthrough = true))
  | .blockAckRequest => .isFalse id

/-! ## Payloads -/

/-- A buffer has a payload unless it ends before the offset. -/
theorem strip_eq_error_iff {buf : Buffer} {desc : RxDescriptor} :
    (∃ e, strip buf desc = .error e) ↔ buf.size < desc.pktOffset.toNat := by
  unfold strip
  constructor
  · rintro ⟨e, failed⟩
    refine Nat.lt_of_not_le fun reached => ?_
    obtain ⟨c, advanced, -⟩ := buf.advance_of_le reached
    rw [advanced] at failed
    cases failed
  · intro short
    rw [Buffer.advance, dif_neg (Nat.not_le.2 short)]
    exact ⟨_, rfl⟩

/-- What follows on a payload is not reached just if the buffer ends before the offset, or if it
leads to the same drop. -/
theorem withPayload_eq_sizeInvalid_iff (st : State) (buf : Buffer) (desc : RxDescriptor)
    {next : Buffer → Outcome × State} (other : ∀ p, (next p).1 ≠ .drop .sizeInvalid) :
    withPayload st buf desc next = (.drop .sizeInvalid, st) ↔
      buf.size < desc.pktOffset.toNat := by
  rw [← strip_eq_error_iff]
  unfold withPayload
  cases strip buf desc with
  | error e => exact iff_of_true rfl ⟨e, rfl⟩
  | ok p => exact iff_of_false (fun same => other p (congrArg Prod.fst same)) nofun

/-- A translated frame is dropped for other reasons. -/
theorem route_ne_sizeInvalid (env : Env) (st : State) (buf : Buffer) :
    (route env st buf).1 ≠ .drop .sizeInvalid := by
  cases translated : buf.toEthernet with
  | error e => simp [route, translated]
  | ok result =>
    obtain ⟨translation, c⟩ := result
    rw [route_of_toEthernet env st translated, ne_eq, conclude_eq_drop_iff env st c _ (by decide),
      screen_eq_drop_iff env translated]
    rintro ⟨-, threat⟩
    exact absurd (Screening.isScreening_of_threat? threat) (by decide)

/-- A raw frame is dropped for other reasons. -/
theorem processRaw_ne_sizeInvalid (env : Env) (st : State) (buf : Buffer) (desc : RxDescriptor) :
    (processRaw env st buf desc).1 ≠ .drop .sizeInvalid := by
  unfold processRaw
  split
  · split <;> nofun
  · split
    · exact route_ne_sizeInvalid env st _
    · split <;> nofun

/-! ## Frames -/

/-- A single frame with a payload is dropped for its size just if it ends before the offset. -/
theorem process_eq_sizeInvalid_iff (env : Env) (st : State) {buf : Buffer} {desc : RxDescriptor}
    {frameClass : FrameClass} (isClass : desc.frameClass = some frameClass)
    (takes : TakesPayload env.settings frameClass) (single : frameClass ≠ .amsdu) :
    process env st buf desc = (.drop .sizeInvalid, st) ↔ buf.size < desc.pktOffset.toNat := by
  unfold process
  rw [isClass]
  cases frameClass with
  | data => exact withPayload_eq_sizeInvalid_iff st buf desc (route_ne_sizeInvalid env st)
  | raw80211 =>
    exact withPayload_eq_sizeInvalid_iff st buf desc fun p =>
      processRaw_ne_sizeInvalid env st p desc
  | debug => exact withPayload_eq_sizeInvalid_iff st buf desc fun p => nofun
  | management =>
    have passed : env.settings.mgmtPassthrough = true := takes
    simp only [if_pos passed]
    exact withPayload_eq_sizeInvalid_iff st buf desc fun p => nofun
  | blockAckRequest => exact takes.elim
  | amsdu => exact absurd rfl single

/-- **Descriptors that do not fit.** Let the descriptor of a frame with a payload declare more
octets than the buffer holds. The frame is dropped for its size, with stations and reports left
alone, just if it is an aggregate or the buffer ends before the offset. -/
theorem processAll_misfit_iff (env : Env) (st : State) {buf : Buffer} {desc : RxDescriptor}
    {frameClass : FrameClass} (isClass : desc.frameClass = some frameClass)
    (takes : TakesPayload env.settings frameClass) (misfit : buf.size < desc.payloadEnd) :
    processAll env st buf desc = ([.drop .sizeInvalid], st) ↔
      frameClass = .amsdu ∨ buf.size < desc.pktOffset.toNat := by
  unfold processAll
  by_cases aggregate : frameClass = .amsdu
  · have missing : desc.payload? buf.window = none := by
      rw [RxDescriptor.payload?, Bytes.slice?, buf.length_window]
      exact if_neg (Nat.not_le.2 misfit)
    subst aggregate
    rw [if_pos isClass, missing]
    exact iff_of_true rfl (.inl rfl)
  · have single : desc.frameClass ≠ some .amsdu := fun same =>
      aggregate (Option.some_inj.1 (isClass.symm.trans same))
    rw [if_neg single, ← process_eq_sizeInvalid_iff env st isClass takes aggregate]
    simp [Prod.ext_iff, aggregate]

/-- A descriptor of a data frame that declares an offset and a length. -/
def declaring (offset length : UInt16) : RxDescriptor :=
  { covering .data [] with pktOffset := offset, pktLength := length }

/-- Room for a descriptor, and an Ethernet-II header behind it. -/
def lone : Bytes :=
  List.replicate 24 0 ++ [2, 0, 0, 0, 0, 1, 2, 0, 0, 0, 0, 0xa, 8, 0]

/-- The header is dropped for its size if its descriptor has it start behind two hundred octets. -/
theorem processAll_misfit_iff_offset :
    let buf := Buffer.ofBytes .rx lone
    let desc := declaring 200 100
    TakesPayload accessPoint.settings .data ∧ buf.size < desc.payloadEnd ∧
      processAll accessPoint quiet buf desc = ([.drop .sizeInvalid], quiet) := by
  intro buf desc
  have isClass : desc.frameClass = some .data := by rfl
  have misfit : buf.size < desc.payloadEnd := by decide
  exact ⟨trivial, misfit, (processAll_misfit_iff accessPoint quiet isClass trivial misfit).2
    (.inr (by decide))⟩

/-- The header is delivered, although its descriptor declares a hundred octets. -/
theorem processAll_cut_short :
    let buf := Buffer.ofBytes .rx lone
    let desc := declaring 24 100
    buf.size < desc.payloadEnd ∧
      (processAll accessPoint quiet buf desc).1.map Outcome.bytes? = [some (lone.drop 24)] ∧
      processAll accessPoint quiet buf desc ≠ ([.drop .sizeInvalid], quiet) := by
  decide +kernel

end Ingress

end Airlink
