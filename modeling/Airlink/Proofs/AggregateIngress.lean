import Airlink.Proofs.Aggregate
import Airlink.Proofs.RawIngress

/-!
# Aggregates of packets

Processing an aggregate is processing its parts one after the other (`processAll_joins`). A part is
a packet behind an 802.3 header, with the length of its body, and so `processAll_agree_iff` says of
each part what `route_agree_iff` says of one such frame: it is treated like the same packet received
as an Ethernet-II frame if its body is shorter than 0x0600 octets, and else only where both are
dropped because nobody knows the destination.
-/

namespace Airlink

/-- A declared payload is no longer than its length field can say. -/
theorem length_payload? {desc : RxDescriptor} {data payload : Bytes}
    (h : desc.payload? data = some payload) : payload.length < 2 ^ 16 := by
  unfold RxDescriptor.payload? Bytes.slice? at h
  split at h
  · cases h
    exact Nat.lt_of_le_of_lt (List.length_take_le _ _) desc.pktLength.toNat_lt
  · cases h

/-- The packet as a part of an aggregate. -/
def Msdu.part (m : Msdu) : Bytes := m.framed (UInt16.ofNat m.body.length)

theorem Msdu.isPart {m : Msdu} (fits : m.body.length < 2 ^ 16) : Aggregate.IsPart m.part := by
  have length := m.length_framed (UInt16.ofNat m.body.length)
  refine ⟨?_, ?_⟩
  · rw [Msdu.part, length]
    exact Nat.le_add_right _ _
  · rw [Msdu.part, length, m.be16At_framed, UInt16.toNat_ofNat_of_lt' fits]
    rfl

namespace Ingress

/-- Processes frames one after the other and gives each outcome with the state that it leaves. -/
def steps (env : Env) : State → List (Buffer × RxDescriptor) → List (Outcome × State)
  | _, [] => []
  | st, (buf, desc) :: rest =>
    let result := process env st buf desc
    result :: steps env result.2 rest

/-- The parts of an aggregate as frames of their own. -/
def partFrames (buf : Buffer) (desc : RxDescriptor) (parts : List Bytes) :
    List (Buffer × RxDescriptor) :=
  parts.map fun part => (Aggregate.partBuffer buf part, desc.forSubframe part.length)

theorem processParts_eq (env : Env) (desc : RxDescriptor) (st : State) (buf : Buffer)
    (parts : List Bytes) :
    processParts env desc st (parts.map (Aggregate.partBuffer buf)) =
      ((steps env st (partFrames buf desc parts)).map Prod.fst,
        ((steps env st (partFrames buf desc parts)).map Prod.snd).getLastD st) := by
  induction parts generalizing st with
  | nil => rfl
  | cons part parts ih =>
    have size : (Aggregate.partBuffer buf part).size = part.length := by
      rw [← Buffer.length_window, Aggregate.window_partBuffer]
    simp only [List.map_cons, processParts, size, ih, partFrames, steps]
    exact Prod.ext rfl (by cases parts <;> rfl)

/-- Processing an aggregate is processing its parts one after the other, with one outcome for each
part. -/
theorem processAll_joins (env : Env) (st : State) {buf : Buffer} {desc : RxDescriptor}
    (isAmsdu : desc.frameClass = some .amsdu) {payload : Bytes}
    (hp : desc.payload? buf.window = some payload) {parts : List Bytes}
    (joins : Aggregate.Joins [] parts payload) (areParts : ∀ p ∈ parts, Aggregate.IsPart p) :
    processAll env st buf desc =
      ((steps env st (partFrames buf desc parts)).map Prod.fst,
        ((steps env st (partFrames buf desc parts)).map Prod.snd).getLastD st) := by
  have cut := Aggregate.cut_laid joins.laid areParts rfl
  unfold processAll
  rw [if_pos isAmsdu, hp]
  simp only [Aggregate.split, cut, processParts_eq]
  simp

/-! ## One part -/

/-- A frame carries a packet behind an Ethernet-II header, as received with the flags and the
priority of a buffer. -/
structure Carries (buf : Buffer) (m : Msdu) (frame : Buffer × RxDescriptor) : Prop where
  isData : frame.2.frameClass = some .data
  payload : ∃ q, strip frame.1 frame.2 = .ok q ∧
    q.frame = ⟨m.ethernet, .rx, buf.flags, buf.priority⟩

/-- A part and the frame with the same packet are treated alike: the body is short, or both are
dropped because nobody knows the destination. -/
def TreatedAlike (env : Env) (st : State) (m : Msdu) (part frame : Buffer × RxDescriptor) : Prop :=
  m.body.length < 0x0600 ∨ ((process env st part.1 part.2).1 = .drop .unroutableUnicast ∧
    process env st frame.1 frame.2 = (.drop .unroutableUnicast, st))

/-- A part is routed as it stands in the aggregate. -/
theorem process_part (buf : Buffer) (desc : RxDescriptor) {part : Bytes}
    (fits : part.length < 2 ^ 16) :
    ∃ p, p.frame = ((⟨part, .rx, buf.flags, buf.priority⟩ : Frame).mark
        BufferFlags.amsduSubframe) ∧
      ∀ env st, process env st (Aggregate.partBuffer buf part) (desc.forSubframe part.length) =
        route env st p := by
  have isData : (desc.forSubframe part.length).frameClass = some .data :=
    FrameClass.ofCode?_code .data
  have size : (desc.forSubframe part.length).pktLength.toNat =
      (Aggregate.partBuffer buf part).size := by
    rw [← Buffer.length_window, Aggregate.window_partBuffer]
    exact UInt16.toNat_ofNat_of_lt' fits
  obtain ⟨p, hp, frame⟩ := strip_whole (by rfl) size
  refine ⟨p, ?_, fun env st => process_data isData hp env st⟩
  rw [frame, Buffer.frame, Aggregate.window_partBuffer]
  rfl

theorem process_part_agree_iff (env : Env) (st : State) {buf : Buffer} (desc : RxDescriptor)
    {m : Msdu} (convertible : m.Convertible) (fits : m.part.length < 2 ^ 16)
    {frame : Buffer × RxDescriptor} (carries : Carries buf m frame) :
    Agree BufferFlags.amsduSubframe
        (process env st (Aggregate.partBuffer buf m.part) (desc.forSubframe m.part.length))
        (process env st frame.1 frame.2) ↔
      TreatedAlike env st m
        (Aggregate.partBuffer buf m.part, desc.forSubframe m.part.length) frame := by
  obtain ⟨isData, q, hq, qFrame⟩ := carries
  obtain ⟨p, pFrame, routed⟩ := process_part buf desc fits
  have short : m.body.length < 2 ^ 16 := by
    rw [Msdu.part, m.length_framed] at fits
    omega
  rw [TreatedAlike, routed, process_data isData hq, ← ofNat_lt_minEtherType short]
  refine route_agree_iff env st convertible ?_ (congrArg Frame.bytes qFrame)
  rw [pFrame, qFrame]
  rfl

/-! ## All parts -/

/-- Each part of an aggregate and the frame with the same packet are treated alike in the state that
the frames before it leave. -/
def AllTreatedAlike (env : Env) (buf : Buffer) (desc : RxDescriptor) :
    State → List Msdu → List (Buffer × RxDescriptor) → Prop
  | st, m :: ms, frame :: frames =>
    TreatedAlike env st m (Aggregate.partBuffer buf m.part, desc.forSubframe m.part.length) frame ∧
      AllTreatedAlike env buf desc (process env st frame.1 frame.2).2 ms frames
  | _, _, _ => True

theorem steps_agree_iff (env : Env) (st : State) {buf : Buffer} (desc : RxDescriptor)
    {msdus : List Msdu} (convertible : ∀ m ∈ msdus, m.Convertible)
    (fits : ∀ m ∈ msdus, m.part.length < 2 ^ 16) {frames : List (Buffer × RxDescriptor)}
    (carries : List.Forall₂ (Carries buf) msdus frames) :
    List.Forall₂ (Agree BufferFlags.amsduSubframe)
        (steps env st (partFrames buf desc (msdus.map Msdu.part))) (steps env st frames) ↔
      AllTreatedAlike env buf desc st msdus frames := by
  induction carries generalizing st with
  | nil => exact iff_of_true .nil trivial
  | @cons m frame msdus frames first rest ih =>
    have tail (st : State) := ih st (fun n h => convertible n (List.mem_cons_of_mem _ h))
      fun n h => fits n (List.mem_cons_of_mem _ h)
    have head := process_part_agree_iff env st desc (convertible m List.mem_cons_self)
      (fits m List.mem_cons_self) first
    show List.Forall₂ _ (_ :: _) (_ :: _) ↔ _
    rw [List.forall₂_cons, AllTreatedAlike, ← head]
    -- Parts and frames reach the same states as long as they are treated alike.
    constructor
    · rintro ⟨agree, agrees⟩
      rw [agree.2] at agrees
      exact ⟨agree, (tail _).1 agrees⟩
    · rintro ⟨agree, alike⟩
      refine ⟨agree, ?_⟩
      rw [agree.2]
      exact (tail _).2 alike

/-- **Aggregates and Ethernet-II frames.** Let an aggregate be put together from packets behind SNAP
headers that can be dropped, and let frames carry the same packets behind Ethernet-II headers, with
the flags and the priority of the aggregate. Processing the aggregate gives one outcome for each
part in order, each in the state that the parts before it leave. Up to the flag of a part these are
the outcomes of the frames processed one after the other, and the states on the way are the same, if
and only if each packet is treated alike: its body is shorter than 0x0600 octets, or it is dropped
in both forms because nobody knows the destination. -/
theorem processAll_agree_iff (env : Env) (st : State) {buf : Buffer} {desc : RxDescriptor}
    (isAmsdu : desc.frameClass = some .amsdu) {payload : Bytes}
    (hp : desc.payload? buf.window = some payload) {msdus : List Msdu}
    (convertible : ∀ m ∈ msdus, m.Convertible)
    (joins : Aggregate.Joins [] (msdus.map Msdu.part) payload)
    {frames : List (Buffer × RxDescriptor)} (carries : List.Forall₂ (Carries buf) msdus frames) :
    let parts := steps env st (partFrames buf desc (msdus.map Msdu.part))
    processAll env st buf desc = (parts.map Prod.fst, (parts.map Prod.snd).getLastD st) ∧
      (List.Forall₂ (Agree BufferFlags.amsduSubframe) parts (steps env st frames) ↔
        AllTreatedAlike env buf desc st msdus frames) := by
  intro parts
  have total : payload.length < 2 ^ 16 := length_payload? hp
  have fits : ∀ m ∈ msdus, m.part.length < 2 ^ 16 := by
    intro m hm
    exact Nat.lt_of_le_of_lt (joins.laid.length_le _ (List.mem_map_of_mem hm)) total
  have areParts : ∀ p ∈ msdus.map Msdu.part, Aggregate.IsPart p := by
    intro p mem
    obtain ⟨m, hm, rfl⟩ := List.mem_map.1 mem
    have short := fits m hm
    rw [Msdu.part, m.length_framed] at short
    exact m.isPart (by omega)
  exact ⟨processAll_joins env st isAmsdu hp joins areParts,
    steps_agree_iff env st desc convertible fits carries⟩

/-! ## Aggregates of both kinds -/

theorem payload?_covering (frameClass : FrameClass) {payload : Bytes}
    (fits : payload.length < 2 ^ 16) :
    (covering frameClass payload).payload? (Buffer.ofBytes .rx payload).window = some payload := by
  have size : (covering frameClass payload).pktLength.toNat = payload.length :=
    UInt16.toNat_ofNat_of_lt' fits
  have start : (covering frameClass payload).pktOffset.toNat = 0 := rfl
  rw [Buffer.window_ofBytes, RxDescriptor.payload?, Bytes.slice?, size, start]
  simp [Bytes.slice]

/-- A packet as a received data frame. -/
def dataFrame (m : Msdu) : Buffer × RxDescriptor :=
  (Buffer.ofBytes .rx m.ethernet, covering .data m.ethernet)

theorem carries_dataFrame {m : Msdu} (fits : m.ethernet.length < 2 ^ 16) (payload : Bytes) :
    Carries (Buffer.ofBytes .rx payload) m (dataFrame m) :=
  ⟨rfl, strip_covering .rx .data m.ethernet fits⟩

/-- An aggregate of two short packets, the first with one octet of padding. -/
theorem processAll_agree_iff_short :
    let payload := (zeros 1).part ++ ([0] ++ (zeros 2).part)
    let buf := Buffer.ofBytes .rx payload
    let parts := steps accessPoint quiet
      (partFrames buf (covering .amsdu payload) [(zeros 1).part, (zeros 2).part])
    List.Forall₂ (Agree BufferFlags.amsduSubframe) parts
      (steps accessPoint quiet [dataFrame (zeros 1), dataFrame (zeros 2)]) := by
  intro payload buf parts
  have convertible : ∀ m ∈ [zeros 1, zeros 2], m.Convertible := by
    intro m hm
    rcases List.mem_cons.1 hm with rfl | hm
    · exact zeros_convertible 1
    · obtain rfl := List.mem_singleton.1 hm
      exact zeros_convertible 2
  have joins : Aggregate.Joins [] [(zeros 1).part, (zeros 2).part] payload :=
    .cons _ [0] (by decide) (.last _ rfl)
  exact ((processAll_agree_iff accessPoint quiet rfl
    (payload?_covering .amsdu (by decide)) convertible joins
    (.cons (carries_dataFrame (by decide) payload)
      (.cons (carries_dataFrame (by decide) payload) .nil))).2).2
    ⟨.inl (by decide), .inl (by decide), trivial⟩

/-- An aggregate of one packet whose body has 0x0600 octets: the part is delivered with its SNAP
header. -/
theorem processAll_long :
    let payload := (zeros 1528).part
    ¬ List.Forall₂ (Outcome.Alike (Marks BufferFlags.amsduSubframe))
      (processAll accessPoint quiet (Buffer.ofBytes .rx payload) (covering .amsdu payload)).1
      [(process accessPoint quiet (dataFrame (zeros 1528)).1 (dataFrame (zeros 1528)).2).1] := by
  intro payload alike
  have body : (zeros 1528).body.length = 1536 := length_zeros 1528
  have part : (zeros 1528).part.length < 2 ^ 16 := by
    rw [Msdu.part, Msdu.length_framed, body]
    decide
  have ethernet : (zeros 1528).ethernet.length < 2 ^ 16 := by
    rw [Msdu.length_ethernet, length_payload_zeros]
    decide
  have parts : ∀ p ∈ [(zeros 1528).part], Aggregate.IsPart p := by
    intro p hp
    obtain rfl := List.mem_singleton.1 hp
    exact Msdu.isPart (by rw [body]; decide)
  rw [processAll_joins accessPoint quiet rfl (payload?_covering .amsdu part) (.last _ rfl) parts]
    at alike
  obtain ⟨p, pFrame, routed⟩ := process_part (Buffer.ofBytes .rx payload)
    (covering .amsdu payload) part
  obtain ⟨q, hq, qFrame⟩ := strip_covering .rx .data (zeros 1528).ethernet ethernet
  have head : (route accessPoint quiet p).1.Alike (Marks BufferFlags.amsduSubframe)
      (route accessPoint quiet q).1 := by
    rw [← routed, ← process_data rfl hq]
    exact (List.forall₂_cons.1 alike).1
  exact not_alike_zeros (congrArg Frame.bytes pFrame) (congrArg Frame.bytes qFrame)
    (by rw [body]; decide) head

end Ingress

end Airlink
