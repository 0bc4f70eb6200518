import Airlink.Proofs.Processing

/-!
# Frames that stand for one another

Ingress goes by the octets of a frame. It does the same to frames in related buffers, if the
relation is kept when the same is done to both (`Buffer.Congruence`): they meet the same fate, in
outcomes with related buffers, and leave the same state (`process_agree`, `processAll_agree`). Flags
are never looked at, so that a frame with flags set meets the fate of the frame without them, in
outcomes that differ by those flags only.

Two forms of a frame are compared by this. A packet is treated alike behind an Ethernet-II header
and behind an 802.3 header with any length and a SNAP header that can be dropped
(`process_either_header`). And an aggregate is treated like its parts, each received as a frame of
its own, with one drop more for a tail that is no part (`processAll_parts_alone`).
-/

namespace Airlink

/-! ## Operations on related frames -/

namespace Buffer.Congruence

variable {r : Buffer → Buffer → Prop} {b c : Buffer}

theorem toEthernet (cong : Congruence r) (h : r b c) :
    Parallel (fun x y => x.1 = y.1 ∧ r x.2 y.2) b.toEthernet c.toEthernet := by
  unfold Buffer.toEthernet Buffer.require
  rw [cong.window h, cong.size h]
  refine (Parallel.refl _).bind fun _ _ _ => ?_
  dsimp only
  split
  · exact .ok ⟨rfl, h⟩
  · split
    · exact .ok ⟨rfl, h⟩
    · split
      · exact (cong.advance (cong.overwrite h _ _) _).bind fun _ _ moved => .ok ⟨rfl, moved⟩
      · exact .ok ⟨rfl, h⟩

theorem dot11To8023 (cong : Congruence r) (h : r b c) :
    Parallel (fun x y => x.1 = y.1 ∧ r x.2 y.2) b.dot11To8023 c.dot11To8023 := by
  unfold Buffer.dot11To8023
  rw [cong.window h, cong.size h]
  refine (Parallel.refl _).bind fun header _ same => ?_
  subst same
  dsimp only
  split
  · exact .error _
  · exact (cong.advance (cong.overwrite h _ _) _).bind fun _ _ moved => .ok ⟨rfl, moved⟩

theorem strip (cong : Congruence r) (h : r b c) (desc : RxDescriptor) :
    Parallel r (Ingress.strip b desc) (Ingress.strip c desc) := by
  unfold Ingress.strip
  obtain ⟨e, hb, hc⟩ | ⟨b', c', hb, hc, moved⟩ := (cong.advance h desc.pktOffset.toNat).cases
  · rw [hb, hc]
    exact .error e
  · rw [hb, hc]
    exact .ok (cong.truncate moved _)

theorem monitorInPlace (cong : Congruence r) (h : r b c) (desc : RxDescriptor) :
    r (Ingress.monitorInPlace b desc) (Ingress.monitorInPlace c desc) := by
  unfold Ingress.monitorInPlace
  rw [cong.window h]
  exact cong.flag (cong.prepend (cong.retype h _) _) _

end Buffer.Congruence

/-! ## Processing related frames -/

namespace Ingress

variable {r : Buffer → Buffer → Prop} {b c : Buffer}

theorem route_agree (cong : Buffer.Congruence r) (env : Env) (st : State) (h : r b c) :
    AgreeBy r (route env st b) (route env st c) := by
  obtain ⟨e, hb, hc⟩ | ⟨⟨translation, b'⟩, ⟨translation', c'⟩, hb, hc, same, moved⟩ :=
    (cong.toEthernet h).cases
  · simp only [route, hb, hc]
    exact ⟨.drop _, rfl⟩
  · obtain rfl : translation = translation' := same
    rw [route_of_toEthernet env st hb, route_of_toEthernet env st hc, cong.window moved]
    exact conclude_agree cong env st moved _

theorem processRaw_agree (cong : Buffer.Congruence r) (env : Env) (st : State) (h : r b c)
    (desc : RxDescriptor) : AgreeBy r (processRaw env st b desc) (processRaw env st c desc) := by
  unfold processRaw
  split
  · split
    · exact ⟨.monitor (cong.monitorInPlace h desc), rfl⟩
    · exact ⟨.drop _, rfl⟩
  · obtain ⟨e, hb, hc⟩ | ⟨⟨header, b'⟩, ⟨header', c'⟩, hb, hc, -, moved⟩ :=
      (cong.dot11To8023 h).cases
    · rw [hb, hc]
      exact ⟨.drop _, rfl⟩
    · rw [hb, hc]
      exact route_agree cong env st moved

theorem withPayload_agree (cong : Buffer.Congruence r) (st : State) (h : r b c)
    (desc : RxDescriptor) {next : Buffer → Outcome × State}
    (after : ∀ {p q : Buffer}, r p q → AgreeBy r (next p) (next q)) :
    AgreeBy r (withPayload st b desc next) (withPayload st c desc next) := by
  unfold withPayload
  obtain ⟨e, hb, hc⟩ | ⟨p, q, hb, hc, moved⟩ := (cong.strip h desc).cases
  · rw [hb, hc]
    exact ⟨.drop _, rfl⟩
  · rw [hb, hc]
    exact after moved

/-- Single frames in related buffers are processed alike. -/
theorem process_agree (cong : Buffer.Congruence r) (env : Env) (st : State) (h : r b c)
    (desc : RxDescriptor) : AgreeBy r (process env st b desc) (process env st c desc) := by
  unfold process
  split
  · exact ⟨.drop _, rfl⟩
  · exact withPayload_agree cong st h desc fun moved => by
      rw [cong.window moved]
      exact ⟨.event _, rfl⟩
  · split
    · exact withPayload_agree cong st h desc fun moved => by
        rw [cong.window moved]
        exact ⟨.event _, rfl⟩
    · exact ⟨.drop _, rfl⟩
  · exact ⟨.drop _, rfl⟩
  · exact ⟨.drop _, rfl⟩
  · exact withPayload_agree cong st h desc fun moved => processRaw_agree cong env st moved desc
  · exact withPayload_agree cong st h desc fun moved => route_agree cong env st moved

/-! ## Frames one after the other -/

/-- Two frames are processed alike, whatever the state. -/
def InterchangeableBy (r : Buffer → Buffer → Prop) (f g : Buffer × RxDescriptor) : Prop :=
  ∀ env st, AgreeBy r (process env st f.1 f.2) (process env st g.1 g.2)

/-- The second of two frames is processed like the first without some of its flags, whatever the
state. -/
def Interchangeable (bits : UInt32) (f g : Buffer × RxDescriptor) : Prop :=
  ∀ env st, Agree bits (process env st f.1 f.2) (process env st g.1 g.2)

/-- Frames that stand for one another also do so in a row, since they leave the same states. -/
theorem steps_agree (env : Env) (st : State) {fs gs : List (Buffer × RxDescriptor)}
    (h : List.Forall₂ (InterchangeableBy r) fs gs) :
    List.Forall₂ (AgreeBy r) (steps env st fs) (steps env st gs) := by
  induction h generalizing st with
  | nil => exact .nil
  | @cons f g fs gs head tail ih =>
    have first := head env st
    refine .cons first ?_
    rw [first.2]
    exact ih _

/-- The state at the end is the same, too. -/
theorem getLastD_eq_of_agree {xs ys : List (Outcome × State)}
    (h : List.Forall₂ (AgreeBy r) xs ys) (st : State) :
    (xs.map Prod.snd).getLastD st = (ys.map Prod.snd).getLastD st := by
  have same : xs.map Prod.snd = ys.map Prod.snd := by
    induction h with
    | nil => rfl
    | cons first rest ih => rw [List.map_cons, List.map_cons, first.2, ih]
  rw [same]

theorem outcomes_alike_of_agree {xs ys : List (Outcome × State)}
    (h : List.Forall₂ (AgreeBy r) xs ys) :
    List.Forall₂ (Outcome.Alike r) (xs.map Prod.fst) (ys.map Prod.fst) := by
  induction h with
  | nil => exact .nil
  | cons first rest ih => exact .cons first.1 ih

/-- **Aggregates.** Frames in related buffers that may be aggregates are processed alike. -/
theorem processAll_agree (cong : Buffer.Congruence r) (env : Env) (st : State) (h : r b c)
    (desc : RxDescriptor) :
    List.Forall₂ (Outcome.Alike r) (processAll env st b desc).1 (processAll env st c desc).1 ∧
      (processAll env st b desc).2 = (processAll env st c desc).2 := by
  have parts (bodies : List Bytes) : List.Forall₂ (InterchangeableBy r)
      (partFrames b desc bodies) (partFrames c desc bodies) := by
    unfold partFrames
    induction bodies with
    | nil => exact .nil
    | cons part bodies ih =>
      have renewed : r (Aggregate.partBuffer b part) (Aggregate.partBuffer c part) :=
        cong.renew h part BufferFlags.amsduSubframe
      exact .cons (fun env st => process_agree cong env st renewed _) ih
  have singles : List.Forall₂ (InterchangeableBy r) (frames b desc) (frames c desc) := by
    unfold frames
    rw [cong.window h]
    split
    · cases desc.payload? c.window with
      | none => exact .nil
      | some payload => exact parts _
    · exact .cons (fun env st => process_agree cong env st h desc) .nil
  have tails : tail b desc = tail c desc := by
    unfold tail
    rw [cong.window h]
  have drops : List.Forall₂ (Outcome.Alike r) (tail c desc) (tail c desc) := by
    refine List.forall₂_same.2 fun outcome mem => ?_
    obtain ⟨reason, rfl, -⟩ := mem_tail mem
    exact .drop reason
  have agree := steps_agree env st singles
  rw [processAll_eq, processAll_eq, tails]
  exact ⟨List.rel_append (outcomes_alike_of_agree agree) drops, getLastD_eq_of_agree agree st⟩

/-! ## Either header -/

/-- **Headers.** A data frame with a packet behind an 802.3 header, with any length below 0x0600 and
a SNAP header that can be dropped, and a data frame with the same packet behind an Ethernet-II
header, with the same direction, flags and priority, are treated alike: the same outcome with the
same frames in its buffers, the same stations, the same reports. -/
theorem process_either_header (env : Env) (st : State) {framed plain p q : Buffer}
    {d e : RxDescriptor} (framedData : d.frameClass = some .data)
    (plainData : e.frameClass = some .data) (hp : strip framed d = .ok p)
    (hq : strip plain e = .ok q) {m : Msdu} (convertible : m.Convertible) {length : UInt16}
    (short : length < Translation.minEtherType) (ethernet : q.window = m.ethernet)
    (same : p.frame = { q.frame with bytes := m.framed length }) :
    Agree 0 (process env st framed d) (process env st plain e) := by
  rw [process_data framedData hp, process_data plainData hq]
  exact route_short env st convertible (by rw [same, Frame.mark_zero]) ethernet short

/-- A station with the usual settings. -/
def station : Env :=
  { accessPoint with settings := { accessPoint.settings with role := .station } }

/-- A request to set up a direct link, with a length field that says nothing of its length: the
station learns about the peer and reports it, as with the Ethernet-II frame. -/
theorem process_either_header_setup :
    let setup : Msdu := ⟨⟨2, 0, 0, 0, 0, 1⟩, ⟨2, 0, 0, 0, 0, 0xa⟩,
      .ofEtherType EtherType.dot11Encap, [2, 12, 0, 1, 0, 0, 45, 2, 0, 0]⟩
    let framed := setup.framed 0x05ff
    let plain := setup.ethernet
    let taken := process station quiet (Buffer.ofBytes .rx framed) (covering .data framed)
    Agree 0 taken (process station quiet (Buffer.ofBytes .rx plain) (covering .data plain)) ∧
      taken.2.reports.length = 1 := by
  intro setup framed plain taken
  obtain ⟨p, hp, frame⟩ := strip_covering .rx .data framed (by decide)
  obtain ⟨q, hq, frame'⟩ := strip_covering .rx .data plain (by decide)
  have short : (0x05ff : UInt16) < Translation.minEtherType := by decide
  exact ⟨process_either_header station quiet rfl rfl hp hq ⟨rfl, by decide⟩ short
    (congrArg Frame.bytes frame') (by rw [frame, frame']), by decide⟩

end Ingress

namespace Ingress

/-! ## Aggregates and their parts -/

/-- A data frame received on its own has a part of an aggregate as its payload, and the flags and
the priority of the aggregate. -/
structure PartAlone (buf : Buffer) (part : Bytes) (frame : Buffer × RxDescriptor) : Prop where
  isData : frame.2.frameClass = some .data
  payload : ∃ q, strip frame.1 frame.2 = .ok q ∧ q.frame = ⟨part, .rx, buf.flags, buf.priority⟩

/-- A part stands for the frame with the same octets, but for the flag of a part. -/
theorem PartAlone.interchangeable {buf : Buffer} {part : Bytes} {frame : Buffer × RxDescriptor}
    (h : PartAlone buf part frame) (desc : RxDescriptor) (fits : part.length < 2 ^ 16) :
    Interchangeable BufferFlags.amsduSubframe
      (Aggregate.partBuffer buf part, desc.forSubframe part.length) frame := by
  obtain ⟨isData, q, hq, qFrame⟩ := h
  obtain ⟨p, pFrame, routed⟩ := process_part buf desc fits
  intro env st
  rw [routed, process_data isData hq]
  have marks : Marks BufferFlags.amsduSubframe p q := by rw [Marks, pFrame, qFrame]
  exact route_agree (Marks.congruence _) env st marks

theorem interchangeable_partFrames {buf : Buffer} (desc : RxDescriptor) {parts : List Bytes}
    {alone : List (Buffer × RxDescriptor)} (each : List.Forall₂ (PartAlone buf) parts alone)
    (fits : ∀ part ∈ parts, part.length < 2 ^ 16) :
    List.Forall₂ (Interchangeable BufferFlags.amsduSubframe) (partFrames buf desc parts) alone := by
  induction each with
  | nil => exact .nil
  | cons first rest ih =>
    exact .cons (first.interchangeable desc (fits _ List.mem_cons_self))
      (ih fun part mem => fits part (List.mem_cons_of_mem _ mem))

/-- **Parts.** Let an aggregate consist of parts with their padding, and of a rest that is no part.
Processing it gives, in order, the outcomes of its parts received one after the other as data frames
of their own, each in the state that the one before it left, up to the flag of a part; and then a
drop if there is a rest. The state at the end is the same, with the same reports, and no part is
longer than its descriptor can say. -/
theorem processAll_parts_alone (env : Env) (st : State) {buf : Buffer} {desc : RxDescriptor}
    (isAmsdu : desc.frameClass = some .amsdu) {payload : Bytes}
    (hp : desc.payload? buf.window = some payload) {parts : List Bytes} {rest : Bytes}
    (laid : Aggregate.Laid rest parts payload) (areParts : ∀ part ∈ parts, Aggregate.IsPart part)
    (noPart : Aggregate.NoPart rest) {alone : List (Buffer × RxDescriptor)}
    (each : List.Forall₂ (PartAlone buf) parts alone) :
    let received := steps env st alone
    (∃ outcomes, (processAll env st buf desc).1 =
        outcomes ++ (if rest = [] then [] else [.drop .truncated]) ∧
      List.Forall₂ (Outcome.Alike (Marks BufferFlags.amsduSubframe)) outcomes
        (received.map Prod.fst)) ∧
    (processAll env st buf desc).2 = (received.map Prod.snd).getLastD st ∧
    ∀ part ∈ parts, (desc.forSubframe part.length).pktLength.toNat = part.length := by
  intro received
  have total : payload.length < 2 ^ 16 := length_payload? hp
  have fits : ∀ part ∈ parts, part.length < 2 ^ 16 := fun part mem =>
    Nat.lt_of_le_of_lt (laid.length_le part mem) total
  have cut := Aggregate.cut_laid laid areParts (Aggregate.partSize?_eq_none_iff.2 noPart)
  have single : frames buf desc = partFrames buf desc parts := by
    simp only [frames, if_pos isAmsdu, hp, Option.map_some, Option.getD_some, cut]
  have left : tail buf desc = if rest = [] then [] else [.drop .truncated] := by
    simp only [tail, if_pos isAmsdu, hp, cut]
    cases rest <;> rfl
  have agree := steps_agree env st (interchangeable_partFrames desc each fits)
  rw [processAll_eq, single, left]
  exact ⟨⟨_, rfl, outcomes_alike_of_agree agree⟩, getLastD_eq_of_agree agree st,
    fun part mem => UInt16.toNat_ofNat_of_lt' (fits part mem)⟩

/-- A part as a received data frame. -/
def partFrame (part : Bytes) : Buffer × RxDescriptor :=
  (Buffer.ofBytes .rx part, covering .data part)

theorem partAlone_partFrame {part : Bytes} (fits : part.length < 2 ^ 16) (payload : Bytes) :
    PartAlone (Buffer.ofBytes .rx payload) part (partFrame part) :=
  ⟨rfl, strip_covering .rx .data part fits⟩

/-- An aggregate of two packets, the first with one octet of padding, and a tail of three octets. -/
theorem processAll_parts_alone_tail :
    let payload := (zeros 1).part ++ ([0xff] ++ ((zeros 2).part ++ ([] ++ [1, 2, 3])))
    let outcomes := (processAll accessPoint quiet (Buffer.ofBytes .rx payload)
      (covering .amsdu payload)).1
    ∃ first second, outcomes = [first, second, .drop .truncated] ∧
      List.Forall₂ (Outcome.Alike (Marks BufferFlags.amsduSubframe)) [first, second]
        ((steps accessPoint quiet [partFrame (zeros 1).part, partFrame (zeros 2).part]).map
          Prod.fst) := by
  intro payload outcomes
  have areParts : ∀ part ∈ [(zeros 1).part, (zeros 2).part], Aggregate.IsPart part := by
    intro part mem
    simp only [List.mem_cons, List.not_mem_nil, or_false] at mem
    rcases mem with rfl | rfl
    · exact Msdu.isPart (by decide)
    · exact Msdu.isPart (by decide)
  have laid : Aggregate.Laid [1, 2, 3] [(zeros 1).part, (zeros 2).part] payload :=
    .cons _ [0xff] (by decide) (.cons _ [] (by decide) .nil)
  have each : List.Forall₂ (PartAlone (Buffer.ofBytes .rx payload))
      [(zeros 1).part, (zeros 2).part] [partFrame (zeros 1).part, partFrame (zeros 2).part] :=
    .cons (partAlone_partFrame (by decide) payload)
      (.cons (partAlone_partFrame (by decide) payload) .nil)
  obtain ⟨⟨parts, all, alike⟩, -, -⟩ := processAll_parts_alone accessPoint quiet rfl
    (payload?_covering .amsdu (by decide)) laid areParts (.inl (by decide)) each
  obtain ⟨first, second, rfl⟩ : ∃ first second, parts = [first, second] :=
    List.length_eq_two.1 alike.length_eq
  exact ⟨first, second, all, alike⟩

end Ingress

end Airlink
