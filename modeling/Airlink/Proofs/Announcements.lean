import Airlink.Proofs.Bytes
import Airlink.Tdls
import Mathlib.Data.List.Basic
import Mathlib.Data.Nat.Bitwise

/-!
# What stations announce

A sequence of elements is cut into the elements that were put together, up to octets that hold no
whole element (`Element.cut_encodeAll_append`), and every sequence of octets is made up so
(`Element.exists_encodeAll`). So what a sequence announces is a matter of which elements are in it,
and not of their order, nor of how often one of them is there (`Capabilities.has_ofElements_iff`).

A direct-link frame is read just if it is laid out as its action asks (`Tdls.parse?_eq_some_iff`).
Unless it ends or refuses a link, it announces what its elements do, and direct links.
-/

namespace Airlink

/-! ## Sets of capabilities -/

namespace Capabilities

/-- The capabilities one by one. -/
def singles : List Capabilities := [legacy, ht, vht, he, ampdu, qos, extended, directLink]

/-- Each capability has a bit of its own. -/
theorem exists_bit {c : Capabilities} (h : c ∈ singles) : ∃ i < 8, c.bits.toNat = 2 ^ i := by
  revert c
  decide

/-- Each bit is that of a capability. -/
theorem exists_single {i : Nat} (h : i < 8) : ∃ c ∈ singles, c.bits.toNat = 2 ^ i := by
  revert i
  decide

/-- A set has a capability just if its bit is set. -/
theorem has_iff_testBit (a : Capabilities) {c : Capabilities} {i : Nat}
    (bit : c.bits.toNat = 2 ^ i) : a.has c = true ↔ a.bits.toNat.testBit i = true := by
  rw [has, beq_iff_eq, ← UInt8.toNat_inj, UInt8.toNat_and, bit, Nat.and_two_pow]
  cases a.bits.toNat.testBit i with
  | true => simp
  | false => simpa using (Nat.two_pow_pos i).ne

/-- What two sets have together. -/
theorem has_union_iff {a b c : Capabilities} (h : c ∈ singles) :
    (a.union b).has c = true ↔ a.has c = true ∨ b.has c = true := by
  obtain ⟨i, -, bit⟩ := exists_bit h
  rw [has_iff_testBit _ bit, has_iff_testBit _ bit, has_iff_testBit _ bit, union, UInt8.toNat_or,
    Nat.testBit_or, Bool.or_eq_true]

/-- Sets that have the same capabilities are one. -/
theorem ext_of_has {a b : Capabilities}
    (h : ∀ c ∈ singles, a.has c = true ↔ b.has c = true) : a = b := by
  have same : a.bits.toNat = b.bits.toNat := by
    refine Nat.eq_of_testBit_eq fun i => ?_
    by_cases inside : i < 8
    · obtain ⟨c, single, bit⟩ := exists_single inside
      rw [Bool.eq_iff_iff, ← has_iff_testBit a bit, ← has_iff_testBit b bit]
      exact h c single
    · have outside (bits : UInt8) : bits.toNat.testBit i = false := by
        have large : 2 ^ 8 ≤ 2 ^ i := Nat.pow_le_pow_right (by decide) (Nat.not_lt.1 inside)
        exact Nat.testBit_lt_two_pow (bits.toNat_lt.trans_le large)
      rw [outside, outside]
  cases a
  cases b
  exact congrArg mk (UInt8.toNat_inj.1 same)

/-- The capabilities are different from each other. -/
theorem has_single_iff {a c : Capabilities} (ha : a ∈ singles) (hc : c ∈ singles) :
    a.has c = true ↔ a = c := by
  have table : ∀ a ∈ singles, ∀ c ∈ singles, a.has c = true ↔ a = c := by decide
  exact table a ha c hc

theorem has_none {c : Capabilities} (h : c ∈ singles) : ¬ none.has c = true := by
  revert c
  decide

/-- A set to which direct links were added is not empty. -/
theorem isEmpty_union_directLink (a : Capabilities) : (a.union directLink).isEmpty = false := by
  by_contra empty
  have bits : (a.union directLink).bits = 0 := by simpa [isEmpty] using empty
  have mem : directLink ∈ singles := by decide
  have there : (a.union directLink).has directLink = true :=
    (has_union_iff mem).2 (.inr (has_self directLink))
  rw [has, bits] at there
  exact absurd there (by decide)

end Capabilities

/-! ## Elements one behind the other -/

namespace Element

/-- Elements one behind the other. -/
def encodeAll (es : List Element) : Bytes := es.flatMap encode

/-- Octets that hold no whole element. -/
inductive CutShort : Bytes → Prop where
  | nil : CutShort []
  | single (id : UInt8) : CutShort [id]
  | short {id length : UInt8} {rest : Bytes} (missing : rest.length < length.toNat) :
      CutShort (id :: length :: rest)

theorem cut_of_cutShort {tail : Bytes} (h : CutShort tail) : cut tail = [] := by
  cases h with
  | nil | single => simp [cut]
  | short missing => rw [cut, if_pos missing]

/-- The first element is found where its length field says how long its body is. -/
theorem cut_encode_append {e : Element} (fits : e.body.length ≤ 255) (rest : Bytes) :
    cut (e.encode ++ rest) = e :: cut rest := by
  have length : (UInt8.ofNat e.body.length).toNat = e.body.length :=
    UInt8.toNat_ofNat_of_lt' (Nat.lt_of_le_of_lt fits (by decide))
  have whole : ¬ (e.body ++ rest).length < e.body.length := by simp
  rw [encode, List.cons_append, List.cons_append, cut, length, if_neg whole, List.take_left' rfl,
    List.drop_left' rfl]

/-- **Cutting.** The elements that were put together are found again. -/
theorem cut_encodeAll_append {es : List Element} (fit : ∀ e ∈ es, e.body.length ≤ 255)
    {tail : Bytes} (short : CutShort tail) : cut (encodeAll es ++ tail) = es := by
  induction es with
  | nil => exact cut_of_cutShort short
  | cons e es ih =>
    obtain ⟨first, others⟩ := List.forall_mem_cons.1 fit
    rw [encodeAll, List.flatMap_cons, List.append_assoc, cut_encode_append first]
    exact congrArg (e :: ·) (ih others)

/-- Every sequence of octets is made up of elements and of octets that hold none. -/
theorem exists_encodeAll (data : Bytes) :
    ∃ es tail, (∀ e ∈ es, e.body.length ≤ 255) ∧ CutShort tail ∧ data = encodeAll es ++ tail := by
  induction data using cut.induct with
  | case1 id length rest missing => exact ⟨[], _, by simp, .short missing, rfl⟩
  | case2 id length rest whole ih =>
    obtain ⟨es, tail, fit, short, rest_eq⟩ := ih
    have size : (rest.take length.toNat).length = length.toNat :=
      List.length_take_of_le (Nat.not_lt.1 whole)
    refine ⟨⟨id, rest.take length.toNat⟩ :: es, tail, List.forall_mem_cons.2 ⟨?_, fit⟩, short, ?_⟩
    · rw [size]
      exact Nat.le_of_lt_succ length.toNat_lt
    · rw [encodeAll, List.flatMap_cons, encode, size, UInt8.ofNat_toNat, List.append_assoc,
        ← encodeAll, ← rest_eq]
      change id :: length :: rest = id :: length :: (rest.take length.toNat ++ _)
      rw [List.take_append_drop]
  | case3 data other =>
    refine ⟨[], data, by simp, ?_, rfl⟩
    match data with
    | [] => exact .nil
    | [id] => exact .single id
    | id :: length :: rest => exact (other id length rest rfl).elim

/-! ## What an element announces -/

/-- A capability that an element announces. -/
inductive Announces : Element → Capabilities → Prop where
  | ht (body : Bytes) : Announces ⟨htId, body⟩ .ht
  /-- Who has HT modulation takes aggregates of frames. -/
  | ampdu (body : Bytes) : Announces ⟨htId, body⟩ .ampdu
  | qos (body : Bytes) : Announces ⟨qosId, body⟩ .qos
  | extended (body : Bytes) : Announces ⟨extendedId, body⟩ .extended
  | vht (body : Bytes) : Announces ⟨vhtId, body⟩ .vht
  | he (body : Bytes) : Announces ⟨extensionId, heExtension :: body⟩ .he
  | wmm (body : Bytes) : Announces ⟨vendorId, wmm ++ body⟩ .qos

/-- An element announces the capabilities that it is read as. -/
theorem has_capabilities_iff {e : Element} {c : Capabilities} (h : c ∈ Capabilities.singles) :
    e.capabilities.has c = true ↔ e.Announces c := by
  obtain ⟨id, body⟩ := e
  constructor
  · have only {a : Capabilities} (single : a ∈ Capabilities.singles) (has : a.has c = true) :
        a = c := (Capabilities.has_single_iff single h).1 has
    unfold capabilities
    dsimp only
    split
    · next isHt =>
      intro has
      rcases (Capabilities.has_union_iff h).1 has with has | has
      · exact only (by decide) has ▸ isHt ▸ .ht body
      · exact only (by decide) has ▸ isHt ▸ .ampdu body
    split
    · next isQos => exact fun has => only (by decide) has ▸ isQos ▸ .qos body
    split
    · next isExtended => exact fun has => only (by decide) has ▸ isExtended ▸ .extended body
    split
    · next isVht => exact fun has => only (by decide) has ▸ isVht ▸ .vht body
    split
    · next isExtension =>
      split
      · next named =>
        obtain ⟨rest, rfl⟩ := List.head?_eq_some_iff.1 named
        exact fun has => only (by decide) has ▸ isExtension ▸ .he rest
      · exact fun has => absurd has (Capabilities.has_none h)
    split
    · next isVendor =>
      split
      · next named =>
        obtain ⟨rest, rfl⟩ := List.isPrefixOf_iff_prefix.1 named
        exact fun has => only (by decide) has ▸ isVendor ▸ .wmm rest
      · exact fun has => absurd has (Capabilities.has_none h)
    · exact fun has => absurd has (Capabilities.has_none h)
  · rintro (_ | _ | _ | _ | _ | _ | rest)
    · exact Capabilities.has_union .ht .ampdu
    · exact (by decide : (Capabilities.ht.union .ampdu).has .ampdu = true)
    · exact Capabilities.has_self .qos
    · exact Capabilities.has_self .extended
    · exact Capabilities.has_self .vht
    · exact Capabilities.has_self .he
    · have named : wmm.isPrefixOf (wmm ++ rest) = true :=
        List.isPrefixOf_iff_prefix.2 (List.prefix_append wmm rest)
      change (if wmm.isPrefixOf (wmm ++ rest) then Capabilities.qos else .none).has .qos = true
      rw [if_pos named]
      exact Capabilities.has_self .qos

end Element

open Element (encodeAll CutShort)

namespace Capabilities

/-- What is joined is what one of them has. -/
theorem has_foldl_iff {c : Capabilities} (h : c ∈ singles) (es : List Element)
    (caps : Capabilities) :
    (es.foldl (fun caps e => caps.union e.capabilities) caps).has c = true ↔
      caps.has c = true ∨ ∃ e ∈ es, e.Announces c := by
  induction es generalizing caps with
  | nil => simp
  | cons e es ih =>
    rw [List.foldl_cons, ih, has_union_iff h, Element.has_capabilities_iff h, or_assoc,
      List.exists_mem_cons_iff]

theorem legacy_has_iff {c : Capabilities} (h : c ∈ singles) : legacy.has c = true ↔ c = legacy :=
  (has_single_iff List.mem_cons_self h).trans eq_comm

/-- A sequence announces legacy modulation and what its elements announce. -/
theorem has_ofElements_iff {es : List Element} (fit : ∀ e ∈ es, e.body.length ≤ 255)
    {tail : Bytes} (short : CutShort tail) {c : Capabilities} (h : c ∈ singles) :
    (ofElements (encodeAll es ++ tail)).has c = true ↔
      c = .legacy ∨ ∃ e ∈ es, e.Announces c := by
  rw [ofElements, Element.cut_encodeAll_append fit short, has_foldl_iff h, legacy_has_iff h]

/-- So does an element on its own. -/
theorem has_ofElements_encode_iff {e : Element} (fits : e.body.length ≤ 255) {c : Capabilities}
    (h : c ∈ singles) :
    (ofElements e.encode).has c = true ↔ c = .legacy ∨ e.Announces c := by
  have fit : ∀ e' ∈ [e], e'.body.length ≤ 255 := by simpa using fits
  have alone := has_ofElements_iff fit .nil h
  simpa [encodeAll] using alone

/-- Sequences with the same elements announce the same. -/
theorem ofElements_congr {es es' : List Element} (fit : ∀ e ∈ es, e.body.length ≤ 255)
    (same : ∀ e, e ∈ es' ↔ e ∈ es) {tail tail' : Bytes} (short : CutShort tail)
    (short' : CutShort tail') :
    ofElements (encodeAll es' ++ tail') = ofElements (encodeAll es ++ tail) := by
  have fit' : ∀ e ∈ es', e.body.length ≤ 255 := fun e mem => fit e ((same e).1 mem)
  refine ext_of_has fun c h => ?_
  rw [has_ofElements_iff fit short h, has_ofElements_iff fit' short' h]
  simp only [same]

/-- Further elements add what they announce. -/
theorem ofElements_append {es more : List Element} (fit : ∀ e ∈ es, e.body.length ≤ 255)
    (fit' : ∀ e ∈ more, e.body.length ≤ 255) {tail tail' : Bytes} (short : CutShort tail)
    (short' : CutShort tail') :
    ofElements (encodeAll (es ++ more) ++ tail') =
      (ofElements (encodeAll es ++ tail)).union (ofElements (encodeAll more ++ tail')) := by
  have all : ∀ e ∈ es ++ more, e.body.length ≤ 255 := List.forall_mem_append.2 ⟨fit, fit'⟩
  refine ext_of_has fun c h => ?_
  rw [has_union_iff h, has_ofElements_iff all short' h, has_ofElements_iff fit short h,
    has_ofElements_iff fit' short' h]
  simp only [List.mem_append, or_and_right, exists_or]
  exact or_or_distrib_left

/-- A sequence announces what its elements announce one by one. -/
theorem ofElements_eq_foldr {es : List Element} (fit : ∀ e ∈ es, e.body.length ≤ 255)
    {tail : Bytes} (short : CutShort tail) :
    ofElements (encodeAll es ++ tail) =
      es.foldr (fun e caps => (ofElements e.encode).union caps) .legacy := by
  refine ext_of_has fun c h => ?_
  rw [has_ofElements_iff fit short h]
  clear short
  induction es with
  | nil => simpa using (legacy_has_iff h).symm
  | cons e es ih =>
    obtain ⟨first, others⟩ := List.forall_mem_cons.1 fit
    rw [List.foldr_cons, has_union_iff h, ← ih others, has_ofElements_encode_iff first h,
      List.exists_mem_cons_iff]
    exact or_or_distrib_left

end Capabilities

/-! ## Direct-link frames -/

theorem TdlsAction.ofCode?_eq_some_iff {c : UInt8} {action : TdlsAction} :
    ofCode? c = some action ↔ c = action.code := by
  constructor
  · intro h
    unfold ofCode? at h
    split_ifs at h <;> cases h <;> assumption
  · rintro rfl
    cases action <;> rfl

namespace Tdls

/-- The fixed fields of an action, with the status that they give. -/
inductive FixedFields : TdlsAction → UInt16 → Bytes → Prop where
  /-- A dialog token and two octets of capability information. -/
  | setupRequest (token info info' : UInt8) : FixedFields .setupRequest 0 [token, info, info']
  | setupResponse (status : UInt16) (token info info' : UInt8) :
      FixedFields .setupResponse status (Bytes.ofLe16 status ++ [token, info, info'])
  | setupConfirm (status : UInt16) (token : UInt8) :
      FixedFields .setupConfirm status (Bytes.ofLe16 status ++ [token])
  | teardown (reason : UInt16) : FixedFields .teardown 0 (Bytes.ofLe16 reason)
  | discoveryRequest (token : UInt8) : FixedFields .discoveryRequest 0 [token]

namespace FixedFields

/-- The fixed fields of an action have a size of their own, and the status stands in front. -/
theorem iff_length {action : TdlsAction} {status : UInt16} {fixed : Bytes} :
    FixedFields action status fixed ↔
      fixed.length = action.fixedSize ∧
        status = if action.hasStatus then fixed.le16At 0 else 0 := by
  constructor
  · rintro (_ | ⟨_, token, info, info'⟩ | ⟨_, token⟩ | _ | _)
    · exact ⟨rfl, rfl⟩
    · exact ⟨rfl, (@Bytes.le16At_append [] _ 0 status rfl).symm⟩
    · exact ⟨rfl, (@Bytes.le16At_append [] _ 0 status rfl).symm⟩
    · exact ⟨rfl, rfl⟩
    · exact ⟨rfl, rfl⟩
  · rintro ⟨size, rfl⟩
    have word (two : 2 ≤ fixed.length) : Bytes.ofLe16 (fixed.le16At 0) = fixed.take 2 :=
      Bytes.ofLe16_le16At (by omega)
    cases action with
    | setupRequest =>
      obtain ⟨token, info, info', rfl⟩ := List.length_eq_three.1 size
      exact .setupRequest token info info'
    | setupResponse =>
      match fixed, size with
      | [low, high, token, info, info'], _ =>
        have fields := setupResponse (Bytes.le16At [low, high, token, info, info'] 0)
          token info info'
        rwa [word (by simp)] at fields
    | setupConfirm =>
      match fixed, size with
      | [low, high, token], _ =>
        have fields := setupConfirm (Bytes.le16At [low, high, token] 0) token
        rwa [word (by simp)] at fields
    | teardown =>
      match fixed, size with
      | [low, high], _ =>
        have fields := teardown (Bytes.le16At [low, high] 0)
        rwa [word (by simp)] at fields
    | discoveryRequest =>
      obtain ⟨token, rfl⟩ := List.length_eq_one_iff.1 size
      exact .discoveryRequest token

end FixedFields

/-- What a direct-link frame announces with its elements, if it neither ends nor refuses a link. -/
def announced (action : TdlsAction) (status : UInt16) (elements : Bytes) : Capabilities :=
  if action = .teardown ∨ status ≠ 0 then .none
  else (Capabilities.ofElements elements).union .directLink

/-- A frame with a payload type, a category and an action code. -/
theorem parse?_cons (payload category' code : UInt8) (rest : Bytes) :
    parse? (payload :: category' :: code :: rest) =
      if payload = payloadType ∧ category' = category then
        (TdlsAction.ofCode? code).bind fun action =>
          if rest.length < action.fixedSize then none
          else
            let status := if action.hasStatus then rest.le16At 0 else 0
            some ⟨action, status, announced action status (rest.drop action.fixedSize)⟩
      else none := by
  have behind (n : Nat) : (payload :: category' :: code :: rest).drop (3 + n) = rest.drop n := by
    rw [← List.drop_drop]
    rfl
  have size (n : Nat) :
      (payload :: category' :: code :: rest).length < 3 + n ↔ rest.length < n := by
    simp only [List.length_cons]
    omega
  unfold parse?
  simp only [headerSize, size, behind]
  by_cases ours : payload = payloadType ∧ category' = category
  · rw [if_pos ours, if_neg]
    · rfl
    · simp [Bytes.byteAt, ours]
  · rw [if_neg ours, if_pos]
    rcases not_and_or.1 ours with other | other
    · exact .inr (.inl other)
    · exact .inr (.inr other)

/-- The status stands among the fixed fields. -/
theorem status_take (action : TdlsAction) (rest : Bytes) :
    (if action.hasStatus then Bytes.le16At (rest.take action.fixedSize) 0 else 0) =
      if action.hasStatus then rest.le16At 0 else 0 := by
  cases action with
  | setupResponse => exact Bytes.le16At_take (show 0 + 2 ≤ 5 by decide)
  | setupConfirm => exact Bytes.le16At_take (show 0 + 2 ≤ 3 by decide)
  | setupRequest | teardown | discoveryRequest => rfl

/-- A direct-link frame is read just if it is laid out as its action asks. -/
theorem parse?_eq_some_iff {packet : Bytes} {tdls : Tdls} :
    parse? packet = some tdls ↔
      ∃ fixed elements,
        packet = payloadType :: category :: tdls.action.code :: (fixed ++ elements) ∧
          FixedFields tdls.action tdls.status fixed ∧
          tdls.capabilities = announced tdls.action tdls.status elements := by
  constructor
  · intro h
    match packet with
    | [] | [_] | [_, _] => cases h
    | payload :: category' :: code :: rest =>
      rw [parse?_cons] at h
      split at h
      · next ours =>
        obtain ⟨action, named, h⟩ := Option.bind_eq_some_iff.1 h
        split at h
        · cases h
        · next whole =>
          cases h
          have size : (rest.take action.fixedSize).length = action.fixedSize :=
            List.length_take_of_le (Nat.not_lt.1 whole)
          refine ⟨rest.take action.fixedSize, rest.drop action.fixedSize, ?_,
            FixedFields.iff_length.2 ⟨size, (status_take action rest).symm⟩, rfl⟩
          rw [ours.1, ours.2, TdlsAction.ofCode?_eq_some_iff.1 named, List.take_append_drop]
      · cases h
  · rintro ⟨fixed, elements, rfl, fields, caps⟩
    obtain ⟨size, status⟩ := FixedFields.iff_length.1 fields
    have whole : ¬ (fixed ++ elements).length < tdls.action.fixedSize := by
      rw [← size, List.length_append]
      omega
    have status : tdls.status =
        if tdls.action.hasStatus then Bytes.le16At (fixed ++ elements) 0 else 0 := by
      rw [← status_take, ← size, List.take_left' rfl, status]
    rw [parse?_cons, if_pos ⟨rfl, rfl⟩, TdlsAction.ofCode?_eq_some_iff.2 rfl, Option.bind_some,
      if_neg whole, ← status, ← size, List.drop_left' rfl]
    exact congrArg (fun caps => some (Tdls.mk tdls.action tdls.status caps)) caps.symm

/-- Just a response or a confirmation can refuse a link. -/
theorem FixedFields.answers {action : TdlsAction} {status : UInt16} {fixed : Bytes}
    (h : FixedFields action status fixed) (refuses : status ≠ 0) :
    action = .setupResponse ∨ action = .setupConfirm := by
  cases h with
  | setupRequest | teardown | discoveryRequest => exact absurd rfl refuses
  | setupResponse => exact .inl rfl
  | setupConfirm => exact .inr rfl

theorem isEmpty_announced_iff (action : TdlsAction) (status : UInt16) (elements : Bytes) :
    (announced action status elements).isEmpty = true ↔ action = .teardown ∨ status ≠ 0 := by
  unfold announced
  split
  · next silent => exact iff_of_true rfl silent
  · next heard =>
    rw [Capabilities.isEmpty_union_directLink]
    exact iff_of_false nofun heard

/-- **What stations announce.** Take elements, and behind them octets that hold no whole one; every
sequence of octets is such. What the sequence announces is legacy modulation together with what the
elements announce on their own, whatever is behind them. It does not matter in which order they
stand and how often one of them is there, and further elements take nothing away.

A packet is a direct-link frame just if it has the payload type, the category, the code of an action
and all fixed fields of that action. It announces nothing just if it is a teardown, or a response or
confirmation with a status that is not zero. Otherwise it announces what is announced behind the
fixed fields, and direct links. -/
theorem elements_announced :
    (∀ data, ∃ es tail, (∀ e ∈ es, e.body.length ≤ 255) ∧ CutShort tail ∧
      data = encodeAll es ++ tail) ∧
    (∀ (es : List Element) (tail : Bytes), (∀ e ∈ es, e.body.length ≤ 255) → CutShort tail →
      let caps := Capabilities.ofElements (encodeAll es ++ tail)
      caps = es.foldr (fun e caps => (Capabilities.ofElements e.encode).union caps) .legacy ∧
        (∀ c ∈ Capabilities.singles,
          caps.has c = true ↔ c = .legacy ∨ ∃ e ∈ es, e.Announces c) ∧
        (∀ es', (∀ e, e ∈ es' ↔ e ∈ es) → ∀ tail', CutShort tail' →
          Capabilities.ofElements (encodeAll es' ++ tail') = caps) ∧
        ∀ more, (∀ e ∈ more, e.body.length ≤ 255) → ∀ tail', CutShort tail' →
          Capabilities.ofElements (encodeAll (es ++ more) ++ tail') =
            caps.union (Capabilities.ofElements (encodeAll more ++ tail'))) ∧
    ∀ packet,
      ((parse? packet).isSome = true ↔ ∃ action status fixed elements,
        packet = payloadType :: category :: action.code :: (fixed ++ elements) ∧
          FixedFields action status fixed) ∧
      ∀ tdls, parse? packet = some tdls → ∃ fixed elements,
        packet = payloadType :: category :: tdls.action.code :: (fixed ++ elements) ∧
          FixedFields tdls.action tdls.status fixed ∧
          (tdls.capabilities.isEmpty = true ↔ tdls.action = .teardown ∨
            (tdls.action = .setupResponse ∨ tdls.action = .setupConfirm) ∧ tdls.status ≠ 0) ∧
          (tdls.capabilities.isEmpty = false →
            tdls.capabilities = (Capabilities.ofElements elements).union .directLink) := by
  refine ⟨Element.exists_encodeAll, fun es tail fit short => ?_, fun packet => ⟨?_, ?_⟩⟩
  · exact ⟨Capabilities.ofElements_eq_foldr fit short,
      fun c h => Capabilities.has_ofElements_iff fit short h,
      fun es' same tail' short' => Capabilities.ofElements_congr fit same short short',
      fun more fit' tail' short' => Capabilities.ofElements_append fit fit' short short'⟩
  · rw [Option.isSome_iff_exists]
    constructor
    · rintro ⟨tdls, read⟩
      obtain ⟨fixed, elements, laid, fields, -⟩ := parse?_eq_some_iff.1 read
      exact ⟨_, _, fixed, elements, laid, fields⟩
    · rintro ⟨action, status, fixed, elements, laid, fields⟩
      exact ⟨⟨action, status, announced action status elements⟩,
        parse?_eq_some_iff.2 ⟨fixed, elements, laid, fields, rfl⟩⟩
  · intro tdls read
    obtain ⟨fixed, elements, laid, fields, caps⟩ := parse?_eq_some_iff.1 read
    have silent := isEmpty_announced_iff tdls.action tdls.status elements
    refine ⟨fixed, elements, laid, fields, ?_, fun heard => ?_⟩
    · rw [caps, silent]
      exact or_congr_right (iff_and_self.2 fields.answers)
    · rw [caps] at heard ⊢
      refine if_neg fun none => ?_
      rw [silent.2 none] at heard
      cases heard

/-- HE and WMM in their long forms, and HT. -/
def longForms : List Element :=
  [⟨Element.extensionId, [Element.heExtension, 0]⟩, ⟨Element.vendorId, Element.wmm ++ [1]⟩,
    ⟨Element.htId, [0xef, 0x01]⟩]

/-- Behind them stands the start of extended capabilities of eight octets. The elements announce HE,
and the same twice over and backwards; a confirmation that has them behind a status of 37 announces
nothing. -/
theorem elements_announced_cutShort :
    let caps := Capabilities.ofElements (encodeAll longForms ++ [Element.extendedId, 8])
    let refusal := [payloadType, category, 2, 37, 0, 1] ++ encodeAll longForms
    (∀ e ∈ longForms, e.body.length ≤ 255) ∧ CutShort [Element.extendedId, 8] ∧
      caps.has .he = true ∧
      Capabilities.ofElements (encodeAll (longForms.reverse ++ longForms) ++ []) = caps ∧
      ∃ tdls, parse? refusal = some tdls ∧ tdls.capabilities.isEmpty = true := by
  intro caps refusal
  have fit : ∀ e ∈ longForms, e.body.length ≤ 255 := by decide
  have short : CutShort [Element.extendedId, 8] := .short (by decide)
  obtain ⟨-, sequences, packets⟩ := elements_announced
  obtain ⟨-, announced, congr, -⟩ := sequences longForms _ fit short
  refine ⟨fit, short, ?_, congr _ (by simp) [] .nil, ⟨.setupConfirm, 37, .none⟩,
    by decide +kernel, ?_⟩
  · exact (announced .he (by decide)).2 (.inr ⟨_, List.mem_cons_self, .he [0]⟩)
  · obtain ⟨-, -, -, -, silent, -⟩ :=
      (packets refusal).2 ⟨.setupConfirm, 37, .none⟩ (by decide +kernel)
    exact silent.2 (.inr ⟨.inr rfl, by decide⟩)

end Tdls

end Airlink
