import Airlink.Proofs.Arising
import Airlink.Proofs.Transmit.Hints
import Airlink.Proofs.Transmit.Order
import Airlink.Proofs.Transmit.Relay
import Mathlib.Data.Nat.ModEq

/-!
# Frames that are refused, and tokens

An interface refuses a frame of the host that is too long before anybody outside hears of it. If
the host left the token of the status report to the interface, a token is given out to the refused
frame all the same (`Interface.send_of_lt`). Nothing but such a frame draws a token
(`Act.nextToken_apply`), so over the life of an interface the frames that leave the token to it get
the tokens from where they stand among all such frames, the refused ones included
(`tokensGiven_eq`).
-/

namespace Airlink

open Outside (Call)

variable {σ : Type}

namespace TransmitHints

variable (hints : TransmitHints)

/-- A status report is asked for, and its token is left to the interface. -/
def leavesToken : Bool := hints.reportStatus && hints.statusToken.isNone

/-- The hints with a token filled in if it is left to the interface. -/
def withToken (token : UInt8) : TransmitHints :=
  if hints.leavesToken then { hints with statusToken := some token } else hints

theorem withToken_of_leavesToken {hints : TransmitHints} (left : hints.leavesToken = true)
    (token : UInt8) :
    (hints.withToken token).reportStatus = true ∧
      (hints.withToken token).statusToken = some token := by
  have reports : hints.reportStatus = true := (Bool.and_eq_true _ _ ▸ left).1
  rw [withToken, if_pos left]
  exact ⟨reports, rfl⟩

end TransmitHints

@[simp] theorem TxOp.size_hostBuffer (buf : Buffer) (hints : TransmitHints) :
    (hostBuffer buf hints).size = buf.size := by
  unfold hostBuffer
  split <;> rfl

namespace Interface

/-! ## Drawing tokens -/

/-- The interface after it gave out a token, if one is left to it. -/
def drawToken (i : Interface) (hints : TransmitHints) : Interface :=
  { i with nextToken := if hints.leavesToken then i.nextToken + 1 else i.nextToken }

variable (o : Outside σ) (i : Interface)

/-- Drawing a token shows in the interface. -/
theorem count_drawToken_eq_iff (hints : TransmitHints) (f : Counters → Counters) :
    (i.drawToken hints).count f = i.count f ↔ hints.leavesToken = false := by
  cases left : hints.leavesToken with
  | false => simp [drawToken, left]
  | true => simp [drawToken, count, left]

theorem send_eq_attach (s : σ) (buf : Buffer) (hints : TransmitHints) :
    i.send o s buf hints =
      match i.egress.attach (TxOp.hostBuffer buf hints) (hints.withToken i.nextToken) with
      | .error e => (.error e, (i.drawToken hints).count Counters.countOversized, s)
      | .ok framed => (.ok (), (i.drawToken hints).submit o s framed) := by
  unfold send TxOp.hostBuffer TransmitHints.withToken drawToken TransmitHints.leavesToken
  cases hints.reportStatus && hints.statusToken.isNone with
  | true => rfl
  | false => rfl

/-- A frame that is too long is refused and counted, and draws a token all the same. -/
theorem send_of_lt (s : σ) {buf : Buffer} (hints : TransmitHints)
    (long : TxDescriptor.maxPayload < buf.size) :
    i.send o s buf hints =
      (.error (.oversizedPayload buf.size TxDescriptor.maxPayload),
        (i.drawToken hints).count Counters.countOversized, s) := by
  rw [send_eq_attach, i.egress.attach_of_lt _ (by rwa [TxOp.size_hostBuffer]),
    TxOp.size_hostBuffer]

/-- Any other frame is submitted behind a descriptor that carries the token. -/
theorem send_of_le (s : σ) {buf : Buffer} (hints : TransmitHints)
    (fits : buf.size ≤ TxDescriptor.maxPayload) :
    ∃ framed d, TxDescriptor.decode framed.window = .ok d ∧
      d.Carries i.egress (TxOp.hostBuffer buf hints) (hints.withToken i.nextToken) ∧
      i.send o s buf hints = (.ok (), (i.drawToken hints).submit o s framed) := by
  have room : (TxOp.hostBuffer buf hints).size ≤ TxDescriptor.maxPayload := by
    rwa [TxOp.size_hostBuffer]
  obtain ⟨d, built, carries⟩ := i.egress.build_carries (hints.withToken i.nextToken) room
  refine ⟨(TxOp.hostBuffer buf hints).prepend d.encode, d, ?_, carries, ?_⟩
  · rw [Buffer.window_prepend, TxDescriptor.decode_encode]
  · rw [send_eq_attach, Egress.attach, built]
    rfl

/-! ## Keeping the next token -/

@[simp] theorem nextToken_account (answer : Submission) :
    (i.account answer).nextToken = i.nextToken := by
  unfold account
  cases answer with
  | success buf =>
    dsimp only
    split <;> rfl
  | busy buf => rfl
  | failure buf reason => rfl

@[simp] theorem nextToken_submit (s : σ) (framed : Buffer) :
    (i.submit o s framed).1.nextToken = i.nextToken := by
  unfold submit
  split
  · dsimp only
    split <;> exact i.nextToken_account _
  · rfl

theorem nextToken_relay (s : σ) (buf : Buffer) :
    (i.relay o s buf).1.nextToken = i.nextToken := by
  unfold relay
  split
  · rfl
  · exact i.nextToken_submit o s _

theorem nextToken_drainOne (s : σ) : (i.drainOne o s).2.1.nextToken = i.nextToken := by
  cases underway : i.backlog.draining with
  | true => rw [drainOne_of_draining o underway]
  | false =>
    cases head : i.backlog.frames with
    | nil => rw [drainOne_of_nil o underway head]
    | cons buf rest =>
      rw [drainOne_of_cons o underway head]
      dsimp only
      split <;> exact i.nextToken_account _

/-- Sending is the one operation that draws a token. -/
theorem nextToken_send (s : σ) (buf : Buffer) (hints : TransmitHints) :
    (i.send o s buf hints).2.1.nextToken =
      if hints.leavesToken then i.nextToken + 1 else i.nextToken := by
  by_cases fits : buf.size ≤ TxDescriptor.maxPayload
  · obtain ⟨framed, d, -, -, sent⟩ := i.send_of_le o s hints fits
    rw [sent, nextToken_submit]
    rfl
  · rw [i.send_of_lt o s hints (Nat.lt_of_not_le fits)]
    rfl

end Interface

/-! ## The life of an interface -/

/-- What is done to an interface. -/
inductive Interface.Act where
  | receive (near : Neighbors) (now : Instant) (buf : Buffer)
  | receiveReordered (near : Neighbors) (now : Instant) (buf : Buffer)
  /-- The owner works on the station table and the counters. -/
  | tend (stations : StationTable) (counters : Counters)
  | transmit (op : TxOp)

open Interface (Act)

namespace Interface.Act

/-- The interface and the parties outside after an act. -/
def apply (o : Outside σ) (act : Act) (st : Interface × σ) : Interface × σ :=
  match act with
  | .receive near now buf => (st.1.receive o near now st.2 buf).2
  | .receiveReordered near now buf => (st.1.receiveReordered o near now st.2 buf).2
  | .tend stations counters => ({ st.1 with stations, counters }, st.2)
  | .transmit op => op.apply o st

/-- The size of the frame that is sent, if its token is left to the interface. -/
def asked? : Act → Option Nat
  | .transmit (.send buf hints) => if hints.leavesToken then some buf.size else none
  | _ => none

/-- An act draws a token exactly if it sends a frame whose token is left to the interface. -/
theorem nextToken_apply (o : Outside σ) (act : Act) (st : Interface × σ) :
    (act.apply o st).1.nextToken =
      if act.asked?.isSome then st.1.nextToken + 1 else st.1.nextToken := by
  obtain ⟨i, s⟩ := st
  cases act with
  | receive near now buf =>
    obtain ⟨stations, counters, same, -⟩ := i.receive_changes o near now s buf
    show (i.receive o near now s buf).2.1.nextToken = i.nextToken
    rw [same]
  | receiveReordered near now buf =>
    obtain ⟨stations, same⟩ := i.receiveReordered_changes o near now s buf
    show (i.receiveReordered o near now s buf).2.1.nextToken = i.nextToken
    rw [same]
  | tend stations counters => rfl
  | transmit op =>
    cases op with
    | send buf hints =>
      refine (i.nextToken_send o s buf hints).trans ?_
      rw [asked?]
      cases hints.leavesToken <;> rfl
    | relay buf => exact i.nextToken_relay o s buf
    | drainOne => exact i.nextToken_drainOne o s
    | flush => rfl

end Interface.Act

/-! ## The tokens given out -/

/-- The frame that an operation took in: where no frame waited, the first that was handed to the
transport, and else the last of those that wait now. -/
def takenIn? (before after : Interface × σ × List Call) : Option Buffer :=
  if before.1.backlog.isEmpty then
    (submissions (after.2.2.drop before.2.2.length)).head?.map Prod.fst
  else after.1.backlog.frames.getLast?

/-- The token in the transmit descriptor in front of a frame. -/
def Buffer.token? (b : Buffer) : Option UInt8 :=
  (TxDescriptor.decode b.window).toOption.map (·.tokenId)

/-- What is submitted is taken in. -/
theorem takenIn?_submit (o : Outside σ) {i j : Interface} (same : j.backlog = i.backlog)
    (s : σ × List Call) (framed : Buffer) :
    takenIn? (i, s) (j.submit o.logged s framed) = some framed := by
  obtain ⟨s, log⟩ := s
  unfold takenIn? Interface.submit
  rw [same]
  split
  · simp only [Outside.logged]
    rw [← Outside.logged]
    generalize (o.submit framed s).2 = t
    generalize (o.submit framed s).1 = answer
    -- Whatever giving the frame back notes, it notes behind the submission.
    have first (buf : Buffer) (status : TxStatus) :
        (submissions ((Interface.complete o.logged buf status
          (t, log ++ [.submit framed answer])).2.drop log.length)).head? =
            some (framed, answer) := by
      obtain ⟨calls, noted, -⟩ :=
        Interface.complete_calls o buf status t (log ++ [.submit framed answer])
      rw [noted, List.append_assoc, List.drop_left]
      rfl
    cases answer with
    | success buf => exact congrArg _ (first buf .success)
    | failure buf reason => exact congrArg _ (first buf (.failure reason))
    | busy buf =>
      rw [List.drop_left]
      rfl
  · simp [Backlog.enqueue, Backlog.setFrames]

namespace Interface.Act

/-- The token of the frame that an act sends, if the host got an `ok` for it and its token is left
to the interface. It is read from the frame that was taken in. -/
def given (o : Outside σ) (st : Interface × σ × List Call) : Act → List (Option UInt8)
  | .transmit (.send buf hints) =>
    match st.1.send o.logged st.2 buf hints with
    | (.ok _, after) => if hints.leavesToken then [(takenIn? st after).bind Buffer.token?] else []
    | (.error _, _) => []
  | _ => []

/-- A frame that fits gets the next token. -/
theorem given_eq (o : Outside σ) (act : Act) (st : Interface × σ × List Call) :
    act.given o st =
      if ∃ size ∈ act.asked?, size ≤ TxDescriptor.maxPayload then [some st.1.nextToken]
      else [] := by
  obtain ⟨i, s⟩ := st
  cases act with
  | receive | receiveReordered | tend => simp [given, asked?]
  | transmit op =>
    cases op with
    | relay | drainOne | flush => simp [given, asked?]
    | send buf hints =>
      rw [given, asked?]
      by_cases fits : buf.size ≤ TxDescriptor.maxPayload
      · obtain ⟨framed, d, decoded, carries, sent⟩ := i.send_of_le o.logged s hints fits
        have taken : takenIn? (i, s) ((i.drawToken hints).submit o.logged s framed) = some framed :=
          takenIn?_submit o (j := i.drawToken hints) rfl s framed
        have read : framed.token? = some d.tokenId := by
          rw [Buffer.token?, decoded]
          rfl
        rw [sent]
        dsimp only
        rw [taken, Option.bind_some, read]
        cases left : hints.leavesToken with
        | false => simp
        | true =>
          obtain ⟨reports, filled⟩ := TransmitHints.withToken_of_leavesToken left i.nextToken
          have token : d.tokenId = i.nextToken := by
            rw [carries.tokenId, reports, filled]
            rfl
          simp [token, fits]
      · rw [i.send_of_lt o.logged s hints (Nat.lt_of_not_le fits)]
        simp [fits]

end Interface.Act

/-- The tokens of the accepted frames whose token is left to the interface, over its life. -/
def tokensGiven (o : Outside σ) : List Act → Interface × σ × List Call → List (Option UInt8)
  | [], _ => []
  | act :: acts, st => act.given o st ++ tokensGiven o acts (act.apply o.logged st)

/-- Where frames leave the token to the interface, an accepted one gets the token by its place among
all of them. -/
theorem tokensGiven_eq (o : Outside σ) (acts : List Act) (st : Interface × σ × List Call)
    {first : UInt8} {n : Nat} (next : st.1.nextToken = first + UInt8.ofNat n) :
    tokensGiven o acts st =
      ((acts.filterMap Act.asked?).findIdxs (· ≤ TxDescriptor.maxPayload) n).map
        fun place => some (first + UInt8.ofNat place) := by
  -- `n` tokens were drawn before, by accepted frames and refused ones.
  induction acts generalizing st n with
  | nil => rfl
  | cons act acts ih =>
    have after := act.nextToken_apply o.logged st
    rw [tokensGiven, act.given_eq]
    cases asked : act.asked? with
    | none =>
      rw [asked] at after
      rw [List.filterMap_cons_none asked, ih _ (after.trans next)]
      simp
    | some size =>
      rw [asked] at after
      have next' : (act.apply o.logged st).1.nextToken = first + UInt8.ofNat (n + 1) := by
        rw [after, UInt8.ofNat_add, ← UInt8.add_assoc, ← next]
        rfl
      rw [List.filterMap_cons_some asked, List.findIdxs_cons, ih _ next']
      by_cases fits : size ≤ TxDescriptor.maxPayload
      · simp [fits, next]
      · simp [fits]

/-! ## Both -/

/-- The next token by place follows the token by place just where the places are next to each other
modulo 256. -/
theorem follows_iff (first : UInt8) (m n : Nat) :
    some (first + UInt8.ofNat n) = (some (first + UInt8.ofNat m)).map (· + 1) ↔
      m + 1 ≡ n [MOD 256] := by
  rw [Option.map_some, Option.some_inj, UInt8.add_assoc, UInt8.add_right_inj,
    ← UInt8.toNat_inj, UInt8.toNat_add, UInt8.toNat_ofNat', UInt8.toNat_ofNat', Nat.ModEq]
  simp only [UInt8.reduceToNat]
  omega

/-- **A refused frame, and the tokens behind it.** A frame of the host is refused just when it has
more than 2024 octets. Then nobody outside is called, and the interface is as before but for the
count of frames that were too long and, if the token of the frame was left to the interface, for
the next token.

So the frames that leave their tokens to an interface get them by their places among all that do,
whatever else is done to it. The tokens of two accepted ones in succession follow one another
modulo 256 just when their places do: the refused ones between them are none, or 256, or so on. -/
theorem send_refused_tokens_given (o : Outside σ) :
    (∀ (i : Interface) (s : σ) (log : List Call) (buf : Buffer) (hints : TransmitHints),
      match i.send o.logged (s, log) buf hints with
      | (.error err, j, t) =>
        2024 < buf.size ∧ err = .oversizedPayload buf.size 2024 ∧ t = (s, log) ∧
          j = { i with
            counters := i.counters.countOversized
            nextToken := if hints.leavesToken then i.nextToken + 1 else i.nextToken } ∧
          (j = i.count Counters.countOversized ↔ hints.leavesToken = false)
      | (.ok _, _) => buf.size ≤ 2024) ∧
    ∀ (acts : List Act) (i : Interface) (s : σ) (log : List Call),
      let places := (acts.filterMap Act.asked?).findIdxs (· ≤ 2024)
      let tokens := tokensGiven o acts (i, s, log)
      tokens = places.map (fun place => some (i.nextToken + UInt8.ofNat place)) ∧
        (tokens.IsChain (fun t u => u = t.map (· + 1)) ↔
          places.IsChain (fun m n => m + 1 ≡ n [MOD 256])) := by
  constructor
  · intro i s log buf hints
    by_cases fits : buf.size ≤ TxDescriptor.maxPayload
    · obtain ⟨framed, d, -, -, sent⟩ := i.send_of_le o.logged (s, log) hints fits
      rw [sent]
      exact fits
    · have long := Nat.lt_of_not_le fits
      rw [i.send_of_lt o.logged (s, log) hints long]
      exact ⟨long, rfl, rfl, rfl, i.count_drawToken_eq_iff hints Counters.countOversized⟩
  · intro acts i s log places tokens
    have given : tokens = places.map (fun place => some (i.nextToken + UInt8.ofNat place)) :=
      tokensGiven_eq o acts (i, s, log) (UInt8.add_zero i.nextToken).symm
    refine ⟨given, ?_⟩
    rw [given, List.isChain_map]
    exact List.IsChain.iff fun m n => follows_iff i.nextToken m n

/-- Between two frames of one octet that leave their tokens to the interface one is refused: its
token is skipped. -/
theorem token_skipped :
    let asking := { TransmitHints.none with reportStatus := true }
    let short := Buffer.ofBytes .tx [0]
    let long := Buffer.ofBytes .tx (List.replicate 2025 0)
    let acts : List Act :=
      [.transmit (.send short asking), .transmit (.send long asking),
        .transmit (.send short asking)]
    let (answer, refused, _) :=
      Interface.standard.send Outside.scripted.logged ([], []) long asking
    Interface.standard.Arises ∧ answer = .error (.oversizedPayload 2025 2024) ∧
      refused ≠ Interface.standard.count Counters.countOversized ∧
      refused.nextToken = Interface.standard.nextToken + 1 ∧
      tokensGiven Outside.scripted acts (.standard, [], []) = [some 0, some 2] := by
  intro asking short long acts
  have size : long.size = 2025 := List.length_replicate
  have sent := Interface.standard.send_of_lt Outside.scripted.logged ([], []) asking
    (show TxDescriptor.maxPayload < long.size by rw [size]; decide)
  have sizes : acts.filterMap Act.asked? = [1, 2025, 1] := congrArg ([1, ·, 1]) size
  have tokens : tokensGiven Outside.scripted acts (.standard, [], []) = _ :=
    tokensGiven_eq Outside.scripted acts (.standard, [], [])
      (show Interface.standard.nextToken = 0 + UInt8.ofNat 0 from rfl)
  rw [sizes] at tokens
  rw [sent, size]
  refine ⟨Interface.standard_arises, rfl, fun same => ?_, rfl, tokens⟩
  cases (Interface.standard.count_drawToken_eq_iff asking Counters.countOversized).1 same

end Airlink
