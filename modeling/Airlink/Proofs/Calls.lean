import Airlink.Interface

/-!
# Which parties outside are called

An interface that receives a frame calls the reorder engine and whoever keeps a record of
capabilities. An interface that relays a frame calls the transport and, to give the frame back, the
host, and so does one that sends, drains or flushes. So what these calls keep of the state outside
is kept by receiving (`Interface.receive_keeps`, `Interface.receiveReordered_keeps`) and by all that
an interface does on the way out (`Interface.relay_keeps` and those behind it).
-/

namespace Airlink

variable {σ : Type}

namespace Outside

/-- The calls on the way in keep a property of the parties outside. -/
structure KeptReceiving (o : Outside σ) (I : σ → Prop) : Prop where
  reorder : ∀ seq trafficId peer frameClass buf s, I s →
    I (o.reorder seq trafficId peer frameClass buf s).2
  record : ∀ peer caps action s, I s → I (o.record peer caps action s)

/-- The calls on the way out keep a property of the parties outside. -/
structure KeptSending (o : Outside σ) (I : σ → Prop) : Prop where
  submit : ∀ buf s, I s → I (o.submit buf s).2
  sendComplete : ∀ buf status s, I s → I (o.sendComplete buf status s)

end Outside

namespace Interface

variable {o : Outside σ} {I : σ → Prop} {s : σ}

/-! ## On the way in -/

theorem report_keeps (h : o.KeptReceiving I) (reports : List TdlsReport) (hs : I s) :
    I (report o reports s) :=
  List.foldlRecOn reports _ hs fun s hs r _ => h.record r.peer r.capabilities r.action s hs

theorem runIngress_keeps (h : o.KeptReceiving I) (near : Neighbors) (now : Instant) (i : Interface)
    (buf : Buffer) (desc : RxDescriptor) (hs : I s) :
    I (i.runIngress o near now s buf desc).2.2 := report_keeps h _ hs

theorem handOff_keeps (h : o.KeptReceiving I) (i : Interface) (seq : UInt16) (trafficId : UInt8)
    (peer : HwAddr) (frameClass : FrameClass) (buf : Buffer) (hs : I s) :
    I (i.handOff o s seq trafficId peer frameClass buf).2.2 :=
  h.reorder seq trafficId peer frameClass buf s hs

theorem receiveRequest_keeps (h : o.KeptReceiving I) (i : Interface) (buf : Buffer)
    (desc : RxDescriptor) (hs : I s) : I (i.receiveRequest o s buf desc).2.2 := by
  unfold receiveRequest
  split
  · exact hs
  · split
    · exact hs
    · next request _ =>
      split
      · exact hs
      · dsimp only
        split
        · split
          · next offered => exact congrArg (·.2.2) offered ▸ handOff_keeps h i _ _ _ _ buf hs
          · next offered => exact congrArg (·.2.2) offered ▸ handOff_keeps h i _ _ _ _ buf hs
        · exact hs

theorem receiveFrame_keeps (h : o.KeptReceiving I) (near : Neighbors) (now : Instant)
    (i : Interface) (buf : Buffer) (desc : RxDescriptor) (hs : I s) :
    I (i.receiveFrame o near now s buf desc).2.2 := by
  unfold receiveFrame
  dsimp only
  split
  · next frameClass peer _ =>
    split
    · next offered => exact congrArg (·.2.2) offered ▸ handOff_keeps h _ _ _ _ _ buf hs
    · next offered => exact congrArg (·.2.2) offered ▸ handOff_keeps h _ _ _ _ _ buf hs
  · exact runIngress_keeps h near now _ buf desc hs

/-- Receiving a frame keeps what the calls on the way in keep. -/
theorem receive_keeps (h : o.KeptReceiving I) (near : Neighbors) (now : Instant) (i : Interface)
    (buf : Buffer) (hs : I s) : I (i.receive o near now s buf).2.2 := by
  unfold receive
  split
  · exact hs
  · split
    · exact receiveRequest_keeps h _ buf _ hs
    · exact receiveFrame_keeps h near now _ buf _ hs

/-- So does receiving a frame that the reorder engine has released. -/
theorem receiveReordered_keeps (h : o.KeptReceiving I) (near : Neighbors) (now : Instant)
    (i : Interface) (buf : Buffer) (hs : I s) :
    I (i.receiveReordered o near now s buf).2.2 := by
  unfold receiveReordered
  split
  · exact hs
  · exact runIngress_keeps h near now i _ _ hs

/-! ## On the way out -/

theorem complete_keeps (h : o.KeptSending I) (buf : Buffer) (status : TxStatus) (hs : I s) :
    I (complete o buf status s) := by
  unfold complete
  split
  · exact hs
  · split
    · exact h.sendComplete _ status s hs
    · exact h.sendComplete _ status s hs

theorem submit_keeps (h : o.KeptSending I) (i : Interface) (framed : Buffer) (hs : I s) :
    I (i.submit o s framed).2 := by
  have submitted := h.submit framed s hs
  unfold submit
  split
  · dsimp only
    cases (o.submit framed s).1 with
    | success buf => exact complete_keeps h buf _ submitted
    | failure buf reason => exact complete_keeps h buf _ submitted
    | busy buf => exact submitted
  · exact hs

/-- Relaying a frame keeps what the calls on the way out keep. -/
theorem relay_keeps (h : o.KeptSending I) (i : Interface) (buf : Buffer) (hs : I s) :
    I (i.relay o s buf).2 := by
  unfold relay
  split
  · exact hs
  · exact submit_keeps h i _ hs

/-- Sending a frame keeps what the calls on the way out keep. -/
theorem send_keeps (h : o.KeptSending I) (i : Interface) (buf : Buffer) (hints : TransmitHints)
    (hs : I s) : I (i.send o s buf hints).2.2 := by
  unfold send
  dsimp only
  split
  · exact hs
  · exact submit_keeps h _ _ hs

/-- A drain step keeps what the calls on the way out keep. -/
theorem drainOne_keeps (h : o.KeptSending I) (i : Interface) (hs : I s) :
    I (i.drainOne o s).2.2 := by
  cases underway : i.backlog.draining with
  | true => rwa [drainOne_of_draining o underway]
  | false =>
    cases head : i.backlog.frames with
    | nil => rwa [drainOne_of_nil o underway head]
    | cons buf rest =>
      have submitted := h.submit buf s hs
      rw [drainOne_of_cons o underway head]
      dsimp only
      cases (o.submit buf s).1 with
      | success back => exact complete_keeps h back _ submitted
      | failure back reason => exact complete_keeps h back _ submitted
      | busy back => exact submitted

/-- Flushing keeps what the calls on the way out keep. -/
theorem flush_keeps (h : o.KeptSending I) (i : Interface) (hs : I s) : I (i.flush o s).2.2 :=
  List.foldlRecOn i.backlog.frames _ hs fun _ hs buf _ => complete_keeps h buf _ hs

end Interface

end Airlink
