import Airlink.Descriptor.FrameClass
import Airlink.Error
import Airlink.HwAddr
import Airlink.Outcome
import Airlink.Tdls

/-!
# The parties outside

The data path calls out to four parties: the transport that sends frames, the networking stack of
the host, the reorder engine for block-ack sessions, and whoever keeps a record of capabilities. An
`Outside σ` holds their answers as functions on a state `σ` that is theirs, so that any behaviour of
theirs is some `Outside`.

`Outside.logged` keeps a log of the calls made, in order.
-/

namespace Airlink

/-- How the transport took a frame. In each case it gives the buffer back. -/
inductive Submission where
  | success (buf : Buffer)
  /-- The transport can take no frame at the moment. -/
  | busy (buf : Buffer)
  | failure (buf : Buffer) (reason : String)
  deriving DecidableEq, Repr

/-- How the host took a frame. -/
inductive Delivery where
  | done
  /-- The host has the frame and will say when it is done with it. -/
  | pending
  deriving DecidableEq, Repr

/-- How a transmission ended. -/
inductive TxStatus where
  | success
  | failure (reason : String)
  deriving DecidableEq, Repr

/-- The parties that the data path calls out to. -/
structure Outside (σ : Type) where
  /-- Hands a frame to the transport. -/
  submit : Buffer → σ → Submission × σ
  /-- Hands a received frame to the host. -/
  deliver : Buffer → σ → Except Error Delivery × σ
  /-- Gives a frame back to the host after its transmission ended. -/
  sendComplete : Buffer → TxStatus → σ → σ
  /-- Tells the host of an event on an interface. -/
  event : UInt8 → HostEvent → σ → σ
  /-- Hands a copy to the monitor of the host. -/
  deliverMonitor : Buffer → σ → σ
  /-- Whether a peer has a receive session for a traffic class. -/
  hasSession : UInt8 → HwAddr → σ → Bool
  /-- Offers a frame to the reorder engine, with its sequence number and traffic class. -/
  reorder : UInt16 → UInt8 → HwAddr → FrameClass → Buffer → σ → Except Error Unit × σ
  /-- Reports the capabilities that a peer announced. -/
  record : HwAddr → Capabilities → TdlsAction → σ → σ

namespace Outside

/-- The same parties, but the reorder engine has no session and takes every frame without keeping
it, and nobody keeps a record of capabilities. -/
def withoutReorder (o : Outside σ) : Outside σ :=
  { o with
    hasSession := fun _ _ _ => false
    reorder := fun _ _ _ _ _ s => (.ok (), s)
    record := fun _ _ _ s => s }

/-- A call that was made, with its answer. -/
inductive Call where
  | submit (buf : Buffer) (answer : Submission)
  | deliver (buf : Buffer) (answer : Except Error Delivery)
  | sendComplete (buf : Buffer) (status : TxStatus)
  | event (bss : UInt8) (e : HostEvent)
  | deliverMonitor (buf : Buffer)
  | reorder (seq : UInt16) (trafficId : UInt8) (peer : HwAddr) (frameClass : FrameClass)
      (buf : Buffer) (answer : Except Error Unit)
  | record (peer : HwAddr) (caps : Capabilities) (action : TdlsAction)

/-- The same parties, with every call to them noted behind those noted before. The question for a
session changes nothing and is not noted. -/
def logged (o : Outside σ) : Outside (σ × List Call) where
  submit buf s :=
    let (answer, t) := o.submit buf s.1
    (answer, t, s.2 ++ [.submit buf answer])
  deliver buf s :=
    let (answer, t) := o.deliver buf s.1
    (answer, t, s.2 ++ [.deliver buf answer])
  sendComplete buf status s := (o.sendComplete buf status s.1, s.2 ++ [.sendComplete buf status])
  event bss e s := (o.event bss e s.1, s.2 ++ [.event bss e])
  deliverMonitor buf s := (o.deliverMonitor buf s.1, s.2 ++ [.deliverMonitor buf])
  hasSession trafficId peer s := o.hasSession trafficId peer s.1
  reorder seq trafficId peer frameClass buf s :=
    let (answer, t) := o.reorder seq trafficId peer frameClass buf s.1
    (answer, t, s.2 ++ [.reorder seq trafficId peer frameClass buf answer])
  record peer caps action s := (o.record peer caps action s.1, s.2 ++ [.record peer caps action])

end Outside

end Airlink
