import Airlink.Capture
import Airlink.Radio

/-!
# Replaying captures

A capture runs through a radio whose transport and host take every frame. A frame that the radio
refuses is passed over; a frame whose text stands for no octets ends the replay.
-/

namespace Airlink.Replay

/-- A transport and a host that take everything. -/
def accepting : Outside Unit :=
  Outside.withoutReorder {
    submit := fun buf s => (.success buf, s)
    deliver := fun _ s => (.ok .done, s)
    sendComplete := fun _ _ s => s
    event := fun _ _ s => s
    deliverMonitor := fun _ s => s
    hasSession := fun _ _ _ => false
    reorder := fun _ _ _ _ _ s => (.ok (), s)
    record := fun _ _ _ s => s }

/-- The free octets before a frame of the host. -/
def headroom : Nat := 64

/-- The time of a replay, in which no station grows old. -/
def now : Instant := 0

/-- The radio after an entry of a capture. -/
def step (r : Radio) : CapturedFrame → Except Error Radio
  | .rx text => do
    let data ← Capture.octets text
    return (r.receive accepting now () (.ofBytes .rx data)).2.1
  | .tx bss text hints => do
    let data ← Capture.octets text
    return (r.send accepting () bss (.withHeadroom .tx headroom data) hints).2.1
  | .service rounds => .ok (r.service accepting rounds.toNat ()).2.1

/-- The radio that a configuration describes after a capture. In the end its backlogs are served,
and frames that still wait are given back. -/
def run (c : Config) (frames : List CapturedFrame) : Except Error Radio := do
  let r ← Radio.ofConfig c
  let r ← frames.foldlM step r
  let (_, r, _) := r.service accepting c.general.drainBudget.toNat ()
  let (_, r, _) := r.flush accepting ()
  return r

end Airlink.Replay
