import Airlink.Proofs.AggregateIngress
import Airlink.Proofs.Translation

/-!
# What a frame comes to

A single frame becomes an event, or is dropped before its packet is looked at, or it is translated,
screened and sent on its way (`Processed`). Processing a frame that may be an aggregate is
processing the single frames in it one after the other, with one drop more for an aggregate that is
too short or has a tail (`processAll_eq`), so that what holds of every single frame holds of all
outcomes (`forall_processAll`).
-/

namespace Airlink

/-- The reasons to drop a frame for what its packet is. -/
def DropReason.IsScreening (reason : DropReason) : Prop :=
  reason = .gratuitousArp ∨ reason = .unsolicitedNeighborAdvert

instance (reason : DropReason) : Decidable reason.IsScreening :=
  inferInstanceAs (Decidable (_ ∨ _))

namespace Ingress

/-! ## Single frames -/

/-- The frame behind an 802.3 or Ethernet-II header that a received frame carries: the payload of a
data frame, and at an access point the payload of a raw frame with its header replaced. -/
def carried? (env : Env) (buf : Buffer) (desc : RxDescriptor) : Option Buffer :=
  match desc.frameClass, env.settings.role with
  | some .data, _ => (strip buf desc).toOption
  | some .raw80211, .accessPoint =>
    (((strip buf desc).bind Buffer.dot11To8023).toOption).map Prod.snd
  | _, _ => none

/-- The octets of the carried frame after its SNAP header was collapsed, if it was long enough. -/
def translated? (env : Env) (buf : Buffer) (desc : RxDescriptor) : Option Bytes :=
  (carried? env buf desc).bind fun b => b.toEthernet.toOption.map fun t => t.2.window

/-- What a single frame comes to. -/
inductive Processed (env : Env) (st : State) (buf : Buffer) (desc : RxDescriptor) :
    Outcome × State → Prop where
  | event (e : HostEvent) (untranslated : translated? env buf desc = none) :
      Processed env st buf desc (.event e, st)
  | drop (reason : DropReason) (untranslated : translated? env buf desc = none)
      (unscreened : ¬ reason.IsScreening) : Processed env st buf desc (.drop reason, st)
  | sent {b c : Buffer} {translation : Translation} (carried : carried? env buf desc = some b)
      (translated : b.toEthernet = .ok (translation, c)) :
      Processed env st buf desc (conclude env st c (screen env translation c.window))

/-- The carried frame of the last case is the one that was translated. -/
theorem translated?_of_toEthernet {env : Env} {buf b c : Buffer} {desc : RxDescriptor}
    {translation : Translation} (carried : carried? env buf desc = some b)
    (translated : b.toEthernet = .ok (translation, c)) :
    translated? env buf desc = some c.window := by
  rw [translated?, carried, Option.bind_some, translated]
  rfl

/-- A carried frame is too short, or is sent on its way. -/
theorem route_processed (env : Env) (st : State) {buf b : Buffer} {desc : RxDescriptor}
    (carried : carried? env buf desc = some b) :
    Processed env st buf desc (route env st b) := by
  cases translated : b.toEthernet with
  | error e =>
    have short : route env st b = (.drop .truncated, st) := by
      unfold route
      rw [translated]
    rw [short]
    exact .drop _ (by rw [translated?, carried, Option.bind_some, translated]; rfl) (by decide)
  | ok result =>
    obtain ⟨translation, c⟩ := result
    rw [route_of_toEthernet env st translated]
    exact .sent carried translated

/-- A single frame comes to one of the three. -/
theorem process_processed (env : Env) (st : State) (buf : Buffer) (desc : RxDescriptor) :
    Processed env st buf desc (process env st buf desc) := by
  have uncarried (h : carried? env buf desc = none) : translated? env buf desc = none := by
    rw [translated?, h]
    rfl
  unfold process
  split
  · next isClass =>
    exact .drop _ (uncarried (by simp only [carried?, isClass])) (by decide)
  · next isClass =>
    have none := uncarried (by simp only [carried?, isClass])
    unfold withPayload
    split
    · exact .event _ none
    · exact .drop _ none (by decide)
  · next isClass =>
    have none := uncarried (by simp only [carried?, isClass])
    unfold withPayload
    split
    · split
      · exact .event _ none
      · exact .drop _ none (by decide)
    · exact .drop _ none (by decide)
  · next isClass =>
    exact .drop _ (uncarried (by simp only [carried?, isClass])) (by decide)
  · next isClass =>
    exact .drop _ (uncarried (by simp only [carried?, isClass])) (by decide)
  · next isRaw =>
    unfold withPayload processRaw
    cases role : env.settings.role with
    | station =>
      have none := uncarried (by simp only [carried?, isRaw, role])
      split
      · dsimp only
        split
        · exact .event _ none
        · exact .drop _ none (by decide)
      · exact .drop _ none (by decide)
    | accessPoint =>
      split
      · next payload stripped =>
        dsimp only
        split
        · next header b replaced =>
          refine route_processed env st ?_
          simp [carried?, isRaw, role, stripped, Except.bind, replaced, Except.toOption]
        · next e failed =>
          have none := uncarried (by
            simp [carried?, isRaw, role, stripped, Except.bind, failed, Except.toOption])
          refine .drop _ none ?_
          split <;> decide
      · next e failed =>
        have none := uncarried (by
          simp [carried?, isRaw, role, failed, Except.bind, Except.toOption])
        exact .drop _ none (by decide)
  · next isData =>
    unfold withPayload
    split
    · next payload stripped =>
      refine route_processed env st ?_
      simp [carried?, isData, stripped, Except.toOption]
    · next e failed =>
      have none := uncarried (by simp [carried?, isData, failed, Except.toOption])
      exact .drop _ none (by decide)

/-! ## Frames one after the other -/

/-- Each result is that of processing the frame at its place, in the state reached by then. -/
theorem getElem?_steps (env : Env) (st : State) (frames : List (Buffer × RxDescriptor)) (j : Nat) :
    ∃ st', (steps env st frames)[j]? = frames[j]?.map fun f => process env st' f.1 f.2 := by
  induction frames generalizing st j with
  | nil => exact ⟨st, rfl⟩
  | cons frame frames ih =>
    cases j with
    | zero => exact ⟨st, rfl⟩
    | succ j => exact ih (process env st frame.1 frame.2).2 j

/-- The single frames in a frame that may be an aggregate. -/
def frames (buf : Buffer) (desc : RxDescriptor) : List (Buffer × RxDescriptor) :=
  if desc.frameClass = some .amsdu then
    ((desc.payload? buf.window).map fun p => partFrames buf desc (Aggregate.cut p).1).getD []
  else [(buf, desc)]

/-- The drop for an aggregate that is shorter than its descriptor says, or has a tail that is no
part. -/
def tail (buf : Buffer) (desc : RxDescriptor) : List Outcome :=
  if desc.frameClass = some .amsdu then
    match desc.payload? buf.window with
    | none => [.drop .sizeInvalid]
    | some payload => if !(Aggregate.cut payload).2.isEmpty then [.drop .truncated] else []
  else []

/-- Processing a frame that may be an aggregate is processing the single frames in it. -/
theorem processAll_eq (env : Env) (st : State) (buf : Buffer) (desc : RxDescriptor) :
    processAll env st buf desc =
      ((steps env st (frames buf desc)).map Prod.fst ++ tail buf desc,
        ((steps env st (frames buf desc)).map Prod.snd).getLastD st) := by
  unfold processAll frames tail
  by_cases isAmsdu : desc.frameClass = some .amsdu
  · simp only [if_pos isAmsdu]
    cases desc.payload? buf.window with
    | none => rfl
    | some payload =>
      simp only [Aggregate.split, processParts_eq, Option.map_some, Option.getD_some]
      rfl
  · simp only [if_neg isAmsdu]
    rfl

/-- The last drop is for none of the reasons of screening. -/
theorem mem_tail {buf : Buffer} {desc : RxDescriptor} {outcome : Outcome}
    (h : outcome ∈ tail buf desc) :
    ∃ reason : DropReason, outcome = .drop reason ∧ ¬ reason.IsScreening := by
  unfold tail at h
  split at h
  · split at h
    · obtain rfl := List.mem_singleton.1 h
      exact ⟨_, rfl, by decide⟩
    · split at h
      · obtain rfl := List.mem_singleton.1 h
        exact ⟨_, rfl, by decide⟩
      · cases h
  · cases h

/-- What holds of the outcomes of single frames and of drops holds of all outcomes. -/
theorem forall_processAll (env : Env) (st : State) (buf : Buffer) (desc : RxDescriptor)
    {P : Outcome → Prop} (single : ∀ st buf desc, P (process env st buf desc).1)
    (dropped : ∀ reason, P (.drop reason)) :
    ∀ outcome ∈ (processAll env st buf desc).1, P outcome := by
  intro outcome mem
  rw [processAll_eq] at mem
  rcases List.mem_append.1 mem with mem | mem
  · obtain ⟨result, isResult, rfl⟩ := List.mem_map.1 mem
    obtain ⟨j, at_⟩ := List.mem_iff_getElem?.1 isResult
    obtain ⟨st', processed⟩ := getElem?_steps env st (frames buf desc) j
    rw [at_] at processed
    obtain ⟨frame, -, rfl⟩ := Option.map_eq_some_iff.1 processed.symm
    exact single _ _ _
  · obtain ⟨reason, rfl, -⟩ := mem_tail mem
    exact dropped reason

end Ingress

end Airlink
