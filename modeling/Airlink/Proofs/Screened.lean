import Airlink.Proofs.Processing

/-!
# Screening reaches every frame that leaves

Screening looks at the packet where the translation says that it starts. A frame that leaves as
Ethernet-II has its packet there, and a frame that leaves with a length field has no ethertype that
anybody would act on, so that the frames that pass are exactly those that do not threaten
(`Ingress.screen_eq_drop_iff`). What is routed, forwarded or copied afterwards holds the same
octets.

`Ingress.processAll_screened` is the result for every class of frame: with the filter on, nothing
that leaves is a threat, and a frame is dropped as one just if it is one.
-/

namespace Airlink

/-! ## The buffers of an outcome -/

/-- The buffer of a copy. -/
def Duplicate.buffer : Duplicate → Buffer
  | .retransmit buf _ => buf
  | .monitor buf => buf

/-- The buffers of data frames in an outcome, copies included. -/
def Outcome.buffers : Outcome → List Buffer
  | .deliver buf => [buf]
  | .forward buf _ => [buf]
  | .duplicate buf copies => buf :: copies.map Duplicate.buffer
  | .event _ => []
  | .drop _ => []

namespace Ingress

/-- Copies hold the octets of the frame. -/
theorem window_copies (v : Forwarding.View) (b : Buffer) :
    ∀ copy ∈ Forwarding.copies v b, copy.buffer.window = b.window := by
  intro copy mem
  unfold Forwarding.copies at mem
  rcases List.mem_append.1 mem with mem | mem
  · split at mem
    · cases mem
    · obtain rfl := List.mem_singleton.1 mem
      exact b.window_duplicate
  · split at mem
    · obtain rfl := List.mem_singleton.1 mem
      exact b.window_duplicate
    · cases mem

/-- Whatever way a frame is sent, its octets stay. -/
theorem window_routeTo (env : Env) (st : State) (b : Buffer) (dest : HwAddr) :
    ∀ out ∈ (routeTo env st b dest).buffers, out.window = b.window := by
  have alone (c : Buffer) (h : c.window = b.window) : ∀ out ∈ [c], out.window = b.window := by
    intro out mem
    obtain rfl := List.mem_singleton.1 mem
    exact h
  have nothing : ∀ out ∈ ([] : List Buffer), out.window = b.window := nofun
  unfold routeTo
  split
  · exact alone b rfl
  · unfold Forwarding.decide
    split
    · exact alone b rfl
    · split
      · unfold Forwarding.decideGroup
        split
        · exact alone b rfl
        · intro out mem
          rcases List.mem_cons.1 mem with rfl | mem
          · rfl
          · obtain ⟨copy, isCopy, rfl⟩ := List.mem_map.1 mem
            exact window_copies _ b copy isCopy
      · unfold Forwarding.decideUnicast
        repeat' split
        · exact alone b rfl
        · exact alone b rfl
        · exact alone _ b.window_toTx
        · exact alone b rfl
        · exact alone _ b.window_toTx
        · exact alone b rfl
        · exact nothing

/-! ## Screening -/

/-- A translated frame is dropped by screening just if it is a threat and the filter is on. -/
theorem screen_eq_drop_iff (env : Env) {b c : Buffer} {translation : Translation}
    (h : b.toEthernet = .ok (translation, c)) (reason : DropReason) :
    screen env translation c.window = .drop reason ↔
      env.settings.arpFilter = true ∧ Screening.threat? c.window = some reason := by
  unfold screen
  rcases (Buffer.collapses_of_toEthernet h).type_or_length with found | ⟨isLength, tunnelled⟩
  · rw [found]
    exact Screening.inspect_eq_drop_iff _ _ _ reason
  · rw [Screening.threat?_of_isLength isLength]
    cases behind : translation.networkLayer with
    | none => simp
    | some found =>
      obtain ⟨etherType, start⟩ := found
      dsimp only
      rw [Screening.inspect_eq_drop_iff,
        Screening.takeover?_of_isTunnelled (tunnelled _ _ behind)]

/-- A frame that is sent on after a verdict other than to drop it holds its octets. -/
theorem window_conclude (env : Env) (st : State) (c : Buffer) (verdict : Screening.Verdict) :
    ∀ out ∈ (conclude env st c verdict).1.buffers,
      out.window = c.window ∧ ∀ reason, verdict ≠ .drop reason := by
  cases verdict with
  | drop reason => nofun
  | pass => exact fun out mem => ⟨window_routeTo env st c _ out mem, nofun⟩
  | tdls tdls => exact fun out mem => ⟨window_routeTo env _ c _ out mem, nofun⟩

/-! ## Single frames -/

/-- With the filter on, no buffer that comes of a single frame is a threat. -/
theorem Processed.harmless {env : Env} {st : State} {buf : Buffer} {desc : RxDescriptor}
    {result : Outcome × State} (h : Processed env st buf desc result)
    (filter : env.settings.arpFilter = true) :
    ∀ out ∈ result.1.buffers, Screening.threat? out.window = none := by
  cases h with
  | event e untranslated => nofun
  | drop reason untranslated unscreened => nofun
  | @sent b c translation carried translated =>
    intro out mem
    obtain ⟨window, passed⟩ := window_conclude env st c _ out mem
    rw [window, Option.eq_none_iff_forall_ne_some]
    intro reason threat
    exact passed reason ((screen_eq_drop_iff env translated reason).2 ⟨filter, threat⟩)

/-- A single frame is dropped for a reason of screening just if the filter is on and the frame is
such a threat once it is translated. -/
theorem Processed.dropped_iff {env : Env} {st : State} {buf : Buffer} {desc : RxDescriptor}
    {result : Outcome × State} (h : Processed env st buf desc result) {reason : DropReason}
    (screening : reason.IsScreening) :
    result.1 = .drop reason ↔ env.settings.arpFilter = true ∧
      (translated? env buf desc).bind Screening.threat? = some reason := by
  cases h with
  | event e untranslated => simp [untranslated]
  | drop other untranslated unscreened =>
    rw [untranslated]
    refine iff_of_false ?_ (by simp)
    intro same
    cases same
    exact unscreened screening
  | @sent b c translation carried translated =>
    have routed : reason ≠ .unroutableUnicast := by
      rintro rfl
      exact absurd screening (by decide)
    rw [conclude_eq_drop_iff env st c _ routed, screen_eq_drop_iff env translated,
      translated?_of_toEthernet carried translated, Option.bind_some]

/-! ## All frames -/

/-- **Screening cannot be bypassed.** Whatever class a received frame has, at a station and at an
access point: with the filter on, no buffer that is delivered, forwarded or copied holds a
gratuitous address resolution or an unsolicited neighbour advertisement. And an outcome is a drop
for one of these reasons just if the filter is on and the frame at its place, be it a part of an
aggregate, has such a packet behind its header once it is translated. -/
theorem processAll_screened (env : Env) (st : State) (buf : Buffer) (desc : RxDescriptor) :
    let outcomes := (processAll env st buf desc).1
    (env.settings.arpFilter = true →
      ∀ outcome ∈ outcomes, ∀ out ∈ outcome.buffers, Screening.threat? out.window = none) ∧
    ∀ (j : Nat) (reason : DropReason), reason.IsScreening →
      (outcomes[j]? = some (.drop reason) ↔ env.settings.arpFilter = true ∧
        ∃ frame, (frames buf desc)[j]? = some frame ∧
          (translated? env frame.1 frame.2).bind Screening.threat? = some reason) := by
  intro outcomes
  refine ⟨fun filter => forall_processAll env st buf desc
    (fun st buf desc => (process_processed env st buf desc).harmless filter) (fun _ => nofun), ?_⟩
  intro j reason screening
  obtain ⟨st', processed⟩ := getElem?_steps env st (frames buf desc) j
  have atPlace : outcomes[j]? = some (.drop reason) ↔
      ((steps env st (frames buf desc)).map Prod.fst)[j]? = some (.drop reason) := by
    simp only [outcomes, processAll_eq]
    -- What stands behind the outcomes of single frames is a drop for other reasons.
    rcases Nat.lt_or_ge j ((steps env st (frames buf desc)).map Prod.fst).length with
      inside | behind
    · rw [List.getElem?_append_left inside]
    · rw [List.getElem?_append_right behind, List.getElem?_eq_none behind]
      refine iff_of_false ?_ nofun
      intro last
      obtain ⟨other, same, unscreened⟩ := mem_tail (List.mem_of_getElem? last)
      cases same
      exact unscreened screening
  rw [atPlace, List.getElem?_map, processed]
  cases atFrame : (frames buf desc)[j]? with
  | none => simp
  | some frame =>
    have single := (process_processed env st' frame.1 frame.2).dropped_iff screening
    simp only [Option.map_some, Option.some_inj, single, exists_eq_left']

end Ingress

end Airlink
