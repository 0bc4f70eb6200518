import Airlink.Proofs.Radio.Course
import Airlink.Proofs.Radio.Deliveries
import Airlink.Proofs.Radio.Relay
import Airlink.Proofs.Radio.Service
import Airlink.Proofs.Transmit.Framing

/-!
# Frames that leave a radio

Whatever a radio does, each buffer that it hands to the transport and each one that waits holds a
payload behind one descriptor, that of the interface which submits it or at which it waits, and fits
on the bus (`Radio.run_frames`). This is so wherever the payload comes from and however often it has
waited, as long as the transport gives back what it is handed.
-/

namespace Airlink

open Outside (Call)

variable {σ : Type}

/-! ## Interfaces -/

/-- The identity that an interface has by its role and number. -/
def Interface.ownEgress (i : Interface) : Egress := ⟨i.settings.role.bssType, i.bssNum⟩

/-- All that waits at an interface is framed by its role and number, and so is what it sends. -/
structure Interface.Framing (i : Interface) : Prop where
  egress : i.egress = i.ownEgress
  waiting : ∀ buf ∈ i.backlog.frames, i.ownEgress.Frames buf

namespace Interface

/-- What an interface is known by decides how it frames. -/
theorem ownEgress_eq {i j : Interface} (same : j.identity = i.identity) :
    j.ownEgress = i.ownEgress :=
  congrArg (fun d : Identity => (⟨d.settings.role.bssType, d.bssNum⟩ : Egress)) same

theorem Framing.rests {i j : Interface} (h : i.Framing) (rests : i.Rests j) : j.Framing where
  egress := (congrArg Identity.egress rests.identity).trans
    (h.egress.trans (ownEgress_eq rests.identity).symm)
  waiting := by
    rw [ownEgress_eq rests.identity, rests.backlog]
    exact h.waiting

end Interface

/-- An operation on the way out does not change what makes the interface the one it is. -/
theorem TxOp.identity_apply (o : Outside σ) (op : TxOp) (st : Interface × σ) :
    (op.apply o st).1.identity = st.1.identity := by
  cases op with
  | send buf hints => exact st.1.identity_send o st.2 buf hints
  | relay buf => exact st.1.identity_relay o st.2 buf
  | drainOne => exact st.1.identity_drainOne o st.2
  | flush => exact st.1.identity_flush o st.2

/-- An operation on the way out submits and leaves behind only what is framed. -/
theorem Interface.Framing.transmit {o : Outside σ} (returns : o.Returns) {i : Interface}
    (h : i.Framing) (op : TxOp) (s : σ) (log : List Call) :
    (op.apply o.logged (i, s, log)).1.Framing ∧
      ∃ calls, (op.apply o.logged (i, s, log)).2.2 = log ++ calls ∧
        ∀ m ∈ submissions calls, i.ownEgress.Frames m.1 := by
  have waiting : ∀ buf ∈ i.backlog.frames, i.egress.Frames buf := by
    rw [h.egress]
    exact h.waiting
  have same := op.identity_apply o.logged (i, s, log)
  obtain ⟨left, calls, noted, made⟩ := op.frames_apply returns waiting s log
  rw [h.egress] at left made
  refine ⟨⟨?_, ?_⟩, calls, noted, made⟩
  · exact (congrArg Identity.egress same).trans (h.egress.trans (ownEgress_eq same).symm)
  · rw [ownEgress_eq same]
    exact left

/-- Interfaces that arise frame what they send. -/
theorem Interface.Arises.framing {i : Interface} (h : i.Arises) : i.Framing := by
  induction h with
  | made made =>
    have from_ := madeFrom_of_ofConfig made
    refine ⟨by rw [from_.egress, ownEgress, from_.role, from_.bssNum], ?_⟩
    rw [from_.backlog]
    exact List.forall_mem_nil _
  | receive o near now s buf _ ih =>
    exact ih.rests ⟨identity_receive .., backlog_receive ..⟩
  | receiveReordered o near now s buf _ ih =>
    exact ih.rests ⟨identity_receiveReordered .., backlog_receiveReordered ..⟩
  | tend stations counters _ ih => exact ih.rests ⟨rfl, rfl⟩
  | @transmit _ o returns op s i _ ih =>
    have left := (ih.transmit returns op s []).1
    have same : (op.apply o.logged (i, s, [])).1 = (op.apply o (i, s)).1 :=
      congrArg Prod.fst (op.apply_unlogged o (i, s, []))
    rwa [same] at left

/-! ## Courses -/

/-- Interfaces that frame alike one by one. -/
theorem map_ownEgress {is js : List Interface}
    (h : List.Forall₂ (fun i j => Interface.ownEgress j = Interface.ownEgress i) is js) :
    js.map Interface.ownEgress = is.map Interface.ownEgress := by
  induction h with
  | nil => rfl
  | cons first _ ih => rw [List.map_cons, List.map_cons, first, ih]

/-- A course keeps what waits framed, and submits nothing else. -/
theorem Course.frames {o : Outside σ} (returns : o.Returns)
    {st st' : List Interface × σ × List Call} {made : List (Nat × Buffer × Submission)}
    (h : Course o st made st') (all : ∀ i ∈ st.1, i.Framing) :
    (∀ j ∈ st'.1, j.Framing) ∧
      st'.1.map Interface.ownEgress = st.1.map Interface.ownEgress ∧
      ∀ m ∈ made, ∃ i, st.1[m.1]? = some i ∧ i.ownEgress.Frames m.2.1 := by
  induction h with
  | quiet rests silent =>
    refine ⟨Radio.forall_of_forall₂ (rests.imp fun _ _ rests framing => framing.rests rests) all,
      map_ownEgress (rests.imp fun _ _ rests => Interface.ownEgress_eq rests.identity), ?_⟩
    exact List.forall_mem_nil _
  | @transmit is k i s log calls at_ op noted =>
    have framing := all i (List.mem_of_getElem? at_)
    obtain ⟨left, calls', noted', framed⟩ := framing.transmit returns op s log
    obtain rfl : calls' = calls := List.append_cancel_left (noted'.symm.trans noted)
    have same := Interface.ownEgress_eq (op.identity_apply o.logged (i, s, log))
    have alike := Radio.forall₂_set
      (R := fun i j => Interface.ownEgress j = Interface.ownEgress i) (fun _ => rfl) at_ same
    refine ⟨?_, map_ownEgress alike, ?_⟩
    · intro j mem
      rcases List.mem_or_eq_of_mem_set mem with mem | rfl
      · exact all j mem
      · exact left
    · intro m mem
      obtain ⟨m, here, rfl⟩ := List.mem_map.1 mem
      exact ⟨i, at_, framed m here⟩
  | @trans st st' st'' made made' _ _ ih ih' =>
    obtain ⟨all', same, framed⟩ := ih all
    obtain ⟨all'', same', framed'⟩ := ih' all'
    refine ⟨all'', same'.trans same, fun m mem => ?_⟩
    rcases List.mem_append.1 mem with mem | mem
    · exact framed m mem
    · obtain ⟨j, at_, frames⟩ := framed' m mem
      have alike : (st.1.map Interface.ownEgress)[m.1]? = some j.ownEgress := by
        rw [← same, List.getElem?_map, at_, Option.map_some]
      rw [List.getElem?_map, Option.map_eq_some_iff] at alike
      obtain ⟨i, at', alike⟩ := alike
      exact ⟨i, at', alike ▸ frames⟩

namespace Radio

/-! ## Without the log -/

theorem flushAll_withoutLog (o : Outside σ) (interfaces : List Interface) (s : σ × List Call) :
    withoutLog (flushAll o.logged interfaces s) = flushAll o interfaces s.1 := by
  induction interfaces generalizing s with
  | nil => rfl
  | cons i interfaces ih =>
    have first : withoutLog (i.flush o.logged s) = i.flush o s.1 :=
      Prod.ext rfl (i.flush_unlogged o s)
    have rest := ih (i.flush o.logged s).2.2
    simp only [flushAll, ← first, withoutLog] at rest ⊢
    rw [← rest]

/-- A state without the log. -/
def unlogged (st : Radio × σ × List Call) : Radio × σ := (st.1, st.2.1)

/-- Keeping the log changes nothing. -/
theorem Op.apply_unlogged (o : Outside σ) (op : Op) (st : Radio × σ × List Call) :
    unlogged (op.apply o.logged st) = op.apply o (unlogged st) := by
  obtain ⟨r, s⟩ := st
  cases op with
  | receive now buf =>
    obtain ⟨calls, logged⟩ := receive_logged o now r s.1 s.2 buf
    exact congrArg (fun x : Except Error Unit × Radio × σ × List Call => unlogged x.2) logged
  | receiveReordered now bss buf =>
    obtain ⟨calls, logged⟩ := receiveReordered_logged o now r s.1 s.2 bss buf
    exact congrArg (fun x : Except Error Unit × Radio × σ × List Call => unlogged x.2) logged
  | send bss buf hints =>
    show unlogged (r.send o.logged s bss buf hints).2 = (r.send o s.1 bss buf hints).2
    unfold Radio.send
    cases r.require bss with
    | error e => rfl
    | ok found =>
      have sent := (found.2.send_unlogged o s buf hints).2
      exact congrArg (fun x : Interface × σ => (r.set found.1 x.1, x.2)) sent
  | service rounds => exact congrArg Prod.snd (service_withoutLog o rounds r s)
  | deliveryComplete bss => rfl
  | expire now => rfl
  | flush =>
    have flushed := flushAll_withoutLog o r.interfaces s
    exact congrArg (fun x : Nat × List Interface × σ =>
      (({ r with interfaces := x.2.1 } : Radio), x.2.2)) flushed

theorem run_unlogged (o : Outside σ) (ops : List Op) (st : Radio × σ × List Call) :
    unlogged (run o.logged ops st) = run o ops (unlogged st) :=
  (List.foldl_hom unlogged fun st op => (op.apply_unlogged o st).symm).symm

/-! ## Radios -/

/-- The radios that are put together from interfaces. -/
inductive Assembled : Radio → Prop where
  | empty : Assembled .empty
  | add {r r' : Radio} {i : Interface} (h : Assembled r) (arises : i.Arises)
      (added : r.addInterface i = .ok r') : Assembled r'

theorem Assembled.framing {r : Radio} (h : r.Assembled) : ∀ i ∈ r.interfaces, i.Framing := by
  induction h with
  | empty => exact List.forall_mem_nil _
  | add _ arises added ih =>
    rw [Reachable.interfaces_of_addInterface added]
    intro i mem
    rcases List.mem_append.1 mem with mem | mem
    · exact ih i mem
    · obtain rfl := List.mem_singleton.1 mem
      exact arises.framing

/-- **One descriptor in front of everything.** Take a radio that is put together from interfaces, a
transport that gives back what it is handed, and any operations. After they are done,

* what waits at an interface is framed by the role and number of that interface;
* the submissions that were made come from a course of work of the interfaces, and however that is
  read, each of them is framed by the role and number of the interface that made it. -/
theorem run_frames {o : Outside σ} (returns : o.Returns) {r : Radio} (assembled : r.Assembled)
    (ops : List Op) (s : σ) :
    let st := run o.logged ops (r, s, [])
    unlogged st = run o ops (r, s) ∧
      (∀ i ∈ st.1.interfaces, ∀ buf ∈ i.backlog.frames, i.ownEgress.Frames buf) ∧
      TakesCourse o (r.interfaces, s, []) (st.1.interfaces, st.2) ∧
      ∀ made, Course o (r.interfaces, s, []) made (st.1.interfaces, st.2) →
        made.map (·.2) = submissions st.2.2 ∧
        ∀ m ∈ made, ∃ i, r.interfaces[m.1]? = some i ∧ i.ownEgress.Frames m.2.1 := by
  intro st
  obtain ⟨made, course⟩ := run_takes_course o ops (r, s, [])
  refine ⟨run_unlogged o ops (r, s, []), ?_, ⟨made, course⟩, fun made course => ⟨?_, ?_⟩⟩
  · intro i mem
    exact ((course.frames returns assembled.framing).1 i mem).waiting
  · exact course.submissions_eq.symm
  · exact (course.frames returns assembled.framing).2.2

/-- A station and an access point. -/
def pair : Radio := ⟨[.standard, relayingPoint 1], .zero⟩

/-- The transport is busy for the first frame of the station, which so waits, and for its second
submission. The access point sends at once. -/
theorem run_frames_pair :
    let ops := [.send 0 (.ofBytes .tx (List.replicate 60 1)) .none,
      .send 1 (.ofBytes .tx (List.replicate 70 2)) .none, .service 3]
    Outside.scripted.Returns ∧ pair.Assembled ∧
      let st := run Outside.scripted.logged ops (pair, [.busy, .ok, .busy], [])
      (submissions st.2.2).map (·.1.size) = [84, 94, 84] ∧
        ∀ i ∈ st.1.interfaces, ∀ buf ∈ i.backlog.frames, i.ownEgress.Frames buf := by
  intro ops
  have second : Interface.ofConfig (relayingConfig 1) = .ok (relayingPoint 1) := by rfl
  have assembled : pair.Assembled :=
    .add (.add .empty Interface.standard_arises rfl) (.made second) rfl
  refine ⟨Outside.scripted_returns, assembled, by decide +kernel, ?_⟩
  exact (run_frames Outside.scripted_returns assembled ops [.busy, .ok, .busy]).2.1

end Radio

end Airlink
