import Airlink.Proofs.Receive.Changes
import Airlink.Proofs.Transmit.Account

/-!
# Interfaces that arise

An interface is made from a configuration, and from then on it receives, has its station table and
counters read and changed, and transmits. `Interface.Arises` holds of the interfaces reached so,
whoever stands outside at each step, as long as the transport gives back what it is handed. Their
backlogs are as they should be between operations (`Arises.settled`), since receiving does not touch
the backlog.
-/

namespace Airlink.Interface

variable {σ : Type}

/-! ## Receiving leaves the backlog alone -/

theorem backlog_receive (o : Outside σ) (near : Neighbors) (now : Instant) (i : Interface) (s : σ)
    (buf : Buffer) : (i.receive o near now s buf).2.1.backlog = i.backlog := by
  obtain ⟨stations, counters, same, -⟩ := i.receive_changes o near now s buf
  rw [same]

theorem backlog_receiveReordered (o : Outside σ) (near : Neighbors) (now : Instant) (i : Interface)
    (s : σ) (buf : Buffer) : (i.receiveReordered o near now s buf).2.1.backlog = i.backlog := by
  obtain ⟨stations, same⟩ := i.receiveReordered_changes o near now s buf
  rw [same]

/-! ## The interfaces -/

/-- The interfaces that can come to be. -/
inductive Arises : Interface → Prop where
  | made {c : InterfaceConfig} {i : Interface} (h : ofConfig c = .ok i) : Arises i
  | receive {σ : Type} (o : Outside σ) (near : Neighbors) (now : Instant) (s : σ) (buf : Buffer)
      {i : Interface} (h : Arises i) : Arises (i.receive o near now s buf).2.1
  | receiveReordered {σ : Type} (o : Outside σ) (near : Neighbors) (now : Instant) (s : σ)
      (buf : Buffer) {i : Interface} (h : Arises i) :
      Arises (i.receiveReordered o near now s buf).2.1
  /-- The owner works on the station table and the counters. -/
  | tend (stations : StationTable) (counters : Counters) {i : Interface} (h : Arises i) :
      Arises { i with stations, counters }
  | transmit {σ : Type} {o : Outside σ} (returns : o.Returns) (op : TxOp) (s : σ) {i : Interface}
      (h : Arises i) : Arises (op.apply o (i, s)).1

theorem backlog_ofConfig {c : InterfaceConfig} {i : Interface} (h : ofConfig c = .ok i) :
    i.backlog = .empty := by
  unfold ofConfig at h
  by_cases hm : c.maxStations = 0
  · rw [if_pos hm] at h
    cases h
  · rw [if_neg hm] at h
    cases ha : c.ownAddr with
    | error e => rw [ha] at h; cases h
    | ok addr => rw [ha] at h; cases h; rfl

/-- Between two operations the backlog is as it should be. -/
theorem Arises.settled {i : Interface} (h : Arises i) : i.backlog.Settled := by
  induction h with
  | made h =>
    rw [backlog_ofConfig h]
    exact .empty
  | receive o near now s buf _ ih =>
    rw [backlog_receive]
    exact ih
  | receiveReordered o near now s buf _ ih =>
    rw [backlog_receiveReordered]
    exact ih
  | tend stations counters _ ih => exact ih
  | @transmit _ o returns op s i _ ih =>
    obtain ⟨settled, -⟩ := op.apply_moves returns (i, s, []) ih
    have same : (op.apply o.logged (i, s, [])).1 = (op.apply o (i, s)).1 :=
      congrArg Prod.fst (op.apply_unlogged o (i, s, []))
    rwa [same] at settled

/-- The station interface of the usual settings, before its first operation. -/
def standard : Interface where
  name := "mlan0"
  bssNum := 0
  settings := {
    role := .station
    ownAddr := ⟨2, 0, 0, 0, 0, 1⟩
    mgmtPassthrough := false
    arpFilter := true
    rawMonitor := false
    groupMonitor := false
    forwarding := .standard }
  blockAck := false
  stations := .empty 64 (300 * nanosPerSecond)
  backlog := .empty
  counters := .zero
  egress := ⟨0, 0⟩
  nextToken := 0

theorem ofConfig_standard : ofConfig .standard = .ok standard := by rfl

theorem standard_arises : standard.Arises := .made ofConfig_standard

end Airlink.Interface
