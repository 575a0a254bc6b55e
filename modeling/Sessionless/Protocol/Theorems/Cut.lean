import Sessionless.Protocol.Reference

/-!
# A cut connection

Two parties have exchanged attempt frames and lose whatever is under way. Which pairs of
attempts the reconnect brings together again.
-/

namespace Sessionless.Protocol

section

variable [Crypto]

/-- A cut is reconciled exactly when the worker has seen the offer, the platform has not cancelled an
attempt that the worker has not seen accepted, and both parties report one cancellation and one outcome. -/
theorem lost_frames_reconciled_iff {start platform' worker' : ConformanceMachine} {connection : Connection}
    {next : AuthContextV1} {reconnect : ReconnectV1} {now : Int} (hs : start.Sound) (hready : start.connection = .ready)
    (hidle : start.attempt = {}) (run : Relation.ReflTransGen Connection.AttemptStep (.initial start) connection)
    (hr : Redial connection.platform connection.worker next reconnect now platform' worker') :
    Reconciled connection.platform reconnect now platform' worker' ↔
      Recoverable connection.platform.attempt connection.worker.attempt := by
  have hsettled : start.Settled :=
    ⟨⟨.inl hready, by rw [hidle]; exact fun _ => rfl⟩, by rw [hidle]; exact AttemptRecord.regular_empty⟩
  exact reconciled_iff (Connection.cutApart_run hs hsettled run) hr

end

section

open Reference

/-- The claim of an offered lease is lost: the worker is back at the offer. -/
theorem lost_frames_reconciled_iff_claim : ∃ connection reconnect platform' worker',
    Relation.ReflTransGen Connection.AttemptStep (.initial (ready 1 {})) connection ∧ connection.toLeft ≠ [] ∧
      Redial connection.platform connection.worker (auth 2) reconnect 10 platform' worker' ∧
      Reconciled connection.platform reconnect 10 platform' worker' := by
  have hrun : ((Connection.play 10 (.initial (ready 1 {}))
        [.platformSends (.attempt leaseOffer), .workerTakes, .workerSends (.attempt leaseClaim)]).any fun connection =>
      decide (connection.toLeft ≠ [] ∧ connection.worker.attempt.state = .claimPending ∧
        connection.platform.attempt.state = .offered ∧ connection.worker.attempt.cancelRevision = 0)) = true := by decide +kernel
  obtain ⟨connection, hplay, hrun⟩ := (Option.any_eq_true _ _).1 hrun
  obtain ⟨hlost, hworker, hplatform, hrevision⟩ := of_decide_eq_true hrun
  obtain ⟨run, hredial⟩ := redial_of_play (by simp [Connection.Action.IsAttempt, Payload.IsAttempt]) hplay
  refine ⟨connection, _, _, _, run, hlost, hredial,
    (lost_frames_reconciled_iff (sound_ready Nat.one_ne_zero) rfl rfl run hredial).2 ?_⟩
  constructor <;> simp [hworker, hplatform, hrevision]

/-- The offer itself is lost: the worker claims that it has no attempt, which the platform's record rules out. -/
theorem lost_offer_not_reconciled : ∃ connection reconnect platform' worker',
    Relation.ReflTransGen Connection.AttemptStep (.initial (ready 1 {})) connection ∧
      connection.platform.attempt.state = .offered ∧ connection.worker.attempt.state = .idle ∧
      Redial connection.platform connection.worker (auth 2) reconnect 10 platform' worker' ∧
      ¬ reconnectClaimsCompatible worker'.reconnectRecord platform'.reconnectRecord ∧
      ¬ Reconciled connection.platform reconnect 10 platform' worker' := by
  have hrun : ((Connection.play 10 (.initial (ready 1 {})) [.platformSends (.attempt leaseOffer)]).any fun connection =>
      decide (connection.platform.attempt.state = .offered ∧
        connection.worker.attempt.state = .idle)) = true := by decide +kernel
  obtain ⟨connection, hplay, hrun⟩ := (Option.any_eq_true _ _).1 hrun
  obtain ⟨hplatform, hworker⟩ := of_decide_eq_true hrun
  obtain ⟨run, hredial⟩ := redial_of_play (by simp [Connection.Action.IsAttempt, Payload.IsAttempt]) hplay
  have hapart := Connection.cutApart_run (sound_ready Nat.one_ne_zero) settled_ready run
  have hincompatible : ¬ reconnectClaimsCompatible connection.worker.cutRecord connection.platform.cutRecord := by
    rw [hapart.compatible, if_pos (.inl hworker), hplatform, hworker]
    simp
  have hrecord : (connection.platform.reconnected (auth 2)).reconnectRecord = connection.platform.cutRecord :=
    ConformanceMachine.reconnectRecord_reconnected hapart.platformRegular.pending
  have hrecord' : (connection.worker.reconnected (auth 2)).reconnectRecord = connection.worker.cutRecord :=
    ConformanceMachine.reconnectRecord_reconnected hapart.workerRegular.pending
  rw [← hrecord, ← hrecord'] at hincompatible
  exact ⟨connection, _, _, _, run, hplatform, hworker, hredial, hincompatible, fun h => hincompatible h.1⟩

end

end Sessionless.Protocol
