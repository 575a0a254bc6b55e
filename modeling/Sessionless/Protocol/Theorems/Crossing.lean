import Sessionless.Protocol.Reference

/-!
# Crossing frames converge

As long as no two frames that collide are under way at once, whatever a party may send the
other accepts when it arrives, and the parties agree whenever nothing is under way.
-/

namespace Sessionless.Protocol

open Lib

section

variable [Crypto]

theorem crossing_frames_accepted_and_converge {machine : ConformanceMachine} {connection : Connection}
    (hready : machine.connection = .ready) (hu : machine.attempt.Uncancelled)
    (run : Relation.ReflTransGen Connection.ClearStep (.initial machine) connection) :
    (∀ frame rest now, connection.toRight = frame :: rest → 0 < now → frame.payload.Timely now →
      ∃ worker, connection.worker.accept .platformToWorker frame (connection.worker.config.acceptance now) =
        .ok () worker) ∧
    (∀ frame rest now, connection.toLeft = frame :: rest → 0 < now → frame.payload.Timely now →
      ∃ platform, connection.platform.accept .workerToPlatform frame (connection.platform.config.acceptance now) =
        .ok () platform) ∧
    (connection.toRight = [] → connection.toLeft = [] →
      connection.platform.currentAttemptSummary = connection.worker.currentAttemptSummary ∧
        connection.platform.connection = connection.worker.connection) := by
  have hdiamond := ConformanceMachine.takes_diamond.mono (fun _ => Collides) fun h => h.1
  obtain ⟨hforked, hclear⟩ := hdiamond.forked_run ⟨.inl hready, hu⟩ run
  refine ⟨fun frame rest now hhead hn ht => ?_, fun frame rest now hhead hn ht => ?_, fun hr hl => ?_⟩
  · obtain ⟨worker, htaken⟩ := hdiamond.right_takes hforked hclear hhead
    exact ⟨worker, htaken.accept hn ht⟩
  · obtain ⟨platform, htaken⟩ := hdiamond.left_takes hforked hclear hhead
    exact ⟨platform, htaken.accept hn ht⟩
  · have heq : connection.platform = connection.worker := hforked.eq_of_quiet hr hl
    rw [heq]
    exact ⟨rfl, rfl⟩

end

section

open Reference

/-- An offer crosses a heartbeat. -/
theorem crossing_frames_accepted_and_converge_offer : ∃ connection : Connection, connection.toRight ≠ [] ∧
    connection.toLeft ≠ [] ∧ Relation.ReflTransGen Connection.ClearStep (.initial (ready 1 {})) connection ∧
    ∀ frame rest, connection.toRight = frame :: rest → frame.payload.Timely 10 →
      ∃ worker, connection.worker.accept .platformToWorker frame (connection.worker.config.acceptance 10) =
        .ok () worker := by
  have hrun : ((Connection.act 10 (.initial (ready 1 {})) (.platformSends (.attempt leaseOffer))).any fun first =>
      (first.act 10 (.workerSends (.heartbeat ⟨10, true, 0⟩))).any fun second =>
        decide (first.toLeft = [] ∧ second.toRight ≠ [] ∧ second.toLeft ≠ [] ∧
          ∀ frame ∈ second.toRight, frame.payload = .attempt leaseOffer)) = true := by decide +kernel
  obtain ⟨first, hfirst, hrun⟩ := (Option.any_eq_true _ _).1 hrun
  obtain ⟨second, hsecond, hrun⟩ := (Option.any_eq_true _ _).1 hrun
  obtain ⟨h1, h2, h3, h4⟩ := of_decide_eq_true hrun
  have hclear : first.Clear Collides := fun _ _ r hr => by simp [h1] at hr
  have hclear' : second.Clear Collides := fun l hl r _ h => by
    simp [Collides, h4 l hl, leaseOffer] at h
  have run : Relation.ReflTransGen Connection.ClearStep (.initial (ready 1 {})) second :=
    .tail (.tail .refl ⟨Connection.step_of_act hfirst, hclear⟩) ⟨Connection.step_of_act hsecond, hclear'⟩
  refine ⟨second, h2, h3, run, fun frame rest hhead ht => ?_⟩
  exact (crossing_frames_accepted_and_converge rfl (fun _ => rfl) run).1 frame rest 10 hhead (by decide) ht

/-- The worker announces that it is available while the platform drains the connection: the platform
refuses the heartbeat, and with it every later envelope of the worker. -/
theorem crossed_heartbeat_refused : ∃ connection : Connection,
    (ready 1 {}).connection = .ready ∧ (∀ feature, (ready 1 {}).hasFeature feature) ∧
    Relation.ReflTransGen Connection.Step (.initial (ready 1 {})) connection ∧
    ∃ frame rest, connection.toLeft = frame :: rest ∧ frame.payload.Timely 10 ∧
      ∀ platform, connection.platform.accept .workerToPlatform frame (connection.platform.config.acceptance 10) ≠
        .ok () platform := by
  have hfeatures : ∀ feature, (ready 1 {}).hasFeature feature := by
    intro feature
    cases feature <;> decide
  have hrun : ((Connection.play 10 (.initial (ready 1 {}))
        [.platformSends (.drain ⟨1⟩), .workerSends (.heartbeat ⟨10, true, 0⟩)]).any fun connection =>
      connection.toLeft.head?.any fun frame => decide (frame.payload = .heartbeat ⟨10, true, 0⟩) &&
        !ranAnd (connection.platform.accept .workerToPlatform frame (connection.platform.config.acceptance 10))
          fun _ => true) = true := by decide +kernel
  obtain ⟨connection, hplay, hrun⟩ := (Option.any_eq_true _ _).1 hrun
  obtain ⟨frame, hhead, hrun⟩ := (Option.any_eq_true _ _).1 hrun
  obtain ⟨rest, hhead⟩ := List.head?_eq_some_iff.1 hhead
  rw [Bool.and_eq_true, Bool.not_eq_true'] at hrun
  have htimely : frame.payload.Timely 10 := by rw [of_decide_eq_true hrun.1]; trivial
  refine ⟨connection, rfl, hfeatures, Connection.run_of_play hplay, frame, rest, hhead, htimely,
    fun platform h => ?_⟩
  rw [h] at hrun
  exact absurd hrun.2 (by simp [ranAnd])

end

end Sessionless.Protocol
