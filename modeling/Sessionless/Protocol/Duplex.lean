import Sessionless.Lib.Duplex
import Sessionless.Protocol.Run

/-!
# The two parties of a connection

The platform and the worker each drive a machine of their own with the frames of both
directions: a frame is accepted by its sender when it is sent and by the other party when
it arrives, over one first-in first-out channel per direction.
-/

namespace Sessionless.Protocol

open Lib

/-- The frames of an established connection that leave it established. -/
def Payload.Exchanged : Payload → Prop
  | .attempt _ | .heartbeat _ | .drain _ => True
  | _ => False

instance : (payload : Payload) → Decidable payload.Exchanged
  | .attempt _ | .heartbeat _ | .drain _ => isTrue trivial
  | .hello _ | .challenge _ | .attach _ | .attachAccepted _ | .reconnect _ | .reconnectAccepted _ | .manifest _
  | .drained _ | .revoke _ | .revoked _ | .error _ => isFalse id

/-- A time before the lease of the attempt has expired. -/
def Payload.Timely : Payload → Int → Prop
  | .attempt message, nowUnixMicro => nowUnixMicro < message.binding.expiresAtUnixMicro
  | _, _ => True

/-- A platform frame and a worker frame that cannot be taken in either order. -/
def Collides (platformFrame workerFrame : FrameV1) : Prop :=
  match platformFrame.payload, workerFrame.payload with
  | .attempt (.cancel _), .attempt (.leaseClaim _) => True
  | .attempt (.cancel cancel), .attempt (.progress _) => cancel.code = .fenced
  | .attempt (.cancel cancel), .attempt (.terminal _) => cancel.code = .fenced
  | .drain _, .heartbeat heartbeat => heartbeat.available = true
  | _, _ => False

def AttemptRecord.Uncancelled (attempt : AttemptRecord) : Prop :=
  attempt.state = .idle ∨ attempt.state = .offered ∨ attempt.state = .claimPending ∨ attempt.state = .claimed →
    attempt.cancelRevision = 0

variable [Crypto]

/-- An attempt frame that is not yet in the ledger of its direction; any other frame. -/
def ConformanceMachine.Unseen (machine : ConformanceMachine) (direction : Direction) (frame : FrameV1) : Prop :=
  ∀ message, frame.payload = .attempt message → (machine.attemptSender direction).sequence < message.sequence

/-- The frames collide, and neither repeats an earlier one. -/
def ConformanceMachine.Clashes (machine : ConformanceMachine) (platformFrame workerFrame : FrameV1) : Prop :=
  Collides platformFrame workerFrame ∧ machine.Unseen .platformToWorker platformFrame ∧
    machine.Unseen .workerToPlatform workerFrame

/-- The frame is the next envelope of its direction and the machine accepts it at some time. -/
def ConformanceMachine.Takes (direction : Direction) (machine : ConformanceMachine) (frame : FrameV1)
    (machine' : ConformanceMachine) : Prop :=
  frame.payload.Exchanged ∧ frame.sequence ≠ (machine.sender direction).sequence ∧
    ∃ now, machine.accept direction frame (machine.config.acceptance now) = .ok () machine'

def Payload.IsAttempt (payload : Payload) : Prop := ∃ message, payload = .attempt message

/-- `Takes`, of an attempt frame. -/
def ConformanceMachine.TakesAttempt (direction : Direction) (machine : ConformanceMachine) (frame : FrameV1)
    (machine' : ConformanceMachine) : Prop :=
  frame.payload.IsAttempt ∧ Takes direction machine frame machine'

/-- `Takes` at a given time. -/
def ConformanceMachine.take (now : Int) (direction : Direction) (machine : ConformanceMachine) (frame : FrameV1) :
    Option ConformanceMachine :=
  if frame.payload.Exchanged ∧ frame.sequence ≠ (machine.sender direction).sequence then
    match machine.accept direction frame (machine.config.acceptance now) with
    | .ok _ machine => some machine
    | .error _ _ => none
  else none

theorem ConformanceMachine.takes_of_take {now direction machine machine' frame} (h : machine.take now direction frame = some machine') :
    Takes direction machine frame machine' := by
  unfold take at h
  split at h
  · rename_i hg
    split at h
    · rename_i ha
      cases h
      exact ⟨hg.1, hg.2, now, ha⟩
    · cases h
  · cases h

/-- The platform, the worker and the frames under way between them. -/
abbrev Connection := Link ConformanceMachine FrameV1 FrameV1

namespace Connection

abbrev platform (connection : Connection) : ConformanceMachine := connection.left

abbrev worker (connection : Connection) : ConformanceMachine := connection.right

/-- A party sends a frame that its own machine takes, or takes the first frame of its channel. -/
def Step (connection connection' : Connection) : Prop :=
  Link.Step (ConformanceMachine.Takes .platformToWorker) (ConformanceMachine.Takes .workerToPlatform)
    connection connection'

def AttemptStep (connection connection' : Connection) : Prop :=
  Link.Step (ConformanceMachine.TakesAttempt .platformToWorker) (ConformanceMachine.TakesAttempt .workerToPlatform)
    connection connection'

def ClearStep (connection connection' : Connection) : Prop :=
  connection.Step connection' ∧ connection'.Clear Collides

/-! ## Running the parties -/

/-- What a party does next: send a payload, or take the first frame of the channel to it. -/
inductive Action
  | platformSends (payload : Payload)
  | workerSends (payload : Payload)
  | platformTakes
  | workerTakes

/-- One action, at a given time; nothing when the party's machine refuses the frame. -/
def act (now : Int) (connection : Connection) : Action → Option Connection
  | .platformSends payload =>
    let frame := connection.platform.nextFrame .platformToWorker payload
    (connection.platform.take now .platformToWorker frame).map fun machine =>
      { connection with left := machine, toRight := connection.toRight ++ [frame] }
  | .workerSends payload =>
    let frame := connection.worker.nextFrame .workerToPlatform payload
    (connection.worker.take now .workerToPlatform frame).map fun machine =>
      { connection with right := machine, toLeft := connection.toLeft ++ [frame] }
  | .platformTakes =>
    match connection.toLeft with
    | [] => none
    | frame :: rest => (connection.platform.take now .workerToPlatform frame).map fun machine =>
      { connection with left := machine, toLeft := rest }
  | .workerTakes =>
    match connection.toRight with
    | [] => none
    | frame :: rest => (connection.worker.take now .platformToWorker frame).map fun machine =>
      { connection with right := machine, toRight := rest }

def play (now : Int) (connection : Connection) : List Action → Option Connection
  | [] => some connection
  | action :: rest => (connection.act now action).bind fun connection => connection.play now rest

theorem step_of_act {now} {connection connection' : Connection} {action}
    (h : connection.act now action = some connection') : connection.Step connection' := by
  cases action with
  | platformSends payload =>
    obtain ⟨machine, ht, rfl⟩ := Option.map_eq_some_iff.1 h
    exact .sendLeft (ConformanceMachine.takes_of_take ht)
  | workerSends payload =>
    obtain ⟨machine, ht, rfl⟩ := Option.map_eq_some_iff.1 h
    exact .sendRight (ConformanceMachine.takes_of_take ht)
  | platformTakes =>
    simp only [act] at h
    split at h
    · cases h
    · rename_i frame rest hhead
      obtain ⟨machine, ht, rfl⟩ := Option.map_eq_some_iff.1 h
      exact .arriveLeft hhead (ConformanceMachine.takes_of_take ht)
  | workerTakes =>
    simp only [act] at h
    split at h
    · cases h
    · rename_i frame rest hhead
      obtain ⟨machine, ht, rfl⟩ := Option.map_eq_some_iff.1 h
      exact .arriveRight hhead (ConformanceMachine.takes_of_take ht)

theorem run_of_play {now} {connection connection' : Connection} {actions}
    (h : connection.play now actions = some connection') : Relation.ReflTransGen Step connection connection' := by
  induction actions generalizing connection with
  | nil => cases h; exact .refl
  | cons action rest ih =>
    obtain ⟨next, hact, hrest⟩ := Option.bind_eq_some_iff.1 h
    exact .head (step_of_act hact) (ih hrest)

end Connection

end Sessionless.Protocol
