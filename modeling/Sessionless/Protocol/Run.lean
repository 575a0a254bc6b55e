import Sessionless.Protocol.Durable

/-!
# Runs of the machine

The three operations a caller has on a machine, and the machines they reach from a new one.
-/

namespace Sessionless.Protocol

inductive Operation
  | accept (direction : Direction) (frame : FrameV1) (acceptance : AcceptanceContextV1)
  | beginReconnect (next : AuthContextV1)
  | eraseCommittedAttempt

variable [Crypto]

namespace ConformanceMachine

def perform (machine : ConformanceMachine) : Operation → Verdict
  | .accept direction frame acceptance => machine.accept direction frame acceptance
  | .beginReconnect next => machine.beginReconnect next
  | .eraseCommittedAttempt => machine.eraseCommittedAttempt

inductive Reachable : ConformanceMachine → Prop
  | new {config : MachineConfig} {machine : ConformanceMachine} (h : newConformanceMachine config = .ok machine) :
      Reachable machine
  | step {machine machine' : ConformanceMachine} {operation : Operation} (h : Reachable machine)
      (hs : machine.perform operation = .ok () machine') : Reachable machine'

/-- The next frame of a direction, acknowledging everything received. -/
def nextFrame (machine : ConformanceMachine) (direction : Direction) (payload : Payload) : FrameV1 :=
  machine.config.frame direction ((machine.sender direction).sequence + 1) (machine.peer direction).sequence payload

def performAll (machine : ConformanceMachine) : List Operation → Except ErrorCode ConformanceMachine
  | [] => .ok machine
  | operation :: rest =>
    match machine.perform operation with
    | .error code _ => .error code
    | .ok _ machine => machine.performAll rest

theorem Reachable.performAll {machine machine'} (h : Reachable machine)
    {operations} (hs : machine.performAll operations = .ok machine') : Reachable machine' := by
  induction operations generalizing machine with
  | nil => cases hs; exact h
  | cons operation rest ih =>
    simp only [ConformanceMachine.performAll] at hs
    split at hs
    · cases hs
    · rename_i hp
      exact ih (h.step hp) hs

/-! ## What a caller sees -/

/-- `ConnectionState()`, `AttemptState()` and `AttemptBinding()`. -/
def observe (machine : ConformanceMachine) : ConnectionState × AttemptState × Option AttemptBindingV1 :=
  (machine.connection, machine.attempt.state, machine.attemptBinding)

def verdictCode : Verdict → Option ErrorCode
  | .ok _ _ => none
  | .error code _ => some code

/-- The machine an operation leaves, whether it succeeded or not. -/
def after : Verdict → ConformanceMachine
  | .ok _ machine => machine
  | .error _ machine => machine

def respond (machine : ConformanceMachine) (operation : Operation) :
    (Option ErrorCode × ConnectionState × AttemptState × Option AttemptBindingV1) × ConformanceMachine :=
  let verdict := machine.perform operation
  ((verdictCode verdict, (after verdict).observe), after verdict)

end ConformanceMachine

end Sessionless.Protocol
