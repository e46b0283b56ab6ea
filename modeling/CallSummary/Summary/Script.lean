import CallSummary.Summary.Basic

/-!
# Scripts

A script is a program without choices: its steps run in order, and what they
answer is only written down. A step that fails ends the script with its fault
unless the step is tolerant.

## Main definitions

* `Script`: A sequence of steps.
* `Script.toProgram`: The program that runs the steps.
* `Preparation`: What a scripted summary does when it is bound.
* `Summary.scripted`: The summary of a script.
-/

namespace CallSummary

/-- A sequence of steps, each of them tolerant of its own failure or not. -/
inductive Script where
  | stop
  | perform (op : Operation) (tolerant : Bool) (rest : Script)
  | fork (body : Script) (tolerant : Bool) (rest : Script)
  | inline (name : String) (body : Program) (tolerant : Bool) (rest : Script)

namespace Script

/-- Go on with the rest after a success, and after a failure if it is
    tolerated. -/
def proceed {Answer : Type} (tolerant : Bool) (rest : Program) : Except Fault Answer → Program
  | .ok _ => rest
  | .error fault => if tolerant then rest else .fail fault

/-- The program that runs the steps of a script in order. -/
def toProgram : Script → Program
  | stop => .finish none
  | perform op tolerant rest => .perform op (proceed tolerant rest.toProgram)
  | fork body tolerant rest => .fork body.toProgram (proceed tolerant rest.toProgram)
  | inline name body tolerant rest => .inline name body (proceed tolerant rest.toProgram)

end Script

/-- What a scripted summary does when it is bound to a call. -/
inductive Preparation where
  | silent
  /-- It writes down what is known about the call. -/
  | recording
  | failing (fault : Fault)
deriving DecidableEq

/-- What the preparation does for a call. -/
def Preparation.prepare : Preparation → Invocation → Except Fault (List Entry)
  | .silent, _ => .ok []
  | .recording, invocation => .ok [.prepared invocation]
  | .failing fault, _ => .error fault

/-- The summary that runs a script. -/
def Summary.scripted (name : String) (preparation : Preparation) (script : Script) : Summary where
  name := name
  prepare := preparation.prepare
  program := script.toProgram

end CallSummary
