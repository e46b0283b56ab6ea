import CallSummary.Summary.Program

/-!
# Summaries

A summary stands in for a function: a name, a preparation that sees what is
known about the call, and a program. Binding a summary to a call resolves the
convention, reports that the summary is constructed and prepares it. A bound
summary can be run any number of times; each run starts with an activation of
its own, while the exit status that a run leaves stays until a later one leaves
another.

## Main definitions

* `Summary`: The stand-in for a function.
* `Bound`: A summary bound to a call.
* `Summary.bind`: Bind a summary to a call.
* `Bound.execute`: Run a bound summary on a machine.
-/

namespace CallSummary

/-- A stand-in for a function. -/
structure Summary where
  name : String
  /-- What is done when the summary is bound to a call. -/
  prepare : Invocation → Except Fault (List Entry) := fun _ => .ok []
  program : Program

/-- A summary that was given no behaviour. -/
def Summary.incomplete (name : String) : Summary where
  name := name
  program := .fail (.unimplemented name)

/-- A summary bound to a call. -/
structure Bound where
  summary : Summary
  invocation : Invocation
  /-- The exit status left by the last run that left one. -/
  status : Option Value

/-- What binding a summary has come to. -/
structure Binding where
  /-- The bound summary, or the fault of its preparation. -/
  result : Except Fault Bound
  journal : List Event
  transcript : List Entry

/-- Bind a summary to a call on a machine of the given architecture. -/
def Summary.bind (summary : Summary) (registry : Registry) (architecture : Architecture)
    (caller : Option Word) (requested : Option CallingConvention) : Binding :=
  let invocation : Invocation :=
    { caller := caller
      architecture := architecture
      convention := registry.resolve architecture requested }
  let journal := [.constructing summary.name architecture invocation.convention]
  match summary.prepare invocation with
  | .ok entries => ⟨.ok ⟨summary, invocation, none⟩, journal, entries⟩
  | .error fault => ⟨.error fault, journal, []⟩

/-- What running a bound summary has come to. -/
structure Execution where
  /-- What execution goes on with, or the fault at which the summary gave up. -/
  result : Except Fault Successors
  machine : Machine
  names : NameSupply
  bound : Bound
  journal : List Event
  /-- What the program did and the result it had. -/
  run : Run

namespace Bound

/-- The bound summary after a run: the exit status is replaced if the run has
    left one. -/
def after (bound : Bound) (run : Run) : Bound :=
  match run.result with
  | .ok (some status) => { bound with status := some status }
  | _ => bound

/-- Run a bound summary on a machine. -/
def execute (bound : Bound) (registry : Registry) (machine : Machine) (names : NameSupply) :
    Execution :=
  let run := bound.summary.program.run ⟨registry, bound.invocation⟩ (.start machine names)
  let left := run.activation
  { result := run.result.map fun _ => left.successors
    machine := left.machine
    names := left.names
    bound := bound.after run
    journal :=
      match run.result with
      | .ok _ => left.journal ++ [.finished bound.summary.name left.flow left.forks.length]
      | .error _ => left.journal
    run := run }

end Bound

end CallSummary
