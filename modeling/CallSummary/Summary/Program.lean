import CallSummary.Summary.Operation

/-!
# Programs

The behaviour of a summary as a tree. A node performs an operation and goes on
with its reply, a fault included, so a program may give up, recover, or choose
its way by what it has been told. Two nodes run another program in between. A
fork runs it on a copy of the machine, which becomes a successor if it succeeds.
An inline node runs it in its own place, as though it were part of the program,
except that its end is not the end of the program.

Running a program gives, beside the result and the activation it leaves, a
transcript: one entry per node in the order in which they ran, each with the
reply. The entries of a program that ran in between stand inside the entry of
its node.

## Main definitions

* `Program`: The behaviour of a summary.
* `Entry`: What one node of a program did.
* `Program.run`: Run a program.
* `Program.ask`: A node that gives up at a fault.
-/

namespace CallSummary

/-- The behaviour of a summary. -/
inductive Program where
  /-- The end. A program that ends execution may leave an exit status. -/
  | finish (status : Option Value)
  | fail (fault : Fault)
  /-- Perform an operation and go on with its reply. -/
  | perform (op : Operation) (next : Except Fault op.Reply → Program)
  /-- Run the body on a copy of the machine and go on with how that went. -/
  | fork (body : Program) (next : Except Fault Unit → Program)
  /-- Run the body of a named summary in its place and go on with its result. -/
  | inline (name : String) (body : Program) (next : Except Fault (Option Value) → Program)

/-- What one node of a program did. -/
inductive Entry where
  | prepared (invocation : Invocation)
  | performed (op : Operation) (reply : Except Fault op.Reply)
  | forked (entries : List Entry) (result : Except Fault Unit)
  | summarized (name : String) (entries : List Entry) (result : Except Fault (Option Value))

/-- What a program has come to. -/
structure Run where
  /-- The exit status it left, if any, or the fault at which it gave up. -/
  result : Except Fault (Option Value)
  activation : Activation
  /-- What each node did, in order. -/
  transcript : List Entry

/-- The run with one more entry in front. -/
def Run.after (entry : Entry) (run : Run) : Run :=
  { run with transcript := entry :: run.transcript }

namespace Program

/-- Run a program. -/
def run (setting : Setting) : Program → Activation → Run
  | finish status, a => ⟨.ok status, a, []⟩
  | fail fault, a => ⟨.error fault, a, []⟩
  | perform op next, a =>
    let outcome := op.perform setting a
    ((next outcome.result).run setting outcome.state).after (.performed op outcome.result)
  | fork body next, a =>
    -- The copy starts afresh, and only what `join` takes in of it outlives the
    -- body.
    let copy := body.run setting a.child
    let outcome := a.join copy.activation copy.result
    ((next outcome.result).run setting outcome.state).after
      (.forked copy.transcript outcome.result)
  | inline name body next, a =>
    -- The same activation: flow and forks of the body are those of the program.
    let inner := body.run setting a
    ((next inner.result).run setting inner.activation).after
      (.summarized name inner.transcript inner.result)

/-- Perform an operation and go on with its answer; a fault ends the program. -/
def ask (op : Operation) (next : op.Reply → Program) : Program :=
  perform op fun
    | .ok answer => next answer
    | .error fault => fail fault

/-- Perform an operation and go on; a fault ends the program. -/
def step (op : Operation) (next : Program) : Program :=
  ask op fun _ => next

end Program

end CallSummary
