import CallSummary.Summary.Basic

/-!
# A Library of Summaries

Summaries of functions of which only the result matters. Those that return do so
last, when the return value has been written.

## Main definitions

* `Summary.returnUnconstrained`: Return something of which nothing is known.
* `Summary.returnConstant`: Return a fixed word.
* `Summary.returnVoid`: Return without a value.
* `Summary.returnArgument`: Return one of the arguments.
* `Summary.exit`: End execution with the first argument as the exit status.
-/

namespace CallSummary

/-- Go back to the caller, and be done. -/
def Program.doReturn : Program :=
  .step .doReturn (.finish none)

namespace Summary

/-- Returns a fresh symbol, for a function whose result cannot be said. -/
def returnUnconstrained : Summary where
  name := "ReturnUnconstrained"
  program :=
    .ask .returnRegister fun register =>
      .ask (.freshName "unconstrained_ret") fun name =>
        .step (.setReturn (.symbol name register.bits)) .doReturn

/-- Returns the word, cut to the width of the return register. -/
def returnConstant (word : Word) : Summary where
  name := "ReturnConstant"
  program :=
    .ask .returnRegister fun register =>
      .step (.setReturn (.constant word register.bits)) .doReturn

/-- Returns without a return value. -/
def returnVoid : Summary where
  name := "ReturnVoid"
  program := .doReturn

/-- Returns the argument of the given index, as functions do that hand their
    destination back. -/
def returnArgument (index : Nat) : Summary where
  name := "ReturnArgument"
  program := .step (.forwardArgument index) .doReturn

/-- Ends execution and leaves the first argument as the exit status. -/
def exit : Summary where
  name := "Exit"
  program := .ask (.argument 0) fun status => .step .halt (.finish (some status))

end Summary

end CallSummary
