import CallSummary.Call.Journal
import CallSummary.Convention.Registry
import CallSummary.Machine.Stack
import CallSummary.NameSupply

/-!
# Activations

A function call stands between its caller and its summary. What is fixed about
it is its setting: the registry that is asked, the architecture, the convention
the call uses, and where it came from. What changes while a summary runs is its
activation: the machine, the supply of names, the flow recorded so far, the
machines split off so far, and the journal.

An argument is read where the placement of the convention says, a return value
is written to the return register of the architecture, and a return takes its
target where the architecture leaves it. Each of these changes the machine in
one step or not at all; a return is recorded as the flow only once its target is
known.

## Main definitions

* `Invocation`, `Setting`: What is fixed about a call.
* `Activation`: What changes while a summary runs.
* `Activation.argument`, `Activation.arguments`: Read arguments.
* `Activation.setReturn`: Write the return value.
* `Activation.doReturn`, `Activation.halt`: Record where control goes.
* `Activation.child`, `Activation.join`: Split the machine, and take in what
  became of the copy.

## Theorems

* `Activation.result_argument`: An argument is what the machine holds at its
  location.
* `Activation.state_argument`: Reading one leaves nothing behind but a line of
  the journal.
* `Activation.join_error`, `Activation.join_ok`: A copy that failed is no
  successor, one that succeeded comes before its own.
-/

namespace CallSummary

/-- What is known about a call before its summary runs. -/
structure Invocation where
  /-- The address control came from, if it is known. -/
  caller : Option Word
  architecture : Architecture
  /-- The convention of the call, if one was asked for or is preferred. -/
  convention : Option CallingConvention
deriving DecidableEq

/-- Everything that is fixed while a summary runs. -/
structure Setting where
  registry : Registry
  invocation : Invocation

namespace Setting

/-- How the convention of the call places arguments. -/
def placement (setting : Setting) : Except Fault Placement :=
  let call := setting.invocation
  match call.convention.bind (setting.registry.placement? call.architecture) with
  | some placement => .ok placement
  | none => .error (.unsupportedArguments call.convention call.architecture)

/-- Where the argument of the given index is. -/
def location (setting : Setting) (index : Nat) : Except Fault Location := do
  let placement ← setting.placement
  match placement.location index with
  | some location => .ok location
  | none => .error (.invalidArgument (.argumentOverflow index))

/-- The register that receives the return value. -/
def returnRegister (setting : Setting) : Except Fault Register :=
  let call := setting.invocation
  match setting.registry.returnRegister? call.architecture with
  | some register => .ok register
  | none => .error (.unsupportedReturns call.convention call.architecture)

/-- How control goes back to the caller. -/
def returnSequence (setting : Setting) : Except Fault ReturnSequence :=
  let call := setting.invocation
  match setting.registry.returnSequence? call.architecture with
  | some sequence => .ok sequence
  | none => .error (.unsupportedPlatform call.architecture)

end Setting

/-- What a machine holds at a location. -/
def Machine.readLocation (machine : Machine) : Location → Except AccessError Value
  | .register register => machine.readRegister register
  | .stack offset => machine.readStack offset

/-- Take the return target from where the sequence says. -/
def Machine.takeReturn (machine : Machine) : ReturnSequence → Outcome Machine AccessError Value
  | .popStack => machine.pop
  | .linkRegister register => ⟨machine.readRegister register, machine⟩

/-- What changes while a summary runs. -/
structure Activation where
  machine : Machine
  /-- Where fresh names come from. -/
  names : NameSupply
  flow : Flow
  forks : List Successor
  journal : List Event

namespace Activation

/-- The activation with which a summary starts. -/
def start (machine : Machine) (names : NameSupply) : Activation where
  machine := machine
  names := names
  flow := .next
  forks := []
  journal := []

/-- The activation with one more event reported. -/
def report (activation : Activation) (event : Event) : Activation :=
  { activation with journal := activation.journal ++ [event] }

/-- Do something to the machine. -/
def onMachine {Answer : Type} (activation : Activation)
    (access : Machine → Outcome Machine AccessError Answer) : Outcome Activation Fault Answer :=
  let outcome := access activation.machine
  ⟨outcome.result.mapError .access, { activation with machine := outcome.state }⟩

/-- Look something up in the machine. -/
def fromMachine {Answer : Type} (activation : Activation)
    (access : Machine → Except AccessError Answer) : Outcome Activation Fault Answer :=
  ⟨(access activation.machine).mapError .access, activation⟩

/-- Read the argument of the given index. -/
def argument (activation : Activation) (setting : Setting) (index : Nat) :
    Outcome Activation Fault Value :=
  match setting.location index with
  | .error fault => .failed fault activation
  | .ok location =>
    -- Reported before it is tried: a read that fails has its line too.
    (activation.report (.readingArgument index location)).fromMachine (·.readLocation location)

/-- Read `count` arguments from the given index on, up to the first that cannot
    be read. -/
def argumentsFrom (activation : Activation) (setting : Setting) :
    (count index : Nat) → Outcome Activation Fault (List Value)
  | 0, _ => .done [] activation
  | count + 1, index =>
    (activation.argument setting index).andThen fun value activation =>
      (activation.argumentsFrom setting count (index + 1)).andThen fun values activation =>
        .done (value :: values) activation

/-- Read the first `count` arguments. -/
def arguments (activation : Activation) (setting : Setting) (count : Nat) :
    Outcome Activation Fault (List Value) :=
  activation.argumentsFrom setting count 0

/-- Write the return value. -/
def setReturn (activation : Activation) (setting : Setting) (value : Value) :
    Outcome Activation Fault Unit :=
  match setting.returnRegister with
  | .error fault => .failed fault activation
  | .ok register =>
    (activation.report (.writingReturn value register)).onMachine (·.writeRegister register value)

/-- Make the argument of the given index the return value. -/
def forwardArgument (activation : Activation) (setting : Setting) (index : Nat) :
    Outcome Activation Fault Unit :=
  (activation.argument setting index).andThen fun value activation =>
    activation.setReturn setting value

/-- Go back to the caller: take the return target and record it as the flow. -/
def doReturn (activation : Activation) (setting : Setting) : Outcome Activation Fault Value :=
  match setting.returnSequence with
  | .error fault => .failed fault activation
  | .ok sequence =>
    -- The flow is recorded last, so a target that cannot be had leaves the flow
    -- as it was.
    (activation.onMachine (·.takeReturn sequence)).andThen fun target activation =>
      .done target { activation.report (.returning target) with flow := .returnTo target }

/-- End execution of the machine. -/
def halt (activation : Activation) : Activation :=
  { activation with flow := .halt }

/-- The activation of a copy of the machine. It has recorded no flow and split
    off nothing, and it draws from the same supply of names. -/
def child (activation : Activation) : Activation :=
  start activation.machine activation.names

/-- Take in what became of a copy, whose body has come to the given result. The
    names it has drawn are used up and its events are reported in any case. The
    copy itself, and after it what was split off from it, is a successor only if
    its body has succeeded. -/
def join {Answer : Type} (activation copy : Activation) (result : Except Fault Answer) :
    Outcome Activation Fault Unit :=
  let after := { activation with
    names := copy.names
    journal := activation.journal ++ copy.journal }
  match result with
  | .error fault => .failed fault after
  | .ok _ =>
    .done () { after with forks := activation.forks ++ ⟨copy.machine, copy.flow⟩ :: copy.forks }

/-- What the summary hands on to execution. -/
def successors (activation : Activation) : Successors where
  flow := activation.flow
  forks := activation.forks

@[simp] theorem machine_report (activation : Activation) (event : Event) :
    (activation.report event).machine = activation.machine := rfl

@[simp] theorem names_report (activation : Activation) (event : Event) :
    (activation.report event).names = activation.names := rfl

@[simp] theorem flow_report (activation : Activation) (event : Event) :
    (activation.report event).flow = activation.flow := rfl

@[simp] theorem forks_report (activation : Activation) (event : Event) :
    (activation.report event).forks = activation.forks := rfl

theorem result_argument (activation : Activation) (setting : Setting) (index : Nat) :
    (activation.argument setting index).result =
      (setting.location index).bind fun location =>
        (activation.machine.readLocation location).mapError .access := by
  unfold argument
  cases setting.location index <;> rfl

theorem state_argument (activation : Activation) (setting : Setting) (index : Nat) :
    (activation.argument setting index).state =
      match setting.location index with
      | .ok location => activation.report (.readingArgument index location)
      | .error _ => activation := by
  unfold argument
  cases setting.location index <;> rfl

theorem join_error {Answer : Type} (activation copy : Activation) (fault : Fault) :
    activation.join copy (.error fault : Except Fault Answer) =
      .failed fault
        { activation with names := copy.names, journal := activation.journal ++ copy.journal } :=
  rfl

theorem join_ok {Answer : Type} (activation copy : Activation) (answer : Answer) :
    activation.join copy (.ok answer) =
      .done ()
        { activation with
          names := copy.names
          journal := activation.journal ++ copy.journal
          forks := activation.forks ++ ⟨copy.machine, copy.flow⟩ :: copy.forks } :=
  rfl

end Activation

end CallSummary
