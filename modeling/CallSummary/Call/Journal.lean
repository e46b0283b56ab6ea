import CallSummary.Call.Flow
import CallSummary.Call.Fault
import CallSummary.Convention.Placement

/-!
# The Journal

What is reported while summaries are bound, dispatched and run, for whoever
watches. Nothing reads the journal back. An access is reported before it is
tried, so an access that fails is reported too.

## Main definitions

* `Event`: Something worth a line.
* `Event.level`, `Event.text`: How loud the line is, and what it says.
-/

namespace CallSummary

/-- How loud a line of the journal is. -/
inductive Level where
  | trace
  | debug
  | warn
deriving DecidableEq

/-- The name of a level. -/
def Level.name : Level → String
  | .trace => "trace"
  | .debug => "debug"
  | .warn => "warn"

/-- Something worth a line of the journal. -/
inductive Event where
  /-- A summary is about to be bound. -/
  | constructing (name : String) (architecture : Architecture)
      (convention : Option CallingConvention)
  /-- The hook at the address is about to be used. -/
  | dispatching (address : Word)
  /-- The hook at the address has taken the place of another. -/
  | replaced (address : Word)
  /-- An argument is about to be read. -/
  | readingArgument (index : Nat) (location : Location)
  /-- A return value is about to be written. -/
  | writingReturn (value : Value) (register : Register)
  /-- Control goes back to the target. -/
  | returning (target : Value)
  /-- A summary has run to its end. -/
  | finished (name : String) (flow : Flow) (forks : Nat)
deriving DecidableEq

namespace Event

/-- How loud the line of an event is. -/
def level : Event → Level
  | .constructing .. => .debug
  | .dispatching .. => .debug
  | .replaced .. => .warn
  | .readingArgument .. => .trace
  | .writingReturn .. => .trace
  | .returning .. => .trace
  | .finished .. => .debug

/-- What the line of an event says. -/
def text : Event → String
  | .constructing name architecture convention =>
    "constructing " ++ name ++ " on " ++ architecture.name ++ " with convention " ++
      CallingConvention.nameOrUnresolved convention
  | .dispatching address => "dispatching " ++ Hex.literal 0 address.toNat ++ " to hook"
  | .replaced address => "replaced hook at " ++ Hex.literal 0 address.toNat
  | .readingArgument index (.register register) =>
    "argument " ++ toString index ++ " read from register " ++ register.render
  | .readingArgument index (.stack offset) =>
    "argument " ++ toString index ++ " read from stack offset " ++ toString offset.toInt
  | .writingReturn value register =>
    "return value " ++ value.describe ++ " written to " ++ register.render
  | .returning target => "returning to " ++ target.describe
  | .finished name flow forks =>
    name ++ " finished with " ++ flow.describe ++ " and " ++ toString forks ++ " fork(s)"

end Event

end CallSummary
