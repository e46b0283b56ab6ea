import CallSummary.Exploration.Block
import CallSummary.Exploration.Hooks

/-!
# Exploration

An explorer follows one machine through a program until it halts. At each
address it runs what is there, a hooked summary before a block, and then finds
out where control goes: back to a return target, or on at the instruction
pointer. The instruction pointer is then set to that address, so that it says
after every step where the machine is.

A walk takes at most a given number of steps. A machine that has not halted by
then is a fault, and so is one that goes to an address that is not known or
where there is nothing to run. In every case the walk keeps the machine, the
names and the addresses visited so far.

## Main definitions

* `Explorer`: Blocks, hooks and conventions of a program.
* `Position`: Where an exploration is.
* `Explorer.runUnit`: Run what is at an address.
* `Explorer.advance`: One step.
* `Explorer.walk`: Steps up to a limit.
* `Explorer.explore`: An exploration from an entry.
-/

namespace CallSummary

/-- A program, with summaries in place of some of its code. -/
structure Explorer where
  blocks : Std.ExtTreeMap Word Block
  hooks : HookTable
  registry : Registry

/-- Where an exploration is. -/
structure Position where
  address : Word
  /-- The address that was executed before, if any. -/
  caller : Option Word
  machine : Machine
  names : NameSupply

/-- What something run at an address has come to. -/
structure Visit (Answer : Type) where
  /-- The answer, or the fault at which the exploration ends. -/
  result : Except Fault Answer
  machine : Machine
  names : NameSupply
  transcript : List Entry

/-- What an exploration has come to. -/
structure Walk where
  /-- Whether the machine has halted, or the fault that ended the
      exploration. -/
  result : Except Fault Unit
  /-- The addresses executed, in order. -/
  visited : List Word
  machine : Machine
  names : NameSupply
  transcript : List Entry

namespace Walk

/-- The addresses executed by a machine that has halted. -/
def trace (walk : Walk) : Except Fault (List Word) :=
  walk.result.map fun _ => walk.visited

/-- The walk with a step in front. -/
def after (address : Word) (transcript : List Entry) (walk : Walk) : Walk :=
  { walk with
    visited := address :: walk.visited
    transcript := transcript ++ walk.transcript }

end Walk

/-- Where control goes from a machine with the given flow: a value, or `none` if
    execution has ended. -/
def Machine.target? (machine : Machine) : Flow → Except AccessError (Option Value)
  | .halt => .ok none
  | .returnTo target => .ok (some target)
  | .next => (machine.readRegister machine.architecture.instructionPointer).map some

namespace Explorer

/-- Bind and run the summary that is hooked at the position. -/
def runHook (explorer : Explorer) (position : Position) : Visit Flow :=
  let machine := position.machine
  let names := position.names
  match explorer.hooks.dispatch? position.address explorer.registry machine.architecture
    position.caller with
  | none => ⟨.error (.internal (.lostHook position.address)), machine, names, []⟩
  | some binding =>
    match binding.result with
    | .error fault => ⟨.error fault, machine, names, binding.transcript⟩
    | .ok bound =>
      let execution := bound.execute explorer.registry machine names
      { result := execution.result.map (·.flow)
        machine := execution.machine
        names := execution.names
        transcript := binding.transcript ++
          [.summarized bound.summary.name execution.run.transcript execution.run.result] }

/-- Run the block at the position. -/
def runBlock (explorer : Explorer) (position : Position) : Visit Flow :=
  match explorer.blocks[position.address]? with
  | none =>
    ⟨.error (.invalidArgument (.noCode position.address)), position.machine, position.names, []⟩
  | some block =>
    let outcome := block.execute explorer.registry position.machine
    ⟨outcome.result.mapError .access, outcome.state, position.names, []⟩

/-- Run what is at the position: the hook, or else the block. -/
def runUnit (explorer : Explorer) (position : Position) : Visit Flow :=
  if explorer.hooks.isHooked position.address then explorer.runHook position
  else explorer.runBlock position

/-- Where the machine of a visit goes, with the instruction pointer set to it;
    `none` if execution has ended. -/
def proceed (visit : Visit Flow) : Visit (Option Word) :=
  match visit.result with
  | .error fault => { visit with result := .error fault }
  | .ok flow =>
    match visit.machine.target? flow with
    | .error cause => { visit with result := .error (.access cause) }
    | .ok none => { visit with result := .ok none }
    | .ok (some target) =>
      match target.word? with
      -- A symbol may stand for any address, so there is nothing to go on with.
      | none => { visit with result := .error (.internal (.symbolicTarget target)) }
      | some address =>
        -- A return has not moved the instruction pointer yet.
        let moved := visit.machine.jump address
        { visit with
          result := (moved.result.mapError .access).map fun _ => some address
          machine := moved.state }

/-- One step: run what is at the position and find out where control goes. -/
def advance (explorer : Explorer) (position : Position) : Visit (Option Word) :=
  proceed (explorer.runUnit position)

/-- Take steps from the position until the machine halts. After `steps` of them
    the exploration ends with the fault that `limit` steps did not suffice. -/
def walk (explorer : Explorer) (limit : Nat) : (steps : Nat) → Position → Walk
  | 0, position =>
    { result := .error (.internal (.stepLimit limit))
      visited := []
      machine := position.machine
      names := position.names
      transcript := [] }
  | steps + 1, position =>
    let visit := explorer.advance position
    match visit.result with
    | .error fault =>
      ⟨.error fault, [position.address], visit.machine, visit.names, visit.transcript⟩
    | .ok none => ⟨.ok (), [position.address], visit.machine, visit.names, visit.transcript⟩
    | .ok (some address) =>
      (explorer.walk limit steps
        { address := address
          caller := some position.address
          machine := visit.machine
          names := visit.names }).after position.address visit.transcript

/-- Explore from the entry, for at most `limit` steps. -/
def explore (explorer : Explorer) (machine : Machine) (names : NameSupply) (entry : Word)
    (limit : Nat) : Walk :=
  explorer.walk limit limit ⟨entry, none, machine, names⟩

end Explorer

/-- A machine about to execute the entry, with a stack below `0x7fff0000`. -/
def Machine.atEntry (arch : Architecture) (entry : Word) : Machine :=
  ((Machine.withStackPointer arch 0x7fff0000).jump entry).state

end CallSummary
