import CallSummary.Convention.Builtin
import CallSummary.Proofs.Exploration.BlockRuns
import CallSummary.Proofs.Machine.StackAgreement

/-!
# The Order of a Block

A block runs its instructions one after the other, and how a run ends can be
said without running it.

An instruction that is done has changed the machine in a known way, and one
that is refused has changed nothing. `Instruction.Step` and
`Instruction.Refused` say which, from the machine and the registry alone. A
call is the only instruction with two parts. It leaves the return address and
then jumps, and a jump is never refused. So a call that is refused has failed
in its first part, and there the access itself keeps the machine as it was.

`Row` chains the steps of a list, and a run ends in one of three ways: behind
the last instruction, at a halt, or at an instruction that is refused. In each
of them a row of steps leads up to the end, and it is known what stands there.
The three rules of `Ends` are the ways. `ends_execute` finds one for every
block, by induction on the list. In the other direction `execute_of_row`
takes the run along the row, and what is left of the block gives the outcome.
A halt has no step, which is why a row never runs over one.

## Main definitions

* `Machine.Pushed`: A word was pushed.
* `Machine.ReturnLeft`, `Machine.ReturnRefused`: A return address was left, or
  why it was not.
* `Instruction.Step`, `Instruction.Refused`: What an instruction does, and why
  it is refused.
* `Block.Row`: Steps in a row.
* `Block.Ends`: The three ways a run can end.

## Theorems

* `perform_eq_done_iff`, `perform_eq_failed_iff`: An instruction does what the
  rules say.
* `execute_of_row`: A run follows a row of steps.
* `ends_execute`: Every run ends in one of the three ways.
* `execute_behind_halt`: What stands behind a halt does not matter.
* `execute_inOrder`: A block runs in order, and a refused instruction leaves
  what the ones before it have left.
* `execute_inOrder_full`: A call that finds no room behind a push that did.
-/

namespace CallSummary

namespace Machine

/-- The word was pushed: it is where the stack pointer now points, one pointer
    below where it was. -/
inductive Pushed (before : Machine) (word : Word) : Machine → Prop where
  | below (sp lower : Word) (hsp : before.readStackPointer = .ok sp)
      (hroom : lower.toNat + before.architecture.pointerSize = sp.toNat) :
      Pushed before word
        ((before.store lower (.constant word before.architecture.bits)).setStackPointer lower)

/-- The return address was left where the way back looks for it. -/
inductive ReturnLeft (before : Machine) (address : Word) :
    Option ReturnSequence → Machine → Prop where
  | link (register : Register) (hbits : register.bits = before.architecture.bits) :
      ReturnLeft before address (some (.linkRegister register))
        (before.assign register.offset (.constant address before.architecture.bits))
  | stack (sequence : Option ReturnSequence) (after : Machine)
      (hsequence : ∀ register, sequence ≠ some (.linkRegister register))
      (hpushed : before.Pushed address after) : ReturnLeft before address sequence after

/-- Why a return address cannot be left: the register for it has another width,
    or it cannot be pushed. -/
inductive ReturnRefused (machine : Machine) (address : Word) :
    Option ReturnSequence → AccessError → Prop where
  | link (register : Register) (hbits : register.bits ≠ machine.architecture.bits) :
      ReturnRefused machine address (some (.linkRegister register))
        (.invalidArguments (.registerWidth register machine.architecture.bits))
  | stack (sequence : Option ReturnSequence) (cause : AccessError)
      (hsequence : ∀ register, sequence ≠ some (.linkRegister register))
      (hpush : machine.PushRefused (.constant address machine.architecture.bits) cause) :
      ReturnRefused machine address sequence cause

/-- The machine with the target in its instruction pointer. -/
def goTo (machine : Machine) (target : Word) : Machine :=
  machine.assign machine.architecture.instructionPointer.offset
    (.constant target machine.architecture.instructionPointer.bits)

theorem push_eq_done_iff_pushed (machine after : Machine) (word : Word) :
    machine.push (.constant word machine.architecture.bits) = .done () after ↔
      machine.Pushed word after := by
  rw [push_eq_done_iff]
  constructor
  · intro h
    rcases h with ⟨_, sp, lower, hsp, hroom, rfl⟩
    exact .below sp lower hsp hroom
  · intro h
    cases h with
    | below sp lower hsp hroom => exact ⟨Value.bits_constant _ _, sp, lower, hsp, hroom, rfl⟩

/-- Either no register takes the return address, or one does. -/
theorem stack_or_link (sequence : Option ReturnSequence) :
    (∀ register, sequence ≠ some (.linkRegister register)) ∨
      ∃ register, sequence = some (.linkRegister register) := by
  rcases sequence with _ | _ | register
  · exact .inl nofun
  · exact .inl nofun
  · exact .inr ⟨register, rfl⟩

/-- Without a register for it the return address is pushed. -/
theorem leaveReturn_of_stack (machine : Machine) (sequence : Option ReturnSequence)
    (address : Word) (h : ∀ register, sequence ≠ some (.linkRegister register)) :
    machine.leaveReturn sequence address =
      machine.push (.constant address machine.architecture.bits) := by
  unfold leaveReturn
  split
  next register => exact absurd rfl (h register)
  next => rfl

/-- A register takes the return address if it has the width of a pointer. -/
theorem leaveReturn_of_link (machine : Machine) (register : Register) (address : Word) :
    machine.leaveReturn (some (.linkRegister register)) address =
      if register.bits = machine.architecture.bits then
        .done () (machine.assign register.offset (.constant address machine.architecture.bits))
      else
        .failed (.invalidArguments (.registerWidth register machine.architecture.bits))
          machine := by
  by_cases hbits : register.bits = machine.architecture.bits
  · rw [if_pos hbits]
    exact if_pos hbits.symm
  · rw [if_neg hbits]
    exact if_neg fun hc => hbits hc.symm

theorem leaveReturn_eq_done_iff (machine after : Machine) (sequence : Option ReturnSequence)
    (address : Word) :
    machine.leaveReturn sequence address = .done () after ↔
      machine.ReturnLeft address sequence after := by
  constructor
  · intro h
    rcases stack_or_link sequence with hsequence | ⟨register, rfl⟩
    · rw [leaveReturn_of_stack machine sequence address hsequence] at h
      exact .stack sequence after hsequence ((push_eq_done_iff_pushed machine after address).mp h)
    · rw [leaveReturn_of_link] at h
      by_cases hbits : register.bits = machine.architecture.bits
      · rw [if_pos hbits] at h
        cases h
        exact .link register hbits
      · rw [if_neg hbits] at h
        cases h
  · intro h
    cases h with
    | link register hbits => rw [leaveReturn_of_link, if_pos hbits]
    | stack sequence after hsequence hpushed =>
        rw [leaveReturn_of_stack machine sequence address hsequence]
        exact (push_eq_done_iff_pushed machine after address).mpr hpushed

theorem leaveReturn_eq_failed_iff (machine after : Machine) (sequence : Option ReturnSequence)
    (address : Word) (cause : AccessError) :
    machine.leaveReturn sequence address = .failed cause after ↔
      after = machine ∧ machine.ReturnRefused address sequence cause := by
  constructor
  · intro h
    rcases stack_or_link sequence with hsequence | ⟨register, rfl⟩
    · rw [leaveReturn_of_stack machine sequence address hsequence, push_eq_failed_iff] at h
      exact ⟨h.1, .stack sequence cause hsequence h.2⟩
    · rw [leaveReturn_of_link] at h
      by_cases hbits : register.bits = machine.architecture.bits
      · rw [if_pos hbits] at h
        cases h
      · rw [if_neg hbits] at h
        cases h
        exact ⟨rfl, .link register hbits⟩
  · rintro ⟨rfl, h⟩
    cases h with
    | link register hbits => rw [leaveReturn_of_link, if_neg hbits]
    | stack sequence cause hsequence hpush =>
        rw [leaveReturn_of_stack after sequence address hsequence]
        exact push_of_refused after _ cause hpush

end Machine

namespace Instruction

/-- What an instruction that is done has changed. A halt does nothing, and it
    is no step. -/
inductive Step (registry : Registry) (before : Machine) : Instruction → Machine → Prop where
  | write (register : Register) (word : Word) :
      Step registry before (.write register word)
        (before.assign register.offset (.constant word register.bits))
  | push (word : Word) (after : Machine) (hpushed : before.Pushed word after) :
      Step registry before (.push word) after
  | call (target returnAddress : Word) (middle : Machine)
      (hleft : before.ReturnLeft returnAddress (registry.returnSequence? before.architecture)
        middle) :
      Step registry before (.call target returnAddress) (middle.goTo target)
  | jump (target : Word) : Step registry before (.jump target) (before.goTo target)

/-- Why an instruction is refused. Writes and jumps never are. -/
inductive Refused (registry : Registry) (machine : Machine) :
    Instruction → AccessError → Prop where
  | push (word : Word) (cause : AccessError)
      (hpush : machine.PushRefused (.constant word machine.architecture.bits) cause) :
      Refused registry machine (.push word) cause
  | call (target returnAddress : Word) (cause : AccessError)
      (hreturn : machine.ReturnRefused returnAddress
        (registry.returnSequence? machine.architecture) cause) :
      Refused registry machine (.call target returnAddress) cause

variable (registry : Registry) (machine after : Machine) (instruction : Instruction)

theorem Step.ne_halt {registry : Registry} {machine after : Machine} {instruction : Instruction}
    (h : instruction.Step registry machine after) : instruction ≠ .halt := by
  intro hhalt
  subst hhalt
  cases h

theorem perform_write (register : Register) (word : Word) :
    (write register word).perform registry machine =
      .done () (machine.assign register.offset (.constant word register.bits)) :=
  Machine.writeRegister_of_bits machine register _ (Value.bits_constant _ _)

theorem perform_jump (target : Word) :
    (jump target).perform registry machine = .done () (machine.goTo target) :=
  machine.jump_eq_done target

theorem perform_call (target returnAddress : Word) :
    (call target returnAddress).perform registry machine =
      (machine.leaveReturn (registry.returnSequence? machine.architecture) returnAddress).andThen
        fun _ middle => .done () (middle.goTo target) := by
  change (machine.leaveReturn _ returnAddress).andThen (fun _ middle => middle.jump target) = _
  congr 1
  funext _ middle
  exact middle.jump_eq_done target

theorem perform_eq_done_iff (h : instruction ≠ .halt) :
    instruction.perform registry machine = .done () after ↔
      instruction.Step registry machine after := by
  cases instruction with
  | write register word =>
      rw [perform_write, Outcome.done_eq_done_iff]
      constructor
      · rintro ⟨_, rfl⟩
        exact .write register word
      · intro hstep
        cases hstep
        exact ⟨rfl, rfl⟩
  | push word =>
      refine (machine.push_eq_done_iff_pushed after word).trans ⟨.push word after, ?_⟩
      intro hstep
      cases hstep with
      | push word after hpushed => exact hpushed
  | call target returnAddress =>
      rw [perform_call, Outcome.andThen_eq_done_iff]
      constructor
      · rintro ⟨_, middle, hleave, hjump⟩
        cases hjump
        exact .call target returnAddress middle
          ((machine.leaveReturn_eq_done_iff middle _ returnAddress).mp hleave)
      · intro hstep
        cases hstep with
        | call target returnAddress middle hleft =>
            exact ⟨(), middle,
              (machine.leaveReturn_eq_done_iff middle _ returnAddress).mpr hleft, rfl⟩
  | jump target =>
      rw [perform_jump, Outcome.done_eq_done_iff]
      constructor
      · rintro ⟨_, rfl⟩
        exact .jump target
      · intro hstep
        cases hstep
        exact ⟨rfl, rfl⟩
  | halt => exact absurd rfl h

/-- An instruction that is refused leaves no trace. In a call only the first
    part can be refused, since the second is a jump. -/
theorem perform_eq_failed_iff (cause : AccessError) :
    instruction.perform registry machine = .failed cause after ↔
      after = machine ∧ instruction.Refused registry machine cause := by
  constructor
  · intro h
    cases instruction with
    | write register word =>
        rw [perform_write] at h
        cases h
    | push word =>
        have hpush := (machine.push_eq_failed_iff after _ cause).mp h
        exact ⟨hpush.1, .push word cause hpush.2⟩
    | call target returnAddress =>
        rw [perform_call, Outcome.andThen_eq_failed_iff] at h
        rcases h with hleave | ⟨_, middle, _, hjump⟩
        · rw [Machine.leaveReturn_eq_failed_iff] at hleave
          exact ⟨hleave.1, .call target returnAddress cause hleave.2⟩
        · cases hjump
    | jump target =>
        rw [perform_jump] at h
        cases h
    | halt => cases h
  · rintro ⟨rfl, h⟩
    cases h with
    | push word cause hpush => exact after.push_of_refused _ cause hpush
    | call target returnAddress cause hreturn =>
        have hleave := (after.leaveReturn_eq_failed_iff after _ returnAddress cause).mpr
          ⟨rfl, hreturn⟩
        rw [perform_call, hleave, Outcome.andThen_failed]

end Instruction

namespace Block

/-- Every instruction of the block is done, each on the machine that the one
    before it has left. -/
inductive Row (registry : Registry) : Machine → Block → Machine → Prop where
  | nil (machine : Machine) : Row registry machine [] machine
  | cons (before middle after : Machine) (instruction : Instruction) (rest : Block)
      (hstep : instruction.Step registry before middle) (hrow : Row registry middle rest after) :
      Row registry before (instruction :: rest) after

/-- The ways a run can end: behind the block, at a halt, or at an instruction
    that is refused. A row of steps leads there. -/
inductive Ends (registry : Registry) (machine : Machine) (block : Block) :
    Outcome Machine AccessError Flow → Prop where
  | passed (after : Machine) (hrow : Row registry machine block after) :
      Ends registry machine block (.done .next after)
  | halted (before rest : Block) (after : Machine) (hblock : block = before ++ .halt :: rest)
      (hrow : Row registry machine before after) : Ends registry machine block (.done .halt after)
  | refused (before : Block) (instruction : Instruction) (rest : Block) (after : Machine)
      (cause : AccessError) (hblock : block = before ++ instruction :: rest)
      (hrow : Row registry machine before after)
      (hrefused : instruction.Refused registry after cause) :
      Ends registry machine block (.failed cause after)

variable (registry : Registry)

/-- The run follows the row, and goes on with what stands behind it. -/
theorem execute_of_row (machine after : Machine) (block rest : Block)
    (h : Row registry machine block after) :
    execute registry (block ++ rest) machine = execute registry rest after := by
  induction h with
  | nil machine => rfl
  | cons before middle after instruction block hstep _ ih =>
      rw [List.cons_append, execute_cons registry instruction _ before hstep.ne_halt,
        (instruction.perform_eq_done_iff registry before middle hstep.ne_halt).mpr hstep,
        Outcome.andThen_done]
      exact ih

/-- One more step in front leads to the same end. -/
theorem Ends.cons (before middle : Machine) (instruction : Instruction) (block : Block)
    (outcome : Outcome Machine AccessError Flow)
    (hstep : instruction.Step registry before middle) (h : Ends registry middle block outcome) :
    Ends registry before (instruction :: block) outcome := by
  cases h with
  | passed after hrow => exact .passed after (.cons _ _ _ _ _ hstep hrow)
  | halted first rest after hblock hrow =>
      subst hblock
      exact .halted (instruction :: first) rest after rfl (.cons _ _ _ _ _ hstep hrow)
  | refused first last rest after cause hblock hrow hrefused =>
      subst hblock
      exact .refused (instruction :: first) last rest after cause rfl
        (.cons _ _ _ _ _ hstep hrow) hrefused

theorem ends_execute (block : Block) :
    ∀ machine : Machine, Ends registry machine block (execute registry block machine) := by
  induction block with
  | nil => exact fun machine => .passed machine (.nil machine)
  | cons instruction rest ih =>
      intro machine
      by_cases hhalt : instruction = .halt
      · subst hhalt
        exact .halted [] rest machine rfl (.nil machine)
      · rw [execute_cons registry instruction rest machine hhalt]
        rcases hperform : instruction.perform registry machine with ⟨cause | _, left⟩
        · rcases (instruction.perform_eq_failed_iff registry machine left cause).mp hperform with
            ⟨rfl, hrefused⟩
          exact .refused [] instruction rest left cause rfl (.nil left) hrefused
        · have hstep :=
            (instruction.perform_eq_done_iff registry machine left hhalt).mp hperform
          exact Ends.cons registry machine left instruction rest _ hstep (ih left)

/-- The three ways describe the outcome and no other. -/
theorem execute_eq_iff (machine : Machine) (block : Block)
    (outcome : Outcome Machine AccessError Flow) :
    execute registry block machine = outcome ↔ Ends registry machine block outcome := by
  constructor
  · rintro rfl
    exact ends_execute registry block machine
  · intro h
    cases h with
    | passed after hrow =>
        have hrun := execute_of_row registry machine after block [] hrow
        rw [List.append_nil] at hrun
        exact hrun
    | halted before rest after hblock hrow =>
        rw [hblock, execute_of_row registry machine after before _ hrow]
        rfl
    | refused before instruction rest after cause hblock hrow hrefused =>
        have hfailed := (instruction.perform_eq_failed_iff registry after after cause).mpr
          ⟨rfl, hrefused⟩
        have hhalt : instruction ≠ .halt := by
          intro hc
          subst hc
          cases hrefused
        rw [hblock, execute_of_row registry machine after before _ hrow,
          execute_cons registry instruction rest after hhalt, hfailed]
        rfl

/-- Nothing behind a halt matters, whether the run comes to the halt or not. -/
theorem execute_behind_halt (before rest other : Block) (machine : Machine) :
    execute registry (before ++ .halt :: rest) machine =
      execute registry (before ++ .halt :: other) machine := by
  induction before generalizing machine with
  | nil => rfl
  | cons instruction before ih =>
      by_cases hhalt : instruction = .halt
      · subst hhalt
        rfl
      · rw [List.cons_append, List.cons_append, execute_cons registry instruction _ machine hhalt,
          execute_cons registry instruction _ machine hhalt]
        congr 1
        funext _ middle
        exact ih middle

/-- A run that fails has done the instructions in front of the one that was
    refused, and nothing else. -/
theorem exists_refused (machine after : Machine) (block : Block) (cause : AccessError)
    (h : execute registry block machine = .failed cause after) :
    ∃ (k : Nat) (instruction : Instruction), block[k]? = some instruction ∧
      execute registry (block.take k) machine = .done .next after ∧
      instruction.Refused registry after cause := by
  cases (execute_eq_iff registry machine block _).mp h with
  | refused before instruction rest after cause hblock hrow hrefused =>
      subst hblock
      refine ⟨before.length, instruction, ?_, ?_, hrefused⟩
      · rw [List.getElem?_append_right (Nat.le_refl _), Nat.sub_self, List.getElem?_cons_zero]
      · rw [List.take_left]
        exact (execute_eq_iff registry machine before _).mpr (.passed after hrow)

/-- A block runs in order. Its outcome is the one the three ways to end
    describe, and no other: it flows on exactly if all its instructions are
    done, and it halts exactly if the ones in front of a halt are. Nothing
    behind a halt matters. A run that fails leaves what the instructions in
    front of the refused one have left. Writes and jumps are never refused. And
    where a first part without a halt succeeds, the rest runs on what it has
    left. -/
theorem execute_inOrder (block : Block) (machine : Machine) :
    (∀ outcome, execute registry block machine = outcome ↔ Ends registry machine block outcome) ∧
      (∀ before rest other : Block, block = before ++ .halt :: rest →
        execute registry block machine = execute registry (before ++ .halt :: other) machine) ∧
      (∀ (cause : AccessError) (after : Machine),
        execute registry block machine = .failed cause after →
          ∃ (k : Nat) (instruction : Instruction), block[k]? = some instruction ∧
            execute registry (block.take k) machine = .done .next after ∧
            instruction.perform registry after = .failed cause after) ∧
      (∀ (register : Register) (word : Word) (target : Word),
        ((Instruction.write register word).perform registry machine).result = .ok () ∧
          ((Instruction.jump target).perform registry machine).result = .ok ()) ∧
      ∀ (first second : Block) (flow : Flow) (middle : Machine), block = first ++ second →
        Instruction.halt ∉ first → execute registry first machine = .done flow middle →
          execute registry block machine = execute registry second middle := by
  refine ⟨execute_eq_iff registry machine block, ?_, ?_, ?_, ?_⟩
  · intro before rest other hblock
    rw [hblock]
    exact execute_behind_halt registry before rest other machine
  · intro cause after h
    rcases exists_refused registry machine after block cause h with
      ⟨k, instruction, hat, hrun, hrefused⟩
    exact ⟨k, instruction, hat, hrun,
      (instruction.perform_eq_failed_iff registry after after cause).mpr ⟨rfl, hrefused⟩⟩
  · intro register word target
    rw [Instruction.perform_write, Instruction.perform_jump]
    exact ⟨rfl, rfl⟩
  · intro first second flow middle hblock hhalt hrun
    rw [hblock, execute_append registry first second machine hhalt, hrun, Outcome.andThen_done]

/-- A push takes the last room there is. The call after it has none for its
    return address, so it is refused and goes nowhere. What stands behind the
    halt does not matter, and after the push the rest comes to the same end. -/
theorem execute_inOrder_full :
    let machine := Machine.withStackPointer .x86 4
    let pushed := (machine.store 0 (.constant 1 32)).setStackPointer 0
    let block : Block := [.push 1, .call 0x2000 0x1004, .halt]
    let outcome := Outcome.failed (.invalidArguments (.pushOverflow 0)) pushed
    execute .builtin block machine = outcome ∧
      execute .builtin (block ++ [.jump 0x3000]) machine = outcome ∧
      execute .builtin [.call 0x2000 0x1004, .halt] pushed = outcome ∧
      ∃ k, execute .builtin (block.take k) machine = .done .next pushed := by
  intro machine pushed block outcome
  have hpushed : machine.Pushed 1 pushed := .below 4 0 rfl rfl
  have hrow : Row .builtin machine [.push 1] pushed :=
    .cons _ _ _ _ _ (.push 1 pushed hpushed) (.nil pushed)
  have hsp : pushed.StackPointerRead (.ok 0) := (pushed.readStackPointer_eq_iff _).mp rfl
  have hrefused : (Instruction.call 0x2000 0x1004).Refused .builtin pushed
      (.invalidArguments (.pushOverflow 0)) :=
    .call _ _ _ (.stack _ _ (fun _ => nofun) (.noRoom 0 rfl hsp (by decide)))
  have hrun := ((execute_inOrder .builtin block machine).1 outcome).mpr
    (.refused [.push 1] _ [.halt] pushed _ rfl hrow hrefused)
  have hfirst := ((execute_inOrder .builtin [.push 1] machine).1 _).mpr (.passed pushed hrow)
  refine ⟨hrun, ?_, ?_, ?_⟩
  · have hbehind := (execute_inOrder .builtin block machine).2.1
      [.push 1, .call 0x2000 0x1004] [] [.jump 0x3000] rfl
    exact hbehind.symm.trans hrun
  · have hsplit := (execute_inOrder .builtin block machine).2.2.2.2 [.push 1]
      [.call 0x2000 0x1004, .halt] .next pushed rfl (by decide) hfirst
    exact hsplit.symm.trans hrun
  · rcases (execute_inOrder .builtin block machine).2.2.1 _ pushed hrun with ⟨k, _, _, hk, _⟩
    exact ⟨k, hk⟩

end Block

end CallSummary
