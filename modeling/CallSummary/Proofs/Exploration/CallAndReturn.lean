import CallSummary.Proofs.Call.WayBack
import CallSummary.Proofs.Exploration.BlockRuns
import CallSummary.Proofs.Exploration.StepLimit
import CallSummary.Proofs.Summary.LibraryRuns

/-!
# A Call and Its Return

The instruction that calls and the summary that returns are inverse to each
other, whatever the registry says.

Both ask the registry for the way back, each on its own: the instruction to
leave the return address there, the summary to find it. `Marked` is all that is
left of a call when both are done. The link register holds the return address,
or the slot below the stack pointer does, and the stack pointer is where it
was. A return through the stack moves it up again by as much as the push had
moved it down. It fits its register there, since it did before the call, and
that is the only place where reachability is used.

A link register may be anything the registry names, the stack pointer included.
It only has to be another place than the instruction pointer, which the call
writes last.

An explorer takes two steps for the two halves. In between it sets the
instruction pointer to where it points already, and that changes nothing
(`assign_self`), so the summary returns from the machine that the block has
left.

## Main definitions

* `Machine.Marked`: What a call has left when it has returned.
* `Explorer.CallsAway`: A block that calls a hooked summary, which returns.

## Theorems

* `assign_self`, `assign_assign`: Writing what is there, and writing twice.
* `execute_call_eq_done_iff`: A call leaves its return address and jumps.
* `setStackPointer_back`: The stack pointer after it was set and set back.
* `takeReturn_of_call`, `doReturn_of_call`: The return address is found, and
  what is left.
* `next_of_call`, `next_of_returnVoid`: The two steps of an explorer.
* `visited_of_call`: Where they lead.
* `callReturn_agree`: A call and its return agree for every registry.
-/

namespace CallSummary

theorem Value.lowBits_lowBits (bits : Nat) (word : Word) :
    lowBits bits (lowBits bits word) = lowBits bits word := by
  have hlt : (lowBits bits word).toNat < 2 ^ bits := by
    rw [toNat_lowBits_eq]
    exact Nat.mod_lt _ (Nat.pow_pos (by decide))
  exact lowBits_of_lt bits _ hlt

namespace Machine

theorem assign_self (machine : Machine) (offset : Nat) (value : Value)
    (h : machine.registers[offset]? = some value) : machine.assign offset value = machine := by
  refine eq_of_registers _ _ rfl rfl ?_
  intro other
  rw [getElem?_registers_assign]
  by_cases hother : offset = other
  · rw [if_pos hother, ← hother, h]
  · rw [if_neg hother]

theorem assign_assign (machine : Machine) (offset : Nat) (first second : Value) :
    (machine.assign offset first).assign offset second = machine.assign offset second := by
  refine eq_of_registers _ _ rfl rfl ?_
  intro other
  simp only [getElem?_registers_assign]
  by_cases hother : offset = other
  · rw [if_pos hother, if_pos hother]
  · rw [if_neg hother, if_neg hother, if_neg hother]

/-- The stack pointer is as it was once it is set to the address it held. -/
theorem setStackPointer_self (machine : Machine) (sp : Word)
    (hsp : machine.readStackPointer = .ok sp) (hlt : sp.toNat < 2 ^ machine.architecture.bits) :
    machine.setStackPointer sp = machine := by
  have hheld := (readStackPointer_eq_ok_iff machine sp).mp hsp
  refine assign_self machine _ _ ?_
  rw [hheld, Architecture.bits_stackPointer, Value.constant_of_lt sp _ hlt]

/-- Setting the stack pointer back undoes that it was set before, also if a
    place beside it was written in between. -/
theorem setStackPointer_back (machine : Machine) (sp lower : Word) (offset : Nat) (value : Value)
    (hsp : machine.readStackPointer = .ok sp) (hlt : sp.toNat < 2 ^ machine.architecture.bits)
    (hne : offset ≠ machine.architecture.stackPointer.offset) :
    ((machine.setStackPointer lower).assign offset value).setStackPointer sp =
      machine.assign offset value :=
  calc ((machine.setStackPointer lower).assign offset value).setStackPointer sp
    _ = ((machine.setStackPointer lower).setStackPointer sp).assign offset value :=
        assign_comm _ _ _ _ _ hne
    _ = (machine.setStackPointer sp).assign offset value :=
        congrArg (·.assign offset value) (assign_assign machine _ _ _)
    _ = machine.assign offset value := by rw [setStackPointer_self machine sp hsp hlt]

/-- What a call has left when it has returned: the return address, in the link
    register or in the slot below the stack pointer. -/
inductive Marked (machine : Machine) (address : Value) : ReturnSequence → Machine → Prop
  | linkRegister (link : Register) :
      Marked machine address (.linkRegister link) (machine.assign link.offset address)
  | popStack (sp lower : Word) : machine.readStackPointer = .ok sp →
      lower.toNat + machine.architecture.pointerSize = sp.toNat →
      Marked machine address .popStack (machine.store lower address)

theorem architecture_of_leaveReturn (machine middle : Machine) (sequence : Option ReturnSequence)
    (address : Word) (h : machine.leaveReturn sequence address = .done () middle) :
    middle.architecture = machine.architecture := by
  have hkept := machine.architecture_leaveReturn sequence address
  rw [h] at hkept
  exact hkept

/-- A call leaves its return address, and then it jumps. -/
theorem execute_call_eq_done_iff (registry : Registry) (machine after : Machine) (flow : Flow)
    (target returnAddress : Word) :
    Block.execute registry [.call target returnAddress] machine = .done flow after ↔
      flow = .next ∧ ∃ middle,
        machine.leaveReturn (registry.returnSequence? machine.architecture) returnAddress =
          .done () middle ∧
        after = middle.assign machine.architecture.instructionPointer.offset
          (.constant target machine.architecture.instructionPointer.bits) := by
  rw [Block.execute_cons registry _ [] machine (by nofun), Outcome.andThen_eq_done_iff]
  simp only [Instruction.perform, Outcome.andThen_eq_done_iff, jump_eq_done, Block.execute]
  constructor
  · rintro ⟨_, left, ⟨_, middle, hleave, hjump⟩, hdone⟩
    rw [Outcome.done_eq_done_iff] at hjump hdone
    rw [machine.architecture_of_leaveReturn middle _ returnAddress hleave] at hjump
    exact ⟨hdone.1.symm, middle, hleave, hdone.2.symm.trans hjump.2.symm⟩
  · rintro ⟨rfl, middle, hleave, rfl⟩
    have hmiddle := machine.architecture_of_leaveReturn middle _ returnAddress hleave
    exact ⟨(), _, ⟨(), middle, hleave, rfl⟩, by rw [hmiddle]⟩

/-- The return address of a call is found where the way back leads, and taking
    it leaves the machine before the call with the mark and the jump. -/
theorem takeReturn_of_call (machine middle : Machine) (sequence : ReturnSequence)
    (returnAddress : Word) (target : Value) (hmachine : machine.WellFormed)
    (hapart : ∀ link, sequence = .linkRegister link →
      link.offset ≠ machine.architecture.instructionPointer.offset)
    (hleave : machine.leaveReturn (some sequence) returnAddress = .done () middle) :
    ∃ marked, machine.Marked (.constant returnAddress machine.architecture.bits) sequence marked ∧
      (middle.assign machine.architecture.instructionPointer.offset target).takeReturn sequence =
        .done (.constant returnAddress machine.architecture.bits)
          (marked.assign machine.architecture.instructionPointer.offset target) := by
  cases sequence with
  | linkRegister link =>
      have hwritten : machine.writeRegister link
          (.constant returnAddress machine.architecture.bits) = .done () middle := hleave
      have hbits : machine.architecture.bits = link.bits :=
        (machine.writeRegister_result_ok_iff link
          (.constant returnAddress machine.architecture.bits)).mp
            (by rw [hwritten, Outcome.result_done])
      rw [machine.writeRegister_of_bits link
        (.constant returnAddress machine.architecture.bits) hbits,
        Outcome.done_eq_done_iff] at hwritten
      refine ⟨middle, hwritten.2 ▸ Marked.linkRegister link, ?_⟩
      -- The jump is beside the link register, and reading one moves nothing.
      have hread : (middle.assign machine.architecture.instructionPointer.offset
          target).readRegister link = .ok (.constant returnAddress machine.architecture.bits) := by
        rw [readRegister_assign_other middle _ link target fun hc => hapart link rfl hc.symm,
          ← hwritten.2]
        exact readRegister_assign_same machine link _ hbits
      simp only [takeReturn, hread]
      rfl
  | popStack =>
      rcases (push_eq_done_iff machine middle _).mp hleave with ⟨_, sp, _, hsp, _, _⟩
      have hlt := machine.readStackPointer_lt sp hmachine hsp
      have hne := machine.architecture.offset_instructionPointer_ne
      rcases push_exact machine middle _ sp hsp hlt hleave with ⟨lower, hroom, rfl, hlower⟩
      refine ⟨_, Marked.popStack sp lower hsp hroom, (pop_eq_done_iff _ _ _).mpr
        ⟨lower, sp, ?_, ?_, hroom.symm, ?_⟩⟩
      · rw [← hlower]
        exact readStackPointer_assign_other ((machine.store lower _).setStackPointer lower) _
          target hne
      · rw [stack_assign, stack_setStackPointer, getElem?_stack_store, if_pos rfl]
      · exact (setStackPointer_back (machine.store lower _) sp lower _ target hsp hlt hne).symm

end Machine

/-- A block that goes on behind itself has not halted on the way. -/
theorem Block.halt_not_mem (registry : Registry) (block : Block) :
    ∀ machine after : Machine, block.execute registry machine = .done .next after →
      Instruction.halt ∉ block := by
  induction block with
  | nil => exact fun _ _ _ => List.not_mem_nil
  | cons instruction rest ih =>
      intro machine after h
      by_cases hhalt : instruction = .halt
      · subst hhalt
        cases h
      · rw [execute_cons registry instruction rest machine hhalt] at h
        rcases (Outcome.andThen_eq_done_iff _ _ _ after).mp h with ⟨_, middle, _, hrest⟩
        rw [List.mem_cons, not_or]
        exact ⟨fun hc => hhalt hc.symm, ih middle after hrest⟩

/-- A return finds the address that the call has left. -/
theorem Activation.doReturn_of_call (registry : Registry) (machine after : Machine) (flow : Flow)
    (target returnAddress : Word) (sequence : ReturnSequence) (call : Invocation)
    (a : Activation) (hmachine : machine.WellFormed)
    (hsequence : registry.returnSequence? machine.architecture = some sequence)
    (hapart : ∀ link, sequence = .linkRegister link →
      link.offset ≠ machine.architecture.instructionPointer.offset)
    (hcall : Block.execute registry [.call target returnAddress] machine = .done flow after)
    (harch : call.architecture = machine.architecture) (ha : a.machine = after) :
    ∃ marked left,
      machine.Marked (.constant returnAddress machine.architecture.bits) sequence marked ∧
        a.doReturn ⟨registry, call⟩ =
          .done (.constant returnAddress machine.architecture.bits) left ∧
        left.machine = marked.assign machine.architecture.instructionPointer.offset
          (.constant target machine.architecture.instructionPointer.bits) := by
  rcases (machine.execute_call_eq_done_iff registry after flow target returnAddress).mp hcall with
    ⟨_, middle, hleave, hafter⟩
  rw [hsequence] at hleave
  rcases machine.takeReturn_of_call middle sequence returnAddress
    (.constant target machine.architecture.instructionPointer.bits) hmachine hapart hleave with
    ⟨marked, hmarked, htake⟩
  rw [← hafter, ← ha] at htake
  have hfound : Setting.returnSequence ⟨registry, call⟩ = .ok sequence := by
    unfold Setting.returnSequence
    simp only [harch, hsequence]
  exact ⟨marked, _, hmarked, a.doReturn_of_done _ sequence _ _ hfound htake, rfl⟩

namespace Explorer

/-- Where the exploration goes on, if what ran at the position has a target
    that is known. -/
theorem next_of_target (explorer : Explorer) (position : Position) (flow : Flow) (target : Value)
    (address : Word) (hresult : (explorer.runUnit position).result = .ok flow)
    (htarget : (explorer.runUnit position).machine.target? flow = .ok (some target))
    (hword : target.word? = some address) :
    explorer.next? position =
      some ⟨address, some position.address,
        ((explorer.runUnit position).machine.jump address).state,
        (explorer.runUnit position).names⟩ := by
  unfold next? advance proceed
  simp only [hresult, htarget, hword, Machine.jump_eq_done]
  rfl

/-- The block at the position comes to a call on the machine, and the target of
    the call is hooked with a summary that returns and does nothing else. -/
structure CallsAway (explorer : Explorer) (position : Position) (machine : Machine)
    (target returnAddress : Word) : Prop where
  unhooked : explorer.hooks.isHooked position.address = false
  block : ∃ front : Block,
    explorer.blocks[position.address]? = some (front ++ [.call target returnAddress]) ∧
      front.execute explorer.registry position.machine = .done .next machine
  hooked : ∃ hook,
    explorer.hooks.lookup? (Value.lowBits machine.architecture.bits target) = some hook ∧
      hook.summary = .returnVoid

/-- The step to the callee. The machine that arrives there is the one that the
    call has left, since its instruction pointer says already where it goes. -/
theorem next_of_call (explorer : Explorer) (position : Position) (machine after : Machine)
    (flow : Flow) (target returnAddress : Word)
    (h : explorer.CallsAway position machine target returnAddress)
    (hcall : Block.execute explorer.registry [.call target returnAddress] machine =
      .done flow after) :
    explorer.next? position =
      some ⟨Value.lowBits machine.architecture.bits target, some position.address, after,
        position.names⟩ := by
  rcases h.block with ⟨front, hblock, hfront⟩
  rcases (machine.execute_call_eq_done_iff _ after flow target returnAddress).mp hcall with
    ⟨rfl, middle, hleave, hafter⟩
  have hrun : Block.execute explorer.registry (front ++ [.call target returnAddress])
      position.machine = .done .next after := by
    rw [Block.execute_append _ _ _ _ (Block.halt_not_mem _ front _ _ hfront), hfront]
    exact hcall
  have hunit : explorer.runUnit position = ⟨.ok .next, after, position.names, []⟩ := by
    unfold runUnit runBlock
    simp only [h.unhooked, hblock, hrun]
    rfl
  have harch : after.architecture = machine.architecture := by
    rw [hafter]
    exact machine.architecture_of_leaveReturn middle _ returnAddress hleave
  have hheld : after.registers[machine.architecture.instructionPointer.offset]? =
      some (.constant target machine.architecture.bits) := by
    rw [hafter, Machine.getElem?_registers_assign, if_pos rfl,
      Architecture.bits_instructionPointer]
  have htarget : after.target? .next = .ok (some (.constant target machine.architecture.bits)) := by
    have hread : after.readRegister machine.architecture.instructionPointer =
        .ok (.constant target machine.architecture.bits) :=
      Machine.readRegister_eq_ok_iff.mpr
        ⟨hheld, (Architecture.bits_instructionPointer _).symm⟩
    unfold Machine.target?
    rw [harch, hread]
    rfl
  have hjump : (after.jump (Value.lowBits machine.architecture.bits target)).state = after := by
    rw [Machine.jump_eq_done, Outcome.state_done, harch, Architecture.bits_instructionPointer]
    refine after.assign_self _ _ ?_
    rw [hheld, Value.constant, Value.constant, Value.lowBits_lowBits]
  have hnext := explorer.next_of_target position .next _ _ (by rw [hunit])
    (by rw [hunit]; exact htarget) (Value.word?_constant target machine.architecture.bits)
  rw [hunit] at hnext
  rw [hnext, hjump]

/-- The step back. It goes to the target that the return finds. -/
theorem next_of_returnVoid (explorer : Explorer) (position : Position) (hook : Hook)
    (word : Word) (bits : Nat) (left : Activation)
    (hhook : explorer.hooks.lookup? position.address = some hook)
    (hsummary : hook.summary = .returnVoid)
    (hreturn : (Activation.start position.machine position.names).doReturn
        ⟨explorer.registry, explorer.registry.invocation position.machine.architecture
          position.caller hook.convention⟩ = .done (.constant word bits) left) :
    ∃ after, explorer.next? position = some after ∧ after.address = Value.lowBits bits word := by
  rcases (Activation.doReturn_eq_done_iff _ left _ _).mp hreturn with ⟨_, machine, _, _, hleft⟩
  have hunit : (explorer.runUnit position).result = .ok (.returnTo (.constant word bits)) := by
    have hhooked : explorer.hooks.isHooked position.address = true := by
      rw [HookTable.isHooked_eq, hhook]
      rfl
    unfold runUnit runHook HookTable.dispatch? Summary.bind
    simp only [hhooked, if_true, hhook, Option.map_some, hsummary, Summary.returnVoid,
      Bound.execute, Program.doReturn, Program.step, Program.ask, Program.run, Operation.perform,
      ← Registry.invocation.eq_1, hreturn, Outcome.result_done, Outcome.state_done, Run.after]
    rw [hleft]
    rfl
  exact ⟨_, explorer.next_of_target position _ _ _ hunit rfl (Value.word?_constant word bits), rfl⟩

/-- Both steps together. After the block and the summary comes the return
    address, as far as a pointer can hold it. -/
theorem visited_of_call (explorer : Explorer) (position : Position) (machine after : Machine)
    (flow : Flow) (target returnAddress : Word)
    (h : explorer.CallsAway position machine target returnAddress)
    (hcall : Block.execute explorer.registry [.call target returnAddress] machine =
      .done flow after)
    (hreturn : ∀ (call : Invocation) (a : Activation), call.architecture = machine.architecture →
      a.machine = after → ∃ left, a.doReturn ⟨explorer.registry, call⟩ =
        .done (.constant returnAddress machine.architecture.bits) left)
    (limit steps : Nat) :
    ∃ returned rest,
      (explorer.walk limit (steps + 3) position).visited =
        position.address :: Value.lowBits machine.architecture.bits target :: returned :: rest ∧
      returned.toNat = returnAddress.toNat % 2 ^ machine.architecture.bits := by
  have harch : after.architecture = machine.architecture := by
    have hkept := Block.architecture_execute explorer.registry [.call target returnAddress] machine
    rw [hcall] at hkept
    exact hkept
  have hfirst := explorer.next_of_call position machine after flow target returnAddress h hcall
  rcases h.hooked with ⟨hook, hlookup, hsummary⟩
  -- The summary is bound to a call on the machine that has arrived.
  rcases hreturn (explorer.registry.invocation after.architecture (some position.address)
    hook.convention) (.start after position.names) harch rfl with ⟨left, hdone⟩
  let callee : Position :=
    ⟨Value.lowBits machine.architecture.bits target, some position.address, after, position.names⟩
  rcases explorer.next_of_returnVoid callee hook returnAddress _ left hlookup hsummary hdone with
    ⟨last, hsecond, haddress⟩
  rcases explorer.visited_walk_succ limit steps last with ⟨rest, hrest⟩
  refine ⟨last.address, rest, ?_, ?_⟩
  · rw [explorer.walk_of_next_some limit (steps + 2) position callee hfirst,
      explorer.walk_of_next_some limit (steps + 1) callee last hsecond]
    simp only [Walk.after, hrest, callee]
  · rw [haddress, Value.toNat_lowBits_eq]

end Explorer

/-- A call and its return agree for every registry. Where the registry knows a
    way back, the return finds the address that the call has left, and what
    stays of both is the mark and the jump; an explorer that takes the call to
    a summary goes on at the return address, cut to the width of a pointer.
    Where the registry knows none, the return fails and changes nothing. -/
theorem Registry.callReturn_agree (registry : Registry) (machine after : Machine) (flow : Flow)
    (target returnAddress : Word) (hmachine : machine.Reachable)
    (hapart : ∀ link,
      registry.returnSequence? machine.architecture = some (.linkRegister link) →
        link.offset ≠ machine.architecture.instructionPointer.offset)
    (hcall : Block.execute registry [.call target returnAddress] machine = .done flow after) :
    (∀ sequence, registry.returnSequence? machine.architecture = some sequence →
      (∀ (call : Invocation) (a : Activation), call.architecture = machine.architecture →
        a.machine = after →
          ∃ marked left,
            machine.Marked (.constant returnAddress machine.architecture.bits) sequence marked ∧
              a.doReturn ⟨registry, call⟩ =
                .done (.constant returnAddress machine.architecture.bits) left ∧
              left.machine = marked.assign machine.architecture.instructionPointer.offset
                (.constant target machine.architecture.instructionPointer.bits)) ∧
      ∀ (explorer : Explorer) (position : Position), explorer.registry = registry →
        explorer.CallsAway position machine target returnAddress →
          ∀ limit steps : Nat, ∃ returned rest,
            (explorer.walk limit (steps + 3) position).visited =
              position.address :: Value.lowBits machine.architecture.bits target ::
                returned :: rest ∧
            returned.toNat = returnAddress.toNat % 2 ^ machine.architecture.bits) ∧
    (registry.returnSequence? machine.architecture = none →
      ∀ (call : Invocation) (a : Activation), call.architecture = machine.architecture →
        a.machine = after →
          a.doReturn ⟨registry, call⟩ = .failed (.unsupportedPlatform machine.architecture) a) := by
  have hwellFormed := machine.reachable_wellFormed hmachine
  refine ⟨?_, ?_⟩
  · intro sequence hsequence
    have hlink : ∀ link, sequence = .linkRegister link →
        link.offset ≠ machine.architecture.instructionPointer.offset := by
      rintro link rfl
      exact hapart link hsequence
    have hreturn := fun call a => Activation.doReturn_of_call registry machine after flow target
      returnAddress sequence call a hwellFormed hsequence hlink hcall
    refine ⟨hreturn, ?_⟩
    rintro explorer position rfl hcalls limit steps
    refine explorer.visited_of_call position machine after flow target returnAddress hcalls hcall
      ?_ limit steps
    intro call a harch ha
    rcases hreturn call a harch ha with ⟨_, left, _, hdone, _⟩
    exact ⟨left, hdone⟩
  · intro hsequence call a harch _
    have hunknown : Setting.returnSequence ⟨registry, call⟩ =
        .error (.unsupportedPlatform machine.architecture) := by
      unfold Setting.returnSequence
      simp only [harch, hsequence]
    exact a.doReturn_of_unknown _ _ hunknown

namespace Explorer

/-- A link register at an odd place, between those the architecture knows. -/
def oddLink : Register := ⟨"link", 7, 4⟩

/-- A block that calls through the odd link register. Its target and its return
    address are wider than a pointer. -/
def oddCall : Explorer where
  blocks := (∅ : Std.ExtTreeMap Word Block).insert 0x1000
    [.write X86.eax 5, .call 0x100002000 0x200001005]
  hooks := (HookTable.empty.insert 0x2000 ⟨.returnVoid, none⟩).table
  registry := Registry.empty.setReturnSequence .x86 (.linkRegister oddLink)

/-- The machine that comes to the call. -/
def oddCaller : Machine :=
  ((Machine.withStackPointer .x86 0x3000).writeRegister X86.eax (.constant 5 32)).state

theorem callReturn_agree_oddCall :
    oddCaller.Reachable ∧
      (∃ left, (Activation.start ((Instruction.call 0x100002000 0x200001005).perform
          oddCall.registry oddCaller).state .zero).doReturn
          ⟨oddCall.registry, ⟨none, .x86, none⟩⟩ = .done (.constant 0x200001005 32) left) ∧
      ∃ rest, (oddCall.explore (.withStackPointer .x86 0x3000) .zero 0x1000 3).visited =
        0x1000 :: 0x2000 :: 0x1005 :: rest := by
  have hreachable : oddCaller.Reachable :=
    Machine.Reachable.writeRegister _ _ _ (Machine.Reachable.withStackPointer .x86 0x3000)
      (Value.fits_constant 5 32)
  have hsequence : oddCall.registry.returnSequence? .x86 = some (.linkRegister oddLink) := rfl
  have hagree := oddCall.registry.callReturn_agree oddCaller _ _ 0x100002000 0x200001005 hreachable
    (by rintro link ⟨⟩; decide) rfl
  rcases hagree.1 (.linkRegister oddLink) hsequence with ⟨hreturn, hwalk⟩
  have hcalls : oddCall.CallsAway ⟨0x1000, none, .withStackPointer .x86 0x3000, .zero⟩ oddCaller
      0x100002000 0x200001005 :=
    ⟨rfl, ⟨[.write X86.eax 5], rfl, rfl⟩, ⟨⟨.returnVoid, none⟩, rfl, rfl⟩⟩
  refine ⟨hreachable, ?_, ?_⟩
  · rcases hreturn ⟨none, .x86, none⟩ (.start _ .zero) rfl rfl with ⟨_, left, _, hdone, _⟩
    exact ⟨left, hdone⟩
  · rcases hwalk oddCall _ rfl hcalls 3 0 with ⟨returned, rest, hvisited, hreturned⟩
    have hword : returned = 0x1005 := by
      rw [← UInt64.toNat_inj, hreturned]
      rfl
    rw [hword] at hvisited
    exact ⟨rest, hvisited⟩

end Explorer

end CallSummary
