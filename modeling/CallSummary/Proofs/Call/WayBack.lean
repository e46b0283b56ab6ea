import CallSummary.Convention.Builtin
import CallSummary.Proofs.Call.Services

/-!
# The Way Back to the Caller

What taking a return target needs, what it changes, and what does not disturb
it.

A return target is looked for in one place. The way back over the stack reads
the slot the stack pointer leads to, and a link register is read itself. The
register that decides is the `source` of the sequence. `pastReturn` is the
machine afterwards, said without the access: the link register leaves it as it
was, and the stack has its pointer moved by one slot, cut to the width of a
pointer. A target that cannot be had leaves it as it was in either case.

`LeadsBack` says all of this of a registry and a machine, in terms of what the
machine holds: the registers and the slot that are looked at, and what has to
be there. `leadsBack_iff` is the proof that the access does just that.

A summary writes its return value before it goes back. Both results of the
return are the same as before the write as long as the return register is not
the source, which is what `KeepsApart` asks of a registry. All built-in
declarations satisfy it.

## Main definitions

* `ReturnSequence.source`: The register that says where the target is.
* `Machine.pastReturn`: The machine after a return.
* `Registry.KeepsApart`: The return register is not the source of the target.
* `Registry.LeadsBack`: The target of a return, and the machine past it, by
  what the machine holds.

## Theorems

* `eq_of_registers`: Machines are equal that hold the same.
* `assign_comm`: Writes at two offsets commute.
* `takeReturn_atomic`: A target that cannot be had changes nothing.
* `state_of_takeReturn`: A target that is taken leaves the machine past it.
* `result_takeReturn_assign`, `pastReturn_assign`: A write beside the source
  does not disturb a return.
* `leadsBack_iff`: A target that is taken is one that the machine leads to.
* `leadsBack_assign`: A return value that was written is no obstacle.
* `keepsApart_builtin`: The built-in registry keeps the two apart.
-/

namespace CallSummary

/-- The register that says where the return target is. -/
def ReturnSequence.source (arch : Architecture) : ReturnSequence → Register
  | .popStack => arch.stackPointer
  | .linkRegister register => register

namespace Machine

/-- The machine after a return that has its target: past the slot that held it,
    if it was on the stack. -/
def pastReturn (machine : Machine) : ReturnSequence → Machine
  | .linkRegister _ => machine
  | .popStack =>
    match machine.readStackPointer with
    | .error _ => machine
    | .ok sp =>
      let bits := machine.architecture.bits
      let above := (sp.toNat + machine.architecture.pointerSize) % 2 ^ bits
      machine.assign machine.architecture.stackPointer.offset (.concrete (.ofNat above) bits)

/-- A machine is known by its architecture, its stack, and its registers one by
    one. -/
theorem eq_of_registers (machine other : Machine)
    (harch : machine.architecture = other.architecture) (hstack : machine.stack = other.stack)
    (hregisters : ∀ offset : Nat, machine.registers[offset]? = other.registers[offset]?) :
    machine = other := by
  have hall : machine.registers = other.registers := Std.ExtTreeMap.ext_getElem? hregisters
  cases machine with
  | mk arch registers stack =>
      simp only at harch hstack hall
      rw [harch, hstack, hall]

theorem assign_comm (machine : Machine) (first second : Nat) (value other : Value)
    (h : first ≠ second) :
    (machine.assign first value).assign second other =
      (machine.assign second other).assign first value := by
  refine eq_of_registers _ _ rfl rfl ?_
  intro offset
  simp only [getElem?_registers_assign]
  by_cases hfirst : first = offset
  · have hsecond : second ≠ offset := fun hsame => h (hfirst.trans hsame.symm)
    simp only [if_pos hfirst, if_neg hsecond]
  · simp only [if_neg hfirst]

theorem takeReturn_atomic (machine : Machine) (sequence : ReturnSequence) (cause : AccessError)
    (h : (machine.takeReturn sequence).result = .error cause) :
    (machine.takeReturn sequence).state = machine := by
  cases sequence with
  | popStack => exact pop_atomic machine cause h
  | linkRegister register => rfl

theorem state_of_takeReturn (machine : Machine) (sequence : ReturnSequence) (target : Value)
    (h : (machine.takeReturn sequence).result = .ok target) :
    (machine.takeReturn sequence).state = machine.pastReturn sequence := by
  cases sequence with
  | linkRegister register => rfl
  | popStack =>
      have hpop : machine.pop = .done target machine.pop.state :=
        Outcome.eq_done_of_result machine.pop target h
      rcases (pop_eq_done_iff machine _ target).mp hpop with ⟨sp, upper, hsp, _, hupper, hafter⟩
      -- The word that goes into the register and what the register holds of it.
      have hlow : Value.lowBits machine.architecture.bits upper =
          .ofNat
            ((sp.toNat + machine.architecture.pointerSize) % 2 ^ machine.architecture.bits) := by
        have hlt := upper.toNat_lt
        have hle := Nat.mod_le upper.toNat (2 ^ machine.architecture.bits)
        rw [← UInt64.toNat_inj, Value.toNat_lowBits_eq, ← hupper,
          UInt64.toNat_ofNat_of_lt' (by simp only [UInt64.size]; omega)]
      simp only [takeReturn, pastReturn, hsp]
      rw [hafter, setStackPointer, Architecture.bits_stackPointer, Value.constant, hlow]

/-- A write beside the source leaves the target where it is. -/
theorem result_takeReturn_assign (machine : Machine) (sequence : ReturnSequence) (offset : Nat)
    (value : Value) (h : offset ≠ (sequence.source machine.architecture).offset) :
    ((machine.assign offset value).takeReturn sequence).result =
      (machine.takeReturn sequence).result := by
  cases sequence with
  | linkRegister register => exact readRegister_assign_other machine offset register value h
  | popStack =>
      simp only [takeReturn, pop, readStackPointer_assign_other machine offset value h,
        stack_assign, architecture_assign]
      cases machine.readStackPointer with
      | error cause => rfl
      | ok sp =>
          cases hslot : machine.stack[sp]? with
          | none => simp only [hslot, Outcome.result_failed]
          | some target =>
              simp only [hslot]
              cases Word.ofInt? (sp.toNat + machine.architecture.pointerSize) with
              | none => rfl
              | some upper => rfl

theorem pastReturn_assign (machine : Machine) (sequence : ReturnSequence) (offset : Nat)
    (value : Value) (h : offset ≠ (sequence.source machine.architecture).offset) :
    (machine.assign offset value).pastReturn sequence =
      (machine.pastReturn sequence).assign offset value := by
  cases sequence with
  | linkRegister register => rfl
  | popStack =>
      simp only [pastReturn, readStackPointer_assign_other machine offset value h,
        architecture_assign]
      cases machine.readStackPointer with
      | error cause => rfl
      | ok sp => exact assign_comm machine offset _ value _ h

end Machine

/-- The return register is not the one that says where the return target is. -/
def Registry.KeepsApart (registry : Registry) (arch : Architecture) : Prop :=
  ∀ register sequence, registry.returnRegister? arch = some register →
    registry.returnSequence? arch = some sequence →
    register.offset ≠ (sequence.source arch).offset

/-- The registry knows a way back from the machine: to the target, and past
    it. Over the stack the pointer has to be a known address of its width, with
    the target in the slot there, and the address of the slot above has to be a
    word, which the pointer takes over as far as it is wide. A link register
    has to hold a target as wide as it is. -/
inductive Registry.LeadsBack (registry : Registry) (machine : Machine) : Value → Machine → Prop
  | popStack (sp : Word) (target : Value)
      (hsequence : registry.returnSequence? machine.architecture = some .popStack)
      (hsp : machine.registers[machine.architecture.stackPointer.offset]? =
        some (.concrete sp machine.architecture.bits))
      (hslot : machine.stack[sp]? = some target)
      (hroom : sp.toNat + machine.architecture.pointerSize < 2 ^ 64) :
      LeadsBack registry machine target
        (machine.assign machine.architecture.stackPointer.offset
          (.concrete
            (.ofNat ((sp.toNat + machine.architecture.pointerSize) %
              2 ^ machine.architecture.bits))
            machine.architecture.bits))
  | linkRegister (register : Register) (target : Value)
      (hsequence : registry.returnSequence? machine.architecture =
        some (.linkRegister register))
      (hheld : machine.registers[register.offset]? = some target)
      (hbits : target.bits = register.bits) : LeadsBack registry machine target machine

/-- The machine leads to the target that is taken from it, and to no other. -/
theorem Registry.leadsBack_iff (registry : Registry) (machine : Machine) (target : Value)
    (back : Machine) :
    registry.LeadsBack machine target back ↔
      ∃ sequence, registry.returnSequence? machine.architecture = some sequence ∧
        (machine.takeReturn sequence).result = .ok target ∧
        back = machine.pastReturn sequence := by
  constructor
  · intro h
    cases h with
    | linkRegister register target hsequence hheld hbits =>
        exact ⟨_, hsequence, Machine.readRegister_eq_ok_iff.mpr ⟨hheld, hbits⟩, rfl⟩
    | popStack sp target hsequence hsp hslot hroom =>
        have hread := (machine.readStackPointer_eq_ok_iff sp).mpr hsp
        -- The address above the slot is a word, so the pop is not refused.
        rcases Word.exists_toNat_eq _ hroom with ⟨upper, hupper⟩
        have hpop : machine.pop = .done target (machine.setStackPointer upper) :=
          (Machine.pop_eq_done_iff machine _ target).mpr ⟨sp, upper, hread, hslot, hupper, rfl⟩
        refine ⟨_, hsequence, ?_, ?_⟩
        · rw [Machine.takeReturn, hpop, Outcome.result_done]
        · simp only [Machine.pastReturn, hread]
  · rintro ⟨sequence, hsequence, htake, rfl⟩
    cases sequence with
    | linkRegister register =>
        rcases Machine.readRegister_eq_ok_iff.mp htake with ⟨hheld, hbits⟩
        exact .linkRegister register target hsequence hheld hbits
    | popStack =>
        have hpop : machine.pop = .done target machine.pop.state :=
          Outcome.eq_done_of_result machine.pop target htake
        rcases (Machine.pop_eq_done_iff machine _ target).mp hpop with
          ⟨sp, upper, hread, hslot, hupper, _⟩
        have hroom := upper.toNat_lt
        rw [hupper] at hroom
        -- Where the pop leaves the stack pointer is what `pastReturn` says.
        have hback := LeadsBack.popStack sp target hsequence
          ((machine.readStackPointer_eq_ok_iff sp).mp hread) hslot hroom
        simpa only [Machine.pastReturn, hread] using hback

/-- Writing the return register beforehand changes nothing about the way back,
    and what was written is still there at its end. -/
theorem Registry.leadsBack_assign (registry : Registry) (machine : Machine) (register : Register)
    (value target : Value) (after : Machine) (hapart : registry.KeepsApart machine.architecture)
    (hregister : registry.returnRegister? machine.architecture = some register) :
    registry.LeadsBack (machine.assign register.offset value) target after ↔
      ∃ back, registry.LeadsBack machine target back ∧
        after = back.assign register.offset value := by
  simp only [leadsBack_iff]
  constructor
  · rintro ⟨sequence, hsequence, htake, hafter⟩
    have hbeside := hapart register sequence hregister hsequence
    rw [machine.result_takeReturn_assign sequence _ value hbeside] at htake
    rw [machine.pastReturn_assign sequence _ value hbeside] at hafter
    exact ⟨_, ⟨sequence, hsequence, htake, rfl⟩, hafter⟩
  · rintro ⟨back, ⟨sequence, hsequence, htake, rfl⟩, rfl⟩
    have hbeside := hapart register sequence hregister hsequence
    refine ⟨sequence, hsequence, ?_, ?_⟩
    · rw [machine.result_takeReturn_assign sequence _ value hbeside]
      exact htake
    · rw [machine.pastReturn_assign sequence _ value hbeside]

theorem Registry.keepsApart_builtin (arch : Architecture) : Registry.builtin.KeepsApart arch := by
  intro register sequence hregister hsequence
  cases arch <;> cases hregister <;> cases hsequence <;> decide

end CallSummary
