import CallSummary.Proofs.Call.Services
import CallSummary.Proofs.Convention.Location
import CallSummary.Proofs.Machine.StackRead
import CallSummary.Proofs.Summary.Binding

/-!
# Reading an Argument

What reading an argument comes to in every case, and what it looks at.

The questions are asked one after the other, and the first without an answer
decides. Is there a convention, and is it placed on the architecture? Is the
index one of a register? Does the offset of the slot exist? Then the machine
is asked, for the register or for the slot, and no earlier, so what is wrong
with the machine is of no interest to a call without a placement.
`ArgumentRead` has one rule for each of these ways.

The machine is only looked at where the location says. Two calls under one
setting therefore read the same argument as soon as their machines agree on
one register, or on the stack pointer and one slot. Neither leaves anything
behind but its line of the journal.

## Main definitions

* `Setting.Places`: The convention of the call places arguments like this.
* `Setting.ArgumentRead`: What reading an argument comes to.
* `Machine.AgreeAt`: Two machines agree on what a read of a location looks at.

## Theorems

* `readLocation_congr`: Machines that agree at a location hold the same there.
* `location_of_unplaced`, `location_of_nowhere`: Why there is no location.
* `result_argument_eq_iff`: A read comes to what the rules say.
* `argument_outcome`: The answer, what is left, and what has been looked at.
-/

namespace CallSummary

theorem Fault.message_unsupportedArguments (convention : Option CallingConvention)
    (arch : Architecture) :
    (unsupportedArguments convention arch).message =
      "unsupported calling convention " ++
        convention.elim "<unresolved>" CallingConvention.identifier ++ " for arguments on " ++
          arch.name := by
  cases convention <;> rfl

namespace Machine

/-- The two machines agree on what a read of the location looks at. -/
def AgreeAt (machine other : Machine) : Location → Prop
  | .register register => machine.registers[register.offset]? = other.registers[register.offset]?
  | .stack offset => machine.AgreeBelow other offset

/-- Machines that agree at a location hold the same there. -/
theorem readLocation_congr (machine other : Machine) (location : Location)
    (h : machine.AgreeAt other location) :
    machine.readLocation location = other.readLocation location := by
  cases location with
  | register register =>
      have hsame : machine.registers[register.offset]? = other.registers[register.offset]? := h
      unfold readLocation readRegister
      simp only [hsame]
  | stack offset => exact machine.readStack_congr other offset h

end Machine

namespace Setting

/-- The convention of the call is resolved, and this is its placement. -/
def Places (setting : Setting) (placement : Placement) : Prop :=
  ∃ convention, setting.invocation.convention = some convention ∧
    setting.registry.placement? setting.invocation.architecture convention = some placement

theorem placement_eq_ok_iff_places (setting : Setting) (placement : Placement) :
    setting.placement = .ok placement ↔ setting.Places placement := by
  rw [setting.placement_eq_ok_iff, Option.bind_eq_some_iff]
  rfl

theorem location_of_unplaced (setting : Setting) (index : Nat)
    (h : setting.invocation.convention.bind
      (setting.registry.placement? setting.invocation.architecture) = none) :
    setting.location index = .error
      (.unsupportedArguments setting.invocation.convention setting.invocation.architecture) := by
  unfold location placement
  simp only [h]
  rfl

theorem location_of_nowhere (setting : Setting) (placement : Placement) (index : Nat)
    (hplaces : setting.Places placement) (h : placement.location index = none) :
    setting.location index = .error (.invalidArgument (.argumentOverflow index)) := by
  unfold location
  rw [(setting.placement_eq_ok_iff_places placement).mpr hplaces]
  simp only [bind, Except.bind, h]

/-- What reading the argument of an index from the machine comes to. -/
inductive ArgumentRead (setting : Setting) (machine : Machine) (index : Nat) :
    Except Fault Value → Prop where
  | unresolved (hconvention : setting.invocation.convention = none) :
      ArgumentRead setting machine index
        (.error (.unsupportedArguments none setting.invocation.architecture))
  | unplaced (convention : CallingConvention)
      (hconvention : setting.invocation.convention = some convention)
      (hplacement : setting.registry.placement? setting.invocation.architecture convention =
        none) :
      ArgumentRead setting machine index
        (.error (.unsupportedArguments (some convention) setting.invocation.architecture))
  | register (placement : Placement) (hplaces : setting.Places placement)
      (hindex : index < placement.registers.length) :
      ArgumentRead setting machine index
        ((machine.readRegister placement.registers[index]).mapError .access)
  | nowhere (placement : Placement) (hplaces : setting.Places placement)
      (hindex : placement.registers.length ≤ index)
      (hlocation : placement.location index = none) :
      ArgumentRead setting machine index (.error (.invalidArgument (.argumentOverflow index)))
  | slot (placement : Placement) (hplaces : setting.Places placement)
      (hindex : placement.registers.length ≤ index) (offset : Offset)
      (hlocation : placement.location index = some (.stack offset))
      (result : Except AccessError Value) (hread : machine.SlotRead offset result) :
      ArgumentRead setting machine index (result.mapError .access)

theorem exists_argumentRead (setting : Setting) (machine : Machine) (index : Nat) :
    ∃ result, setting.ArgumentRead machine index result := by
  cases hconvention : setting.invocation.convention with
  | none => exact ⟨_, .unresolved hconvention⟩
  | some convention =>
      cases hplacement : setting.registry.placement? setting.invocation.architecture
          convention with
      | none => exact ⟨_, .unplaced convention hconvention hplacement⟩
      | some placement =>
          have hplaces : setting.Places placement := ⟨convention, hconvention, hplacement⟩
          cases hlocation : placement.location index with
          | none =>
              have hindex : placement.registers.length ≤ index := by
                refine Nat.le_of_not_lt fun hlt => ?_
                rw [Placement.location_of_lt hlt] at hlocation
                cases hlocation
              exact ⟨_, .nowhere placement hplaces hindex hlocation⟩
          | some location =>
              rcases placement.location_cases index location hlocation with
                ⟨hindex, _⟩ | ⟨hindex, offset, rfl, _⟩
              · exact ⟨_, .register placement hplaces hindex⟩
              · rcases machine.exists_slotRead offset with ⟨result, hread⟩
                exact ⟨_, .slot placement hplaces hindex offset hlocation result hread⟩

end Setting

namespace Activation

theorem result_argument_of_location (a : Activation) (setting : Setting) (index : Nat)
    (location : Location) (h : setting.location index = .ok location) :
    (a.argument setting index).result = (a.machine.readLocation location).mapError .access := by
  rw [result_argument, h]
  rfl

theorem result_argument_of_error (a : Activation) (setting : Setting) (index : Nat)
    (fault : Fault) (h : setting.location index = .error fault) :
    (a.argument setting index).result = .error fault := by
  rw [result_argument, h]
  rfl

theorem result_argument_of_read (a : Activation) (setting : Setting) (index : Nat)
    (result : Except Fault Value) (h : setting.ArgumentRead a.machine index result) :
    (a.argument setting index).result = result := by
  cases h with
  | unresolved hconvention =>
      have hlocation := setting.location_of_unplaced index (by rw [hconvention]; rfl)
      rw [hconvention] at hlocation
      exact a.result_argument_of_error setting index _ hlocation
  | unplaced convention hconvention hplacement =>
      have hlocation := setting.location_of_unplaced index (by rw [hconvention]; exact hplacement)
      rw [hconvention] at hlocation
      exact a.result_argument_of_error setting index _ hlocation
  | register placement hplaces hindex =>
      have hlocation := setting.location_of_placement placement index _
        ((setting.placement_eq_ok_iff_places placement).mpr hplaces)
        (Placement.location_of_lt hindex)
      exact a.result_argument_of_location setting index _ hlocation
  | nowhere placement hplaces _ hlocation =>
      exact a.result_argument_of_error setting index _
        (setting.location_of_nowhere placement index hplaces hlocation)
  | slot placement hplaces _ offset hoffset result hread =>
      have hlocation := setting.location_of_placement placement index _
        ((setting.placement_eq_ok_iff_places placement).mpr hplaces) hoffset
      rw [a.result_argument_of_location setting index _ hlocation,
        ← a.machine.readStack_of_slotRead offset result hread]
      rfl

/-- The rules for arguments give the answer of the read and no other. -/
theorem result_argument_eq_iff (a : Activation) (setting : Setting) (index : Nat)
    (result : Except Fault Value) :
    (a.argument setting index).result = result ↔
      setting.ArgumentRead a.machine index result := by
  constructor
  · rintro rfl
    rcases setting.exists_argumentRead a.machine index with ⟨result, h⟩
    rw [a.result_argument_of_read setting index result h]
    exact h
  · exact a.result_argument_of_read setting index result

/-- Reading an argument comes to what the rules say and to nothing else. It
    leaves everything but the journal as it was, and it looks at no more of the
    machine than the location asks for: one register, or the stack pointer and
    one slot. A call whose convention places no arguments is told the convention
    it has. -/
theorem argument_outcome (setting : Setting) (index : Nat) :
    (∀ (a : Activation) (result : Except Fault Value),
      (a.argument setting index).result = result ↔
        setting.ArgumentRead a.machine index result) ∧
      (∀ a : Activation, a.Extends (a.argument setting index).state) ∧
      (∀ a b : Activation,
        (∀ location, setting.location index = .ok location →
          a.machine.AgreeAt b.machine location) →
        (a.argument setting index).result = (b.argument setting index).result) ∧
      (Fault.unsupportedArguments setting.invocation.convention
          setting.invocation.architecture).message =
        "unsupported calling convention " ++
          setting.invocation.convention.elim "<unresolved>" CallingConvention.identifier ++
            " for arguments on " ++ setting.invocation.architecture.name := by
  refine ⟨?_, ?_, ?_, Fault.message_unsupportedArguments _ _⟩
  · exact fun a result => a.result_argument_eq_iff setting index result
  · exact fun a => a.argument_extends setting index
  · -- The location is a question to the setting, so it is the same for both.
    intro a b hagree
    cases hlocation : setting.location index with
    | error fault =>
        rw [a.result_argument_of_error setting index fault hlocation,
          b.result_argument_of_error setting index fault hlocation]
    | ok location =>
        rw [a.result_argument_of_location setting index location hlocation,
          b.result_argument_of_location setting index location hlocation,
          a.machine.readLocation_congr b.machine location (hagree location hlocation)]

/-- The first stack argument of a call whose stack pointer is at the last slot
    there is. Its address would be the first that is no word, and what is stored
    at address zero, where it would wrap around to, does not matter. -/
theorem argument_outcome_lastSlot :
    let setting : Setting := ⟨.builtin, Registry.builtin.invocation .amd64 none none⟩
    let machine : Machine := .withStackPointer .amd64 0xfffffffffffffff8
    ((start machine .zero).argument setting 6).result =
        .error (.access (.invalidArguments (.offsetOverflow (-8) 0xfffffffffffffff8))) ∧
      ((start (machine.store 0 (.constant 1 64)) .zero).argument setting 6).result =
        ((start machine .zero).argument setting 6).result := by
  intro setting machine
  have hsp : machine.readStackPointer = .ok 0xfffffffffffffff8 :=
    Machine.readStackPointer_setStackPointer (.new .amd64) 0xfffffffffffffff8
  rcases argument_outcome setting 6 with ⟨hresult, _, hagree, _⟩
  refine ⟨(hresult (start machine .zero) _).mpr ?_, (hagree _ _ ?_).symm⟩
  · exact .slot _ ⟨.systemV, rfl, rfl⟩ (by decide) (-8) rfl _
      (.outside _ ((machine.readStackPointer_eq_iff _).mp hsp) (.inr (.inr (by decide))))
  · intro location hlocation
    obtain rfl : Location.stack (-8) = location := Except.ok.inj hlocation
    refine ⟨rfl, rfl, ?_⟩
    intro sp address hread haddress
    obtain rfl : 0xfffffffffffffff8 = sp := Except.ok.inj (hsp.symm.trans hread)
    have hlt := address.toNat_lt
    have hbeyond : ((0xfffffffffffffff8 : Word).toNat : Int) - (-8 : Offset).toInt = 2 ^ 64 := by
      decide
    omega

end Activation

end CallSummary
