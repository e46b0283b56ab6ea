import CallSummary.Proofs.Call.RoundTrip
import Mathlib.Data.Int.ConditionallyCompleteOrder
import Mathlib.Data.List.Pairwise
import Mathlib.Order.CompletePartialOrder
import Mathlib.Order.ConditionallyCompleteLattice.Basic
import Mathlib.Order.Interval.Set.Disjoint

/-!
# Separation of Arguments

No two arguments of a call share a byte, and none lies where the call keeps
what it needs.

A location stands for bytes: a register for those it takes in the register
file, an offset for a slot of pointer size at the exact address that is as far
below the stack pointer. A register and a slot have nothing in common. Two
registers of one architecture share no byte unless they are the same, which is
a fact about its layout, so of the tables it is enough to know that they name
registers of the layout, each of them once. Two slots are as far apart as
their offsets, and `exactOffset_sub` has these a whole number of strides
apart. A stride of at least a pointer therefore keeps the slots of any two
indices separate, however far out they are.

What a call keeps is the way back, the stack pointer and the instruction
pointer. A return address on the stack is in the slot at the stack pointer,
offset zero, and the arguments start above it because the placement skips that
slot.

## Main definitions

* `Register.bytes`, `Architecture.slot`: The bytes of a register and of a slot.
* `Location.Apart`: Two locations share no byte.

## Theorems

* `Architecture.disjoint_bytes`: Registers of one architecture share no byte.
* `disjoint_slot`: Slots a pointer apart share no byte.
* `location_injective`: No two indices have the same location.
* `known_skip_builtin`: What the tables name, and what they skip.
* `Agrees.apart`: Two arguments share no byte.
* `Agrees.disjoint_kept`, `Agrees.disjoint_returnSlot`: Neither do an argument
  and what the call keeps.
* `arguments_apart`: No argument shares a byte with another or with what the
  call keeps.
-/

namespace CallSummary

/-- The bytes of the register file that the register takes. -/
def Register.bytes (register : Register) : Set Nat :=
  Set.Ico register.offset (register.offset + register.size)

namespace Architecture

/-- The bytes of the stack slot at an exact address. -/
def slot (arch : Architecture) (address : Int) : Set Int :=
  Set.Ico address (address + arch.pointerSize)

/-- Every layout lists its registers upwards, one after the other. -/
theorem registers_ascending (arch : Architecture) :
    arch.registers.Pairwise fun first second => first.offset + first.size ≤ second.offset := by
  cases arch <;> decide

/-- Two registers of an architecture share no byte. -/
theorem disjoint_bytes (arch : Architecture) (first second : Register)
    (hfirst : first ∈ arch.registers) (hsecond : second ∈ arch.registers)
    (hne : first ≠ second) : Disjoint first.bytes second.bytes := by
  have hall : arch.registers.Pairwise fun first second =>
      Disjoint first.bytes second.bytes := by
    refine arch.registers_ascending.imp ?_
    intro lower upper hle
    unfold Register.bytes
    rw [Set.Ico_disjoint_Ico]
    omega
  have hsymm : Std.Symm fun first second : Register => Disjoint first.bytes second.bytes :=
    ⟨fun _ _ h => h.symm⟩
  exact hall.forall hfirst hsecond hne

/-- Slots share no byte if their offsets are at least a pointer apart. -/
theorem disjoint_slot (arch : Architecture) (base first second : Int)
    (h : arch.pointerSize ≤ (first - second).natAbs) :
    Disjoint (arch.slot (base - first)) (arch.slot (base - second)) := by
  unfold slot
  rw [Set.Ico_disjoint_Ico]
  omega

end Architecture

/-- The two locations share no byte when the stack pointer is at `sp`. The
    register file is no part of memory, so a register and a slot never do. -/
def Location.Apart (arch : Architecture) (sp : Word) : Location → Location → Prop
  | .register first, .register second => Disjoint first.bytes second.bytes
  | .stack first, .stack second =>
    Disjoint (arch.slot (sp.toNat - first.toInt)) (arch.slot (sp.toNat - second.toInt))
  | _, _ => True

namespace Placement

/-- No two indices have the same location, if the registers are different
    places and the slots are not all the same. -/
theorem location_injective (placement : Placement)
    (hregisters : (placement.registers.map Register.offset).Nodup)
    (hstride : placement.stride ≠ 0) (i j : Nat) (location : Location)
    (hi : placement.location i = some location) (hj : placement.location j = some location) :
    i = j := by
  rcases placement.location_cases i location hi with ⟨hilt, rfl⟩ | ⟨_, offset, rfl, hoffset⟩
  · rcases placement.location_cases j _ hj with ⟨hjlt, hsame⟩ | ⟨_, _, hsame, _⟩
    · rw [Location.register.injEq] at hsame
      exact (List.getElem_inj (List.Nodup.of_map _ hregisters)).mp hsame
    · cases hsame
  · rcases placement.location_cases j _ hj with ⟨_, hsame⟩ | ⟨_, other, hsame, hother⟩
    · cases hsame
    · rw [Location.stack.injEq] at hsame
      have hexact : placement.exactOffset i = placement.exactOffset j := by
        rw [← hoffset, ← hother, hsame]
      exact placement.exactOffset_injective hstride hexact

/-- The tables name registers of the architecture only, and where a call leaves
    its return address on the stack, its slot is skipped. -/
theorem known_skip_builtin (arch : Architecture) (convention : CallingConvention)
    (placement : Placement) (sequence : ReturnSequence)
    (hplacement : Registry.builtin.placement? arch convention = some placement)
    (hsequence : Registry.builtin.returnSequence? arch = some sequence) :
    (∀ register ∈ placement.registers ++ (sequence.links ++
      [arch.stackPointer, arch.instructionPointer]), register ∈ arch.registers) ∧
      sequence.slots ≤ placement.skip.toInt := by
  have hrow := Registry.of_rows_builtin
    (fun arch placement => ∀ sequence ∈ Registry.builtin.returnSequence? arch,
      (∀ register ∈ placement.registers ++ (sequence.links ++
        [arch.stackPointer, arch.instructionPointer]), register ∈ arch.registers) ∧
        (sequence.slots : Int) ≤ placement.skip.toInt) (by decide) hplacement
  exact hrow sequence hsequence

namespace Agrees

variable {placement : Placement} {arch : Architecture} {sequence : ReturnSequence}

/-- Different arguments share no byte, if the registers are registers of the
    architecture. -/
theorem apart (h : placement.Agrees arch sequence)
    (hknown : ∀ register ∈ placement.registers, register ∈ arch.registers) (sp : Word)
    (i j : Nat) (first second : Location) (hne : i ≠ j)
    (hi : placement.location i = some first) (hj : placement.location j = some second) :
    first.Apart arch sp second := by
  rcases placement.location_cases i first hi with ⟨hilt, rfl⟩ | ⟨_, offset, rfl, hoffset⟩
  · rcases placement.location_cases j second hj with ⟨hjlt, rfl⟩ | ⟨_, _, rfl, _⟩
    · refine arch.disjoint_bytes _ _ (hknown _ (List.getElem_mem hilt))
        (hknown _ (List.getElem_mem hjlt)) ?_
      exact fun hsame => hne ((List.getElem_inj (List.Nodup.of_map _ h.registers_nodup)).mp hsame)
    · trivial
  · rcases placement.location_cases j second hj with ⟨_, rfl⟩ | ⟨_, other, rfl, hother⟩
    · trivial
    · refine arch.disjoint_slot sp.toNat offset.toInt other.toInt ?_
      -- At least one stride, and a stride is a pointer.
      rw [hoffset, hother, exactOffset_sub, Int.natAbs_mul, h.stride, Int.natAbs_neg,
        Int.natAbs_natCast]
      exact Nat.le_mul_of_pos_right _ (by omega)

/-- An argument register shares no byte with a register that the call keeps. -/
theorem disjoint_kept (h : placement.Agrees arch sequence)
    (hknown : ∀ register ∈ placement.registers ++ (sequence.links ++
      [arch.stackPointer, arch.instructionPointer]), register ∈ arch.registers)
    (register kept : Register) (hregister : register ∈ placement.registers)
    (hkept : kept ∈ sequence.links ++ [arch.stackPointer, arch.instructionPointer]) :
    register ≠ kept ∧ Disjoint register.bytes kept.bytes := by
  have hne : register ≠ kept := by
    rintro rfl
    exact h.offset_not_mem register hregister (List.mem_map_of_mem hkept)
  exact ⟨hne, arch.disjoint_bytes register kept (hknown _ (List.mem_append_left _ hregister))
    (hknown _ (List.mem_append_right _ hkept)) hne⟩

/-- Where the return address is on the stack and skipped, the arguments on the
    stack are above it. -/
theorem disjoint_returnSlot (h : placement.Agrees arch .popStack)
    (hskip : 1 ≤ placement.skip.toInt) (sp : Word) (index : Nat) (offset : Offset)
    (hlocation : placement.location index = some (.stack offset)) :
    Disjoint (arch.slot (sp.toNat - offset.toInt)) (arch.slot sp.toNat) := by
  rcases placement.toInt_of_location index offset hlocation with ⟨hge, hexact⟩
  have hdistance : arch.pointerSize ≤ (offset.toInt - 0).natAbs := by
    rw [Int.sub_zero, hexact, exactOffset, Int.natAbs_mul, h.stride, Int.natAbs_neg,
      Int.natAbs_natCast]
    exact Nat.le_mul_of_pos_right _ (by omega)
  have hslot := arch.disjoint_slot sp.toNat offset.toInt 0 hdistance
  rw [Int.sub_zero] at hslot
  exact hslot

end Agrees

/-- Different arguments are in different places, if the registers are and the
    slots are not all the same. In a built-in convention they do not even share
    a byte, whatever the stack pointer, and no argument is in a register that
    the call keeps, nor in the slot of the return address. -/
theorem arguments_apart :
    (∀ placement : Placement, (placement.registers.map Register.offset).Nodup →
      placement.stride ≠ 0 → ∀ (i j : Nat) (location : Location),
        placement.location i = some location → placement.location j = some location → i = j) ∧
      ∀ (arch : Architecture) (convention : CallingConvention) (placement : Placement)
        (sequence : ReturnSequence),
        Registry.builtin.placement? arch convention = some placement →
        Registry.builtin.returnSequence? arch = some sequence →
          (∀ (sp : Word) (i j : Nat) (first second : Location), i ≠ j →
            placement.location i = some first → placement.location j = some second →
              first.Apart arch sp second) ∧
          (∀ (i : Nat) (register : Register),
            placement.location i = some (.register register) →
            ∀ kept ∈ sequence.links ++ [arch.stackPointer, arch.instructionPointer],
              register ≠ kept ∧ Disjoint register.bytes kept.bytes) ∧
          (sequence = .popStack → ∀ (sp : Word) (i : Nat) (offset : Offset),
            placement.location i = some (.stack offset) →
              Disjoint (arch.slot (sp.toNat - offset.toInt)) (arch.slot sp.toNat)) := by
  refine ⟨location_injective, ?_⟩
  intro arch convention placement sequence hplacement hsequence
  have hagrees := agrees_builtin arch convention placement sequence hplacement hsequence
  rcases known_skip_builtin arch convention placement sequence hplacement hsequence with
    ⟨hknown, hskip⟩
  refine ⟨?_, ?_, ?_⟩
  · exact hagrees.apart fun register hmem => hknown register (List.mem_append_left _ hmem)
  · intro i register hlocation kept hkept
    exact hagrees.disjoint_kept hknown register kept
      (placement.mem_of_location i register hlocation) hkept
  · rintro rfl sp i offset hlocation
    exact hagrees.disjoint_returnSlot hskip sp i offset hlocation

/-- The fourth argument in a register and the first two on the stack, of a
    system call on AMD64. -/
theorem arguments_apart_syscall :
    (Location.register Amd64.r10).Apart .amd64 0x7fff0000 (.stack (-8)) ∧
      (Location.stack (-8)).Apart .amd64 0x7fff0000 (.stack (-16)) ∧
      Amd64.r10 ≠ Amd64.rip ∧
      Disjoint (Architecture.amd64.slot (0x7fff0000 + 8)) (Architecture.amd64.slot 0x7fff0000) ∧
      ∀ j : Nat, (mk [Amd64.rdi] 1 (-8)).location j = some (.stack (-16)) → j = 2 := by
  rcases arguments_apart.2 .amd64 .syscall _ .popStack rfl rfl with ⟨hapart, hkept, hreturn⟩
  refine ⟨hapart 0x7fff0000 3 6 _ _ (by decide) rfl rfl,
    hapart 0x7fff0000 6 7 _ _ (by decide) rfl rfl,
    (hkept 3 Amd64.r10 rfl Amd64.rip (by decide)).1, hreturn rfl 0x7fff0000 6 (-8) rfl, ?_⟩
  intro j hj
  exact arguments_apart.1 (mk [Amd64.rdi] 1 (-8)) (by decide) (by decide) j 2 _ hj rfl

end Placement

end CallSummary
