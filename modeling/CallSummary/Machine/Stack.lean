import CallSummary.Machine.Basic

/-!
# The Stack

The stack grows down. Its slots are as wide as a pointer and are reached in two
ways. By offset: the slot of offset `o` is at the stack pointer minus `o`, so
what was pushed earlier is at negative offsets. And by pushing and popping,
which move the stack pointer by the size of a pointer. A pop leaves the slot it
has read as it was.

Addresses are computed exactly. One that is no 64-bit word is refused, and so is
the one offset that has no negative.

## Main definitions

* `Machine.readStackPointer`: The address in the stack pointer.
* `Machine.stackAddress`: The address of the slot at an offset.
* `Machine.readStack`, `Machine.writeStack`: Access by offset.
* `Machine.push`, `Machine.pop`: Access at the stack pointer.

## Theorems

* `Machine.stackAddress_eq_ok_iff`: The address of an offset, exactly.
* `Machine.getElem?_stack_store`: What the stack holds after a slot is stored.
-/

namespace CallSummary

namespace Machine

/-- The address in the stack pointer, which has to be known. -/
def readStackPointer (machine : Machine) : Except AccessError Word := do
  let value ← machine.readRegister machine.architecture.stackPointer
  match value with
  | .concrete address _ => .ok address
  | .symbol .. => .error (.symbolicStackPointer value)

/-- The address that is `offset` below the given one, if both the negative of
    the offset and the address fit. -/
def below? (address : Word) (offset : Offset) : Option Word := do
  let distance ← Offset.ofInt? (-offset.toInt)
  Word.ofInt? (address.toNat + distance.toInt)

/-- The address of the slot at the stack pointer minus the offset. -/
def stackAddress (machine : Machine) (offset : Offset) : Except AccessError Word := do
  let sp ← machine.readStackPointer
  match below? sp offset with
  | some address => .ok address
  | none => .error (.invalidArguments (.offsetOverflow offset sp))

/-- The value of the slot at the stack pointer minus the offset. -/
def readStack (machine : Machine) (offset : Offset) : Except AccessError Value := do
  let address ← machine.stackAddress offset
  match machine.stack[address]? with
  | some value => .ok value
  | none => .error (.undefinedStack address)

/-- The machine in which the slot at an address holds the value. -/
def store (machine : Machine) (address : Word) (value : Value) : Machine :=
  { machine with stack := machine.stack.insert address value }

/-- The refusal of a value that is not as wide as a stack slot. -/
def slotMismatch (machine : Machine) (value : Value) : AccessError :=
  .invalidArguments (.slotWidth machine.architecture.bits value.bits)

/-- Write the slot at the stack pointer minus the offset. -/
def writeStack (machine : Machine) (offset : Offset) (value : Value) :
    Outcome Machine AccessError Unit :=
  if value.bits = machine.architecture.bits then
    match machine.stackAddress offset with
    | .ok address => .done () (machine.store address value)
    | .error e => .failed e machine
  else .failed (machine.slotMismatch value) machine

/-- Move the stack pointer down by a pointer and write the value where it then
    points. -/
def push (machine : Machine) (value : Value) : Outcome Machine AccessError Unit :=
  if value.bits = machine.architecture.bits then
    match machine.readStackPointer with
    | .error e => .failed e machine
    | .ok sp =>
      match Word.ofInt? (sp.toNat - machine.architecture.pointerSize) with
      | none => .failed (.invalidArguments (.pushOverflow sp)) machine
      | some lower => .done () ((machine.store lower value).setStackPointer lower)
  else .failed (machine.slotMismatch value) machine

/-- Read the slot where the stack pointer points and move the stack pointer up
    by a pointer. -/
def pop (machine : Machine) : Outcome Machine AccessError Value :=
  match machine.readStackPointer with
  | .error e => .failed e machine
  | .ok sp =>
    match machine.stack[sp]? with
    | none => .failed (.undefinedStack sp) machine
    | some value =>
      -- The address has to fit a word; only the register that takes it cuts it
      -- to a pointer.
      match Word.ofInt? (sp.toNat + machine.architecture.pointerSize) with
      | none => .failed (.invalidArguments (.popOverflow sp)) machine
      | some upper => .done value (machine.setStackPointer upper)

theorem below?_eq_some_iff {address below : Word} {offset : Offset} :
    below? address offset = some below ↔
      (below.toNat : Int) = address.toNat - offset.toInt ∧ offset.toInt ≠ -0x8000000000000000 := by
  have hlo := offset.le_toInt
  have hhi := offset.toInt_lt
  unfold below?
  cases h : Offset.ofInt? (-offset.toInt) with
  | none =>
    rw [Offset.ofInt?_eq_none_iff] at h
    simp only [Option.bind_eq_bind, Option.bind_none, reduceCtorEq, false_iff, not_and,
      Decidable.not_not]
    intro _
    omega
  | some distance =>
    rw [Offset.ofInt?_eq_some_iff] at h
    have hdistance := distance.toInt_lt
    simp only [Option.bind_eq_bind, Option.bind_some, Word.ofInt?_eq_some_iff]
    constructor
    · intro hbelow
      constructor <;> omega
    · rintro ⟨hbelow, -⟩
      omega

theorem stackAddress_eq_ok_iff {machine : Machine} {offset : Offset} {address : Word} :
    machine.stackAddress offset = .ok address ↔
      ∃ sp, machine.readStackPointer = .ok sp ∧
        (address.toNat : Int) = sp.toNat - offset.toInt ∧ offset.toInt ≠ -0x8000000000000000 := by
  unfold stackAddress
  cases h : machine.readStackPointer with
  | error e =>
    simp only [reduceCtorEq, false_and, exists_false, iff_false]
    nofun
  | ok sp =>
    simp only [Except.ok.injEq, exists_eq_left', ← below?_eq_some_iff]
    change (match below? sp offset with
      | some address => Except.ok address
      | none => Except.error (AccessError.invalidArguments (.offsetOverflow offset sp))) =
        .ok address ↔ _
    cases below? sp offset <;> simp

theorem getElem?_stack_store (machine : Machine) (address other : Word) (value : Value) :
    (machine.store address value).stack[other]? =
      if address = other then some value else machine.stack[other]? := by
  simp [store, Std.ExtTreeMap.getElem?_insert]

@[simp] theorem architecture_store (machine : Machine) (address : Word) (value : Value) :
    (machine.store address value).architecture = machine.architecture := rfl

@[simp] theorem registers_store (machine : Machine) (address : Word) (value : Value) :
    (machine.store address value).registers = machine.registers := rfl

end Machine

end CallSummary
