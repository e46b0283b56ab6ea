import CallSummary.Machine.Stack
import Mathlib.Algebra.Group.Int.Defs
import Mathlib.Algebra.Group.Nat.Defs

/-!
# Machine Accesses

What each access to a machine does, said once. A register is read back as it
was written and is not disturbed by a write at another offset; the stack
pointer is read as the concrete value under its offset; a push and a pop
succeed under conditions on the stack pointer alone, and move it by exactly
one step.

Everything that is proved about calls goes through these statements. None of
them mentions how an access is written down, so a later proof that has one of
them in hand does not open the access again.

The stack pointer is where the two address widths of the machine meet. An
address is computed as a word, and only the register that takes it cuts it to
the width of a pointer. `pop_eq_done_iff` therefore names the word that goes
into the register, and `readStackPointer_setStackPointer` what is read out of
it afterwards.

## Theorems

* `mapError_eq_ok_iff`, `map_eq_ok_iff`: What is behind a result that was made
  out of another.
* `state_of_atomic`: What a success keeps, an access keeps that is atomic.
* `andThen_eq_done_iff`, `andThen_eq_failed_iff`, `state_andThen`: When two
  operations in a row succeed or fail, and what they keep however they go.
* `readRegister_assign_same`, `readRegister_assign_other`: A register after a
  write.
* `writeRegister_result_ok_iff`: A write is refused for its width only.
* `readStackPointer_eq_ok_iff`: The stack pointer is a concrete value of
  pointer width.
* `readStackPointer_setStackPointer`: The stack pointer holds the low bits of
  what is written to it.
* `readStack_eq_ok_iff`: A slot is read at an exact address.
* `readStack_of_address`, `readStack_above`: A slot is found at any offset that
  leads to it.
* `push_cases`, `pop_cases`, `writeStack_cases`: The two ways each access can
  go.
* `push_eq_done_iff`, `pop_eq_done_iff`, `writeStack_eq_done_iff`: When each
  access succeeds, and what it leaves.
* `push_exact`, `pop_exact`: Where the register has room, the stack pointer
  moves by exactly one pointer.
* `writeRegister_atomic`, `push_atomic`, `pop_atomic`, `writeStack_atomic`: A
  failed access leaves the machine as it was.
* `pop_eq_failed_of_no_room`: A pop at the end of the words is refused.
* `architecture_writeRegister`, `architecture_writeStack`, `architecture_push`,
  `architecture_pop`: No access changes the architecture.
-/

namespace CallSummary

theorem Architecture.pointerSize_pos (arch : Architecture) : 0 < arch.pointerSize := by
  cases arch <;> decide

/-- The two sizes a pointer can have, with the width that goes with each. -/
theorem Architecture.pointerSize_cases (arch : Architecture) :
    (arch.pointerSize = 4 ∧ arch.bits = 32) ∨ (arch.pointerSize = 8 ∧ arch.bits = 64) := by
  cases arch <;> decide

theorem Word.exists_toNat_eq (n : Nat) (h : n < 2 ^ 64) : ∃ word : Word, word.toNat = n :=
  ⟨.ofNat n, UInt64.toNat_ofNat_of_lt' h⟩

theorem Value.toNat_lowBits_eq (bits : Nat) (word : Word) :
    (Value.lowBits bits word).toNat = word.toNat % 2 ^ bits := by
  rw [Value.toNat_lowBits, Nat.one_shiftLeft]

theorem Value.lowBits_of_lt (bits : Nat) (word : Word) (h : word.toNat < 2 ^ bits) :
    Value.lowBits bits word = word := by
  rw [← UInt64.toNat_inj, Value.toNat_lowBits_eq]
  exact Nat.mod_eq_of_lt h

/-- The constant of a word that fits has all of the word. -/
theorem Value.constant_of_lt (word : Word) (bits : Nat) (h : word.toNat < 2 ^ bits) :
    Value.constant word bits = .concrete word bits := by
  rw [Value.constant, Value.lowBits_of_lt bits word h]

namespace Outcome

variable {State Cause Answer Next : Type}

theorem mapError_eq_ok_iff {Other : Type} (f : Cause → Other) (result : Except Cause Answer)
    (answer : Answer) : result.mapError f = .ok answer ↔ result = .ok answer := by
  constructor
  · intro h
    cases result with
    | error cause => cases h
    | ok found =>
        cases h
        rfl
  · intro h
    rw [h]
    rfl

theorem map_eq_ok_iff (f : Answer → Next) (result : Except Cause Answer) (next : Next) :
    result.map f = .ok next ↔ ∃ answer, result = .ok answer ∧ f answer = next := by
  cases result with
  | error cause => simp only [Except.map, reduceCtorEq, false_and, exists_false]
  | ok answer => simp only [Except.map, Except.ok.injEq, exists_eq_left']

theorem done_eq_done_iff (answer answer' : Answer) (state state' : State) :
    (done answer state : Outcome State Cause Answer) = done answer' state' ↔
      answer = answer' ∧ state = state' := by
  simp only [done, mk.injEq, Except.ok.injEq]

theorem failed_ne_done (cause : Cause) (answer : Answer) (state state' : State) :
    (failed cause state : Outcome State Cause Answer) = done answer state' ↔ False := by
  simp only [failed, done, mk.injEq, reduceCtorEq, false_and]

/-- What holds of the state before, and of the state every success leaves,
    holds of the state an access leaves that changes nothing by failing. -/
theorem state_of_atomic (P : State → Prop) (outcome : Outcome State Cause Answer)
    (state : State) (hstate : P state)
    (hatomic : ∀ cause, outcome.result = .error cause → outcome.state = state)
    (hdone : ∀ answer after, outcome = .done answer after → P after) : P outcome.state := by
  cases outcome with
  | mk result left =>
      cases result with
      | error cause =>
          rw [hatomic cause rfl]
          exact hstate
      | ok answer => exact hdone answer left rfl

/-- An outcome is known by its answer and its state. -/
theorem eq_done_of_result (outcome : Outcome State Cause Answer) (answer : Answer)
    (h : outcome.result = .ok answer) : outcome = .done answer outcome.state := by
  cases outcome with
  | mk result state =>
      simp only at h
      rw [h]
      rfl

theorem andThen_eq_done_iff (outcome : Outcome State Cause Answer)
    (next : Answer → State → Outcome State Cause Next) (answer : Next) (after : State) :
    outcome.andThen next = .done answer after ↔
      ∃ first middle, outcome = .done first middle ∧ next first middle = .done answer after := by
  rcases outcome with ⟨cause | first, middle⟩
  · constructor
    · intro h
      exact ((failed_ne_done cause answer middle after).mp h).elim
    · rintro ⟨other, left, hdone, _⟩
      exact ((failed_ne_done cause other middle left).mp hdone).elim
  · constructor
    · intro h
      exact ⟨first, middle, rfl, h⟩
    · rintro ⟨other, left, hdone, hnext⟩
      rcases (done_eq_done_iff first other middle left).mp hdone with ⟨rfl, rfl⟩
      exact hnext

theorem andThen_eq_failed_iff (outcome : Outcome State Cause Answer)
    (next : Answer → State → Outcome State Cause Next) (cause : Cause) (after : State) :
    outcome.andThen next = .failed cause after ↔
      outcome = .failed cause after ∨
        ∃ first middle, outcome = .done first middle ∧ next first middle = .failed cause after := by
  rcases outcome with ⟨found | first, middle⟩
  · constructor
    · intro h
      cases h
      exact .inl rfl
    · rintro (h | ⟨other, left, hdone, _⟩)
      · cases h
        rfl
      · cases hdone
  · constructor
    · intro h
      exact .inr ⟨first, middle, rfl, h⟩
    · rintro (h | ⟨other, left, hdone, hnext⟩)
      · cases h
      · cases hdone
        exact hnext

/-- What holds of the state the first operation leaves, and is kept by the
    second, holds in the end, however the two go. -/
theorem state_andThen (outcome : Outcome State Cause Answer)
    (next : Answer → State → Outcome State Cause Next) (P : State → Prop)
    (hfirst : P outcome.state) (hnext : ∀ answer state, P state → P (next answer state).state) :
    P (outcome.andThen next).state := by
  rcases outcome with ⟨cause | answer, state⟩
  · exact hfirst
  · exact hnext answer state hfirst

theorem andThen_assoc {Last : Type} (outcome : Outcome State Cause Answer)
    (next : Answer → State → Outcome State Cause Next)
    (last : Next → State → Outcome State Cause Last) :
    (outcome.andThen next).andThen last =
      outcome.andThen fun answer state => (next answer state).andThen last := by
  rcases outcome with ⟨cause | answer, state⟩
  · rfl
  · rfl

end Outcome

namespace Machine

theorem readRegister_assign_same (machine : Machine) (register : Register) (value : Value)
    (h : value.bits = register.bits) :
    (machine.assign register.offset value).readRegister register = .ok value := by
  rw [readRegister_eq_ok_iff, getElem?_registers_assign, if_pos rfl]
  exact ⟨rfl, h⟩

theorem readRegister_assign_other (machine : Machine) (offset : Nat) (register : Register)
    (value : Value) (h : offset ≠ register.offset) :
    (machine.assign offset value).readRegister register = machine.readRegister register := by
  unfold readRegister
  rw [getElem?_registers_assign, if_neg h]

@[simp] theorem readRegister_store (machine : Machine) (address : Word) (value : Value)
    (register : Register) :
    (machine.store address value).readRegister register = machine.readRegister register := rfl

theorem writeRegister_of_bits (machine : Machine) (register : Register) (value : Value)
    (h : value.bits = register.bits) :
    machine.writeRegister register value = .done () (machine.assign register.offset value) :=
  if_pos h

theorem writeRegister_of_ne (machine : Machine) (register : Register) (value : Value)
    (h : value.bits ≠ register.bits) :
    machine.writeRegister register value =
      .failed (.invalidArguments (.registerWidth register value.bits)) machine :=
  if_neg h

theorem writeRegister_result_ok_iff (machine : Machine) (register : Register) (value : Value) :
    (machine.writeRegister register value).result = .ok () ↔ value.bits = register.bits := by
  unfold writeRegister
  split
  next h => simp only [Outcome.result_done, h]
  next h => simp only [Outcome.result_failed, reduceCtorEq, h]

theorem writeRegister_atomic (machine : Machine) (register : Register) (value : Value)
    (cause : AccessError) (h : (machine.writeRegister register value).result = .error cause) :
    (machine.writeRegister register value).state = machine := by
  unfold writeRegister at h ⊢
  split at h
  next => simp only [Outcome.result_done, reduceCtorEq] at h
  next hbits => simp only [if_neg hbits, Outcome.state_failed]

/-- The stack pointer can be used as an address exactly when the place under
    its offset holds a concrete value of pointer width. -/
theorem readStackPointer_eq_ok_iff (machine : Machine) (sp : Word) :
    machine.readStackPointer = .ok sp ↔
      machine.registers[machine.architecture.stackPointer.offset]? =
        some (.concrete sp machine.architecture.bits) := by
  unfold readStackPointer
  constructor
  · intro h
    cases hregister : machine.readRegister machine.architecture.stackPointer with
    | error e =>
        rw [hregister] at h
        cases h
    | ok value =>
        rw [hregister] at h
        rcases readRegister_eq_ok_iff.mp hregister with ⟨hfound, hbits⟩
        cases value with
        | concrete address bits =>
            cases h
            rw [Architecture.bits_stackPointer] at hbits
            rw [hfound, ← hbits]
            rfl
        | symbol name bits => cases h
  · intro h
    have hregister : machine.readRegister machine.architecture.stackPointer =
        .ok (.concrete sp machine.architecture.bits) :=
      readRegister_eq_ok_iff.mpr ⟨h, (Architecture.bits_stackPointer _).symm⟩
    rw [hregister]
    rfl

/-- Whatever is written to the stack pointer, its low bits are what it holds. -/
theorem readStackPointer_setStackPointer (machine : Machine) (address : Word) :
    (machine.setStackPointer address).readStackPointer =
      .ok (Value.lowBits machine.architecture.bits address) := by
  rw [readStackPointer_eq_ok_iff]
  unfold setStackPointer
  rw [architecture_assign, getElem?_registers_assign, if_pos rfl,
    Architecture.bits_stackPointer]
  rfl

theorem readStackPointer_assign_other (machine : Machine) (offset : Nat) (value : Value)
    (h : offset ≠ machine.architecture.stackPointer.offset) :
    (machine.assign offset value).readStackPointer = machine.readStackPointer := by
  unfold readStackPointer
  rw [architecture_assign, readRegister_assign_other machine offset _ value h]

@[simp] theorem readStackPointer_store (machine : Machine) (address : Word) (value : Value) :
    (machine.store address value).readStackPointer = machine.readStackPointer := rfl

theorem readStack_eq_ok_iff (machine : Machine) (offset : Offset) (value : Value) :
    machine.readStack offset = .ok value ↔
      ∃ address, machine.stackAddress offset = .ok address ∧
        machine.stack[address]? = some value := by
  unfold readStack
  constructor
  · intro h
    cases haddress : machine.stackAddress offset with
    | error e =>
        rw [haddress] at h
        cases h
    | ok address =>
        rw [haddress] at h
        cases hslot : machine.stack[address]? with
        | none => simp only [bind, Except.bind, hslot, reduceCtorEq] at h
        | some found =>
            simp only [bind, Except.bind, hslot, Except.ok.injEq] at h
            exact ⟨address, rfl, by rw [hslot, h]⟩
  · rintro ⟨address, haddress, hslot⟩
    rw [haddress]
    simp only [bind, Except.bind, hslot]

/-- A slot is found through every offset that leads to its address. -/
theorem readStack_of_address (machine : Machine) (sp address : Word) (offset : Offset)
    (value : Value) (hsp : machine.readStackPointer = .ok sp)
    (hoffset : (address.toNat : Int) = sp.toNat - offset.toInt) (hmin : offset.toInt ≠ -2 ^ 63)
    (hslot : machine.stack[address]? = some value) : machine.readStack offset = .ok value := by
  rw [readStack_eq_ok_iff]
  exact ⟨address, stackAddress_eq_ok_iff.mpr ⟨sp, hsp, hoffset, hmin⟩, hslot⟩

/-- A negative offset leads up. The slot is found as long as its address is a
    word. -/
theorem readStack_above (machine : Machine) (sp : Word) (distance : Nat) (offset : Offset)
    (value : Value) (hsp : machine.readStackPointer = .ok sp)
    (hoffset : offset.toInt = -(distance : Int)) (hdistance : distance < 2 ^ 63)
    (hword : sp.toNat + distance < 2 ^ 64)
    (hslot : ∀ address : Word, address.toNat = sp.toNat + distance →
      machine.stack[address]? = some value) : machine.readStack offset = .ok value := by
  have haddress : (UInt64.ofNat (sp.toNat + distance)).toNat = sp.toNat + distance :=
    UInt64.toNat_ofNat_of_lt' hword
  refine readStack_of_address machine sp _ offset value hsp ?_ (by omega) (hslot _ haddress)
  omega

/-- A push fails and changes nothing, or it writes the slot just below the
    stack pointer and moves there. -/
theorem push_cases (machine : Machine) (value : Value) :
    (∃ cause, machine.push value = .failed cause machine) ∨
      value.bits = machine.architecture.bits ∧
        ∃ sp lower, machine.readStackPointer = .ok sp ∧
          lower.toNat + machine.architecture.pointerSize = sp.toNat ∧
          machine.push value = .done () ((machine.store lower value).setStackPointer lower) := by
  unfold push
  by_cases hbits : value.bits = machine.architecture.bits
  · rw [if_pos hbits]
    cases hsp : machine.readStackPointer with
    | error cause => exact .inl ⟨cause, rfl⟩
    | ok sp =>
        cases hlower : Word.ofInt? (sp.toNat - machine.architecture.pointerSize) with
        | none => exact .inl ⟨.invalidArguments (.pushOverflow sp), by simp only [hlower]⟩
        | some lower =>
            have hexact := Word.ofInt?_eq_some_iff.mp hlower
            exact .inr ⟨hbits, sp, lower, rfl, by omega, by simp only [hlower]⟩
  · exact .inl ⟨_, if_neg hbits⟩

/-- A push needs a value of pointer width and room below the stack pointer,
    and nothing else. -/
theorem push_eq_done_iff (machine after : Machine) (value : Value) :
    machine.push value = .done () after ↔
      value.bits = machine.architecture.bits ∧
        ∃ sp lower, machine.readStackPointer = .ok sp ∧
          lower.toNat + machine.architecture.pointerSize = sp.toNat ∧
          after = (machine.store lower value).setStackPointer lower := by
  constructor
  · intro h
    rcases machine.push_cases value with
      ⟨cause, hfailed⟩ | ⟨hbits, sp, lower, hsp, hroom, hdone⟩
    · rw [hfailed, Outcome.failed_ne_done] at h
      exact h.elim
    · rw [hdone, Outcome.done_eq_done_iff] at h
      exact ⟨hbits, sp, lower, hsp, hroom, h.2.symm⟩
  · -- The failures are excluded one by one, so this way round opens the push again.
    rintro ⟨hbits, sp, lower, hsp, hroom, rfl⟩
    have hlower : Word.ofInt? (sp.toNat - machine.architecture.pointerSize) = some lower :=
      Word.ofInt?_eq_some_iff.mpr (by omega)
    unfold push
    simp only [if_pos hbits, hsp, hlower]

theorem push_atomic (machine : Machine) (value : Value) (cause : AccessError)
    (h : (machine.push value).result = .error cause) : (machine.push value).state = machine := by
  rcases machine.push_cases value with ⟨found, hfailed⟩ | ⟨_, sp, lower, _, _, hdone⟩
  · rw [hfailed, Outcome.state_failed]
  · rw [hdone] at h
    cases h

/-- A pop fails and changes nothing, or it reads the slot at the stack pointer
    and moves past it. -/
theorem pop_cases (machine : Machine) :
    (∃ cause, machine.pop = .failed cause machine) ∨
      ∃ value sp upper, machine.readStackPointer = .ok sp ∧ machine.stack[sp]? = some value ∧
        upper.toNat = sp.toNat + machine.architecture.pointerSize ∧
        machine.pop = .done value (machine.setStackPointer upper) := by
  unfold pop
  cases hsp : machine.readStackPointer with
  | error cause => exact .inl ⟨cause, rfl⟩
  | ok sp =>
      cases hslot : machine.stack[sp]? with
      | none => exact .inl ⟨.undefinedStack sp, by simp only [hslot]⟩
      | some value =>
          cases hupper : Word.ofInt? (sp.toNat + machine.architecture.pointerSize) with
          | none =>
              exact .inl ⟨.invalidArguments (.popOverflow sp), by simp only [hslot, hupper]⟩
          | some upper =>
              have hexact := Word.ofInt?_eq_some_iff.mp hupper
              exact .inr ⟨value, sp, upper, rfl, hslot, by omega, by simp only [hslot, hupper]⟩

/-- A pop needs a defined slot at the stack pointer, and one more step of
    the pointer to be a word. -/
theorem pop_eq_done_iff (machine after : Machine) (value : Value) :
    machine.pop = .done value after ↔
      ∃ sp upper, machine.readStackPointer = .ok sp ∧ machine.stack[sp]? = some value ∧
        upper.toNat = sp.toNat + machine.architecture.pointerSize ∧
        after = machine.setStackPointer upper := by
  constructor
  · intro h
    rcases machine.pop_cases with
      ⟨cause, hfailed⟩ | ⟨found, sp, upper, hsp, hslot, hroom, hdone⟩
    · rw [hfailed, Outcome.failed_ne_done] at h
      exact h.elim
    · rw [hdone, Outcome.done_eq_done_iff] at h
      rcases h with ⟨rfl, rfl⟩
      exact ⟨sp, upper, hsp, hslot, hroom, rfl⟩
  · rintro ⟨sp, upper, hsp, hslot, hroom, rfl⟩
    have hupper : Word.ofInt? (sp.toNat + machine.architecture.pointerSize) = some upper :=
      Word.ofInt?_eq_some_iff.mpr (by omega)
    unfold pop
    simp only [hsp, hslot, hupper]

/-- A stack pointer that fits its register is moved down by a push exactly. -/
theorem push_exact (machine after : Machine) (value : Value) (sp : Word)
    (hsp : machine.readStackPointer = .ok sp) (hlt : sp.toNat < 2 ^ machine.architecture.bits)
    (hpush : machine.push value = .done () after) :
    ∃ lower, lower.toNat + machine.architecture.pointerSize = sp.toNat ∧
      after = (machine.store lower value).setStackPointer lower ∧
      after.readStackPointer = .ok lower := by
  rcases (push_eq_done_iff machine after value).mp hpush with ⟨_, other, lower, hother, hroom, rfl⟩
  rw [hsp, Except.ok.injEq] at hother
  subst hother
  refine ⟨lower, hroom, rfl, ?_⟩
  rw [readStackPointer_setStackPointer, architecture_store, Value.lowBits_of_lt _ lower (by omega)]

/-- A pop moves the stack pointer up exactly, if the register has room for
    that. -/
theorem pop_exact (machine : Machine) (value : Value) (sp : Word)
    (hsp : machine.readStackPointer = .ok sp) (hslot : machine.stack[sp]? = some value)
    (hroom : sp.toNat + machine.architecture.pointerSize < 2 ^ machine.architecture.bits) :
    ∃ upper, upper.toNat = sp.toNat + machine.architecture.pointerSize ∧
      machine.pop = .done value (machine.setStackPointer upper) ∧
      (machine.setStackPointer upper).readStackPointer = .ok upper := by
  have hword : 2 ^ machine.architecture.bits ≤ 2 ^ 64 := by
    rcases machine.architecture.pointerSize_cases with ⟨_, hbits⟩ | ⟨_, hbits⟩
    · exact hbits ▸ Nat.pow_le_pow_right (by decide) (by decide)
    · exact Nat.le_of_eq (congrArg _ hbits)
  rcases Word.exists_toNat_eq (sp.toNat + machine.architecture.pointerSize) (by omega) with
    ⟨upper, hupper⟩
  refine ⟨upper, hupper, ?_, ?_⟩
  · exact (pop_eq_done_iff machine _ value).mpr ⟨sp, upper, hsp, hslot, hupper, rfl⟩
  · rw [readStackPointer_setStackPointer, Value.lowBits_of_lt _ upper (by omega)]

theorem pop_atomic (machine : Machine) (cause : AccessError)
    (h : machine.pop.result = .error cause) : machine.pop.state = machine := by
  rcases machine.pop_cases with ⟨found, hfailed⟩ | ⟨value, sp, upper, _, _, _, hdone⟩
  · rw [hfailed, Outcome.state_failed]
  · rw [hdone] at h
    cases h

/-- At the end of the words the pop is refused, and the machine stays. -/
theorem pop_eq_failed_of_no_room (machine : Machine) (sp : Word) (value : Value)
    (hsp : machine.readStackPointer = .ok sp) (hslot : machine.stack[sp]? = some value)
    (hroom : 2 ^ 64 ≤ sp.toNat + machine.architecture.pointerSize) :
    machine.pop = .failed (.invalidArguments (.popOverflow sp)) machine := by
  have hupper : Word.ofInt? (sp.toNat + machine.architecture.pointerSize) = none :=
    Word.ofInt?_eq_none_iff.mpr (by omega)
  unfold pop
  simp only [hsp, hslot, hupper]

/-- A write by offset fails and changes nothing, or it writes the slot at the
    address. -/
theorem writeStack_cases (machine : Machine) (offset : Offset) (value : Value) :
    (∃ cause, machine.writeStack offset value = .failed cause machine) ∨
      value.bits = machine.architecture.bits ∧
        ∃ address, machine.stackAddress offset = .ok address ∧
          machine.writeStack offset value = .done () (machine.store address value) := by
  unfold writeStack
  by_cases hbits : value.bits = machine.architecture.bits
  · rw [if_pos hbits]
    cases haddress : machine.stackAddress offset with
    | error cause => exact .inl ⟨cause, rfl⟩
    | ok address => exact .inr ⟨hbits, address, rfl, rfl⟩
  · exact .inl ⟨_, if_neg hbits⟩

/-- A write by offset needs a value of pointer width and an address. -/
theorem writeStack_eq_done_iff (machine after : Machine) (offset : Offset) (value : Value) :
    machine.writeStack offset value = .done () after ↔
      value.bits = machine.architecture.bits ∧
        ∃ address, machine.stackAddress offset = .ok address ∧
          after = machine.store address value := by
  constructor
  · intro h
    rcases machine.writeStack_cases offset value with
      ⟨cause, hfailed⟩ | ⟨hbits, address, haddress, hdone⟩
    · rw [hfailed, Outcome.failed_ne_done] at h
      exact h.elim
    · rw [hdone, Outcome.done_eq_done_iff] at h
      exact ⟨hbits, address, haddress, h.2.symm⟩
  · rintro ⟨hbits, address, haddress, rfl⟩
    unfold writeStack
    simp only [if_pos hbits, haddress]

theorem writeStack_atomic (machine : Machine) (offset : Offset) (value : Value)
    (cause : AccessError) (h : (machine.writeStack offset value).result = .error cause) :
    (machine.writeStack offset value).state = machine := by
  rcases machine.writeStack_cases offset value with
    ⟨found, hfailed⟩ | ⟨_, address, _, hdone⟩
  · rw [hfailed, Outcome.state_failed]
  · rw [hdone] at h
    cases h

/-! ### No access changes the architecture -/

@[simp] theorem architecture_writeRegister (machine : Machine) (register : Register)
    (value : Value) :
    (machine.writeRegister register value).state.architecture = machine.architecture := by
  rw [writeRegister_state]
  by_cases hbits : value.bits = register.bits
  · rw [if_pos hbits, architecture_assign]
  · rw [if_neg hbits]

@[simp] theorem architecture_writeStack (machine : Machine) (offset : Offset) (value : Value) :
    (machine.writeStack offset value).state.architecture = machine.architecture := by
  refine Outcome.state_of_atomic (·.architecture = machine.architecture) _ machine rfl
    (machine.writeStack_atomic offset value) ?_
  intro _ after hdone
  rcases (writeStack_eq_done_iff machine after offset value).mp hdone with ⟨_, address, _, rfl⟩
  rfl

@[simp] theorem architecture_push (machine : Machine) (value : Value) :
    (machine.push value).state.architecture = machine.architecture := by
  refine Outcome.state_of_atomic (·.architecture = machine.architecture) _ machine rfl
    (machine.push_atomic value) ?_
  intro _ after hdone
  rcases (push_eq_done_iff machine after value).mp hdone with ⟨_, sp, lower, _, _, rfl⟩
  rfl

@[simp] theorem architecture_pop (machine : Machine) :
    machine.pop.state.architecture = machine.architecture := by
  refine Outcome.state_of_atomic (·.architecture = machine.architecture) _ machine rfl
    machine.pop_atomic ?_
  intro value after hdone
  rcases (pop_eq_done_iff machine after value).mp hdone with ⟨sp, upper, _, _, _, rfl⟩
  rfl

end Machine

end CallSummary
