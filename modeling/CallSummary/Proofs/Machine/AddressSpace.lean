import CallSummary.Machine.Sample
import CallSummary.Proofs.Machine.Reachable

/-!
# The Address Space of a Stack

Whether every slot of a stack is where a pointer can lead.

Slots are kept under words, and a pointer of the architecture may be narrower
than a word. A machine is `Addressable` if no slot is past the end of what a
pointer can hold. What is expected is that every machine in use is, because a
write past the end is refused.

The refusal is decided with words. An address that is no word is refused, and
so is the offset that has no negative. With 64-bit pointers that is the end of
the address space. With 32-bit pointers there is a gap above it: an address of
more than 32 bits is still a word, and a write that aims there goes through.
`Escapes` is the exact condition on a machine and an access.

A slot is never taken away, so a machine that has left its address space does
not come back. That makes the condition exact for a whole run: the step lemma
`addressable_leave_iff` is an equivalence, and `addressable_afterAll_iff`
collects it along the accesses. Where all values fit their widths, as in every
reachable machine, the stack pointer itself is inside the space, and only a
write by offset can lead out of it.

## Main definitions

* `Machine.Addressable`: Every slot is below two to the width of a pointer.
* `Machine.Origin`: The machines that runs start from.
* `Access`, `Access.leave`, `Machine.afterAll`: Accesses that change a
  machine, and what one or a row of them leaves.
* `Access.Escapes`: The access writes a slot past the end of the space.

## Theorems

* `addressable_store`: A slot inside the space keeps a machine addressable.
* `exists_push_of_escapes`, `exists_writeStack_of_escapes`,
  `not_escapes_of_failed`: What escapes is not refused.
* `addressable_leave_iff`, `addressable_afterAll_iff`: One access and a row of
  them.
* `addressable_origin`: Runs start from addressable machines.
* `not_escapes_push`: Pushes of a reachable machine stay inside.
* `writeStack_refused_iff`: A write that aims outside is refused unless it
  escapes.
* `addressable_run_iff`: When a run stays inside the address space.
* `addressable_fails_above`: A run that leaves it.
-/

namespace CallSummary

/-- An access that changes a machine. -/
inductive Access where
  | writeRegister (register : Register) (value : Value)
  | writeStack (offset : Offset) (value : Value)
  | push (value : Value)
  | pop

/-- The machine that the access leaves, be it done or refused. -/
def Access.leave (machine : Machine) : Access → Machine
  | .writeRegister register value => (machine.writeRegister register value).state
  | .writeStack offset value => (machine.writeStack offset value).state
  | .push value => (machine.push value).state
  | .pop => machine.pop.state

/-- The access writes a slot whose address is a word, and is past the end of
    what a pointer can hold. -/
def Access.Escapes (machine : Machine) : Access → Prop
  | .writeStack offset value =>
    value.bits = machine.architecture.bits ∧ offset.toInt ≠ -2 ^ 63 ∧
      ∃ sp, machine.readStackPointer = .ok sp ∧
        (2 : Int) ^ machine.architecture.bits ≤ sp.toNat - offset.toInt ∧
        sp.toNat - offset.toInt < 2 ^ 64
  | .push value =>
    value.bits = machine.architecture.bits ∧
      ∃ sp, machine.readStackPointer = .ok sp ∧
        2 ^ machine.architecture.bits + machine.architecture.pointerSize ≤ sp.toNat
  | .writeRegister _ _ => False
  | .pop => False

namespace Machine

/-- Every slot is at an address that a pointer of the architecture can hold. -/
def Addressable (machine : Machine) : Prop :=
  ∀ (address : Word) (value : Value), machine.stack[address]? = some value →
    address.toNat < 2 ^ machine.architecture.bits

/-- The machines that runs start from. -/
inductive Origin where
  | new
  | withStackPointer (address : Word)
  | sample
  | sampleCall

/-- The machine that a run starts from on the architecture. -/
def Origin.machine (arch : Architecture) : Origin → Machine
  | .new => Machine.new arch
  | .withStackPointer address => Machine.withStackPointer arch address
  | .sample => Machine.sample arch
  | .sampleCall => Machine.sampleCall arch

/-- The machine that a row of accesses leaves. -/
def afterAll (machine : Machine) : List Access → Machine
  | [] => machine
  | access :: rest => (access.leave machine).afterAll rest

-- Registers have no part in it.
theorem addressable_congr (machine other : Machine) (hstack : machine.stack = other.stack)
    (harch : machine.architecture = other.architecture) :
    machine.Addressable ↔ other.Addressable := by
  unfold Addressable
  rw [hstack, harch]

theorem addressable_store (machine : Machine) (address : Word) (value : Value) :
    (machine.store address value).Addressable ↔
      machine.Addressable ∧ address.toNat < 2 ^ machine.architecture.bits := by
  constructor
  · intro h
    have hstored : address.toNat < 2 ^ machine.architecture.bits := by
      refine h address value ?_
      rw [getElem?_stack_store, if_pos rfl]
    refine ⟨?_, hstored⟩
    intro other held hheld
    by_cases hother : address = other
    · rw [← hother]
      exact hstored
    · refine h other held ?_
      rw [getElem?_stack_store, if_neg hother]
      exact hheld
  · rintro ⟨h, hstored⟩ other held hheld
    rw [getElem?_stack_store] at hheld
    by_cases hother : address = other
    · rw [← hother]
      exact hstored
    · rw [if_neg hother] at hheld
      exact h other held hheld

/-- Nothing stops a push whose new stack pointer is a word. -/
theorem exists_push_of_escapes (machine : Machine) (value : Value)
    (h : (Access.push value).Escapes machine) : ∃ after, machine.push value = .done () after := by
  rcases h with ⟨hbits, sp, hsp, hwide⟩
  have hword := sp.toNat_lt
  have hpos : 0 < 2 ^ machine.architecture.bits := Nat.pow_pos (by decide)
  rcases Word.exists_toNat_eq (sp.toNat - machine.architecture.pointerSize) (by omega) with
    ⟨lower, hlower⟩
  exact ⟨_, (push_eq_done_iff machine _ value).mpr ⟨hbits, sp, lower, hsp, by omega, rfl⟩⟩

/-- Nothing stops a write by offset whose address is a word. -/
theorem exists_writeStack_of_escapes (machine : Machine) (offset : Offset) (value : Value)
    (h : (Access.writeStack offset value).Escapes machine) :
    ∃ after, machine.writeStack offset value = .done () after := by
  rcases h with ⟨hbits, hmin, sp, hsp, hwide, hword⟩
  have hpos : (0 : Int) < 2 ^ machine.architecture.bits := Int.pow_pos (by decide)
  rcases Word.exists_toNat_eq (sp.toNat - offset.toInt).toNat (by omega) with ⟨address, hexact⟩
  have haddress : machine.stackAddress offset = .ok address :=
    stackAddress_eq_ok_iff.mpr ⟨sp, hsp, by omega, hmin⟩
  exact ⟨_, (writeStack_eq_done_iff machine _ offset value).mpr ⟨hbits, address, haddress, rfl⟩⟩

-- What escapes is done, so a write that has failed does not escape.
theorem not_escapes_of_failed (machine : Machine) (offset : Offset) (value : Value)
    (cause : AccessError) (h : machine.writeStack offset value = .failed cause machine) :
    ¬ (Access.writeStack offset value).Escapes machine := by
  intro hescapes
  rcases exists_writeStack_of_escapes machine offset value hescapes with ⟨after, hdone⟩
  rw [h, Outcome.failed_ne_done] at hdone
  exact hdone

/-- An access keeps a machine addressable unless it escapes, and nothing makes
    a machine addressable that was not. -/
theorem addressable_leave_iff (machine : Machine) (access : Access) :
    (access.leave machine).Addressable ↔ machine.Addressable ∧ ¬ access.Escapes machine := by
  have hsame : ∀ after : Machine, after.stack = machine.stack →
      after.architecture = machine.architecture →
      (after.Addressable ↔ machine.Addressable ∧ ¬ False) := by
    intro after hstack harch
    rw [not_false_eq_true, and_true]
    exact addressable_congr after machine hstack harch
  cases access with
  | writeRegister register value =>
      refine hsame _ ?_ (architecture_writeRegister machine register value)
      simp only [Access.leave, writeRegister_state]
      by_cases hbits : value.bits = register.bits
      · rw [if_pos hbits, stack_assign]
      · rw [if_neg hbits]
  | pop =>
      refine hsame _ ?_ (architecture_pop machine)
      rcases machine.pop_cases with ⟨cause, hfailed⟩ | ⟨value, sp, upper, _, _, _, hdone⟩
      · simp only [Access.leave, hfailed, Outcome.state_failed]
      · simp only [Access.leave, hdone, Outcome.state_done, stack_setStackPointer]
  | push value =>
      rcases machine.push_cases value with
        ⟨cause, hfailed⟩ | ⟨hbits, sp, lower, hsp, hroom, hdone⟩
      · -- What escapes is done, so a push that has failed does not escape.
        have hinside : ¬ (Access.push value).Escapes machine := by
          intro hescapes
          rcases exists_push_of_escapes machine value hescapes with ⟨after, hdone⟩
          rw [hfailed, Outcome.failed_ne_done] at hdone
          exact hdone
        simp only [Access.leave, hfailed, Outcome.state_failed, hinside, not_false_eq_true,
          and_true]
      · have hescapes : (Access.push value).Escapes machine ↔
            ¬ lower.toNat < 2 ^ machine.architecture.bits := by
          simp only [Access.Escapes, hbits, hsp, Except.ok.injEq, exists_eq_left', true_and]
          omega
        have hstore := addressable_store machine lower value
        rw [hescapes, Decidable.not_not, ← hstore]
        simp only [Access.leave, hdone, Outcome.state_done]
        exact addressable_congr _ _ rfl rfl
  | writeStack offset value =>
      rcases machine.writeStack_cases offset value with
        ⟨cause, hfailed⟩ | ⟨hbits, address, haddress, hdone⟩
      · have hinside := not_escapes_of_failed machine offset value cause hfailed
        simp only [Access.leave, hfailed, Outcome.state_failed, hinside, not_false_eq_true,
          and_true]
      · rcases stackAddress_eq_ok_iff.mp haddress with ⟨sp, hsp, hexact, hmin⟩
        have hword := address.toNat_lt
        have hescapes : (Access.writeStack offset value).Escapes machine ↔
            ¬ address.toNat < 2 ^ machine.architecture.bits := by
          have hcast : ((2 ^ machine.architecture.bits : Nat) : Int) =
              2 ^ machine.architecture.bits := Int.natCast_pow 2 _
          simp only [Access.Escapes, hbits, hsp, Except.ok.injEq, exists_eq_left', true_and, ne_eq,
            ← hcast]
          omega
        rw [hescapes, Decidable.not_not, ← addressable_store machine address value]
        simp only [Access.leave, hdone, Outcome.state_done]

/-- A row of accesses keeps a machine addressable exactly if none of them
    escapes, by induction on the row. -/
theorem addressable_afterAll_iff (accesses : List Access) :
    ∀ machine : Machine, (machine.afterAll accesses).Addressable ↔
      machine.Addressable ∧ ∀ before access after, accesses = before ++ access :: after →
        ¬ access.Escapes (machine.afterAll before) := by
  induction accesses with
  | nil =>
      intro machine
      simp [afterAll]
  | cons first rest ih =>
      intro machine
      simp only [afterAll]
      rw [ih, addressable_leave_iff]
      constructor
      · rintro ⟨⟨h, hfirst⟩, hrest⟩
        refine ⟨h, ?_⟩
        intro before access after hsplit
        -- The access is the first one, or it is one of the rest.
        cases before with
        | nil =>
            rw [List.nil_append, List.cons.injEq] at hsplit
            rw [← hsplit.1]
            exact hfirst
        | cons other before =>
            rw [List.cons_append, List.cons.injEq] at hsplit
            rw [← hsplit.1]
            exact hrest before access after hsplit.2
      · rintro ⟨h, hall⟩
        refine ⟨⟨h, hall [] first rest rfl⟩, ?_⟩
        intro before access after hsplit
        exact hall (first :: before) access after (by rw [hsplit, List.cons_append])

-- The samples have finitely many slots, and the new machines have none.
theorem addressable_origin (arch : Architecture) (origin : Origin) :
    (origin.machine arch).Addressable := by
  have hkeys : ∀ machine : Machine, machine.architecture.bits = arch.bits →
      (machine.stack.keys.all fun address => address.toNat < 2 ^ arch.bits) = true →
      machine.Addressable := by
    intro machine hbits hall address value hslot
    have hmem : address ∈ machine.stack.keys := by
      rw [Std.ExtTreeMap.mem_keys, Std.ExtTreeMap.mem_iff_isSome_getElem?, hslot]
      rfl
    rw [hbits]
    exact of_decide_eq_true (List.all_eq_true.mp hall address hmem)
  cases origin with
  | new => exact hkeys _ rfl rfl
  | withStackPointer address => exact hkeys _ rfl rfl
  | sample =>
      refine hkeys _ ?_ ?_
      · cases arch <;> decide +kernel
      · cases arch <;> decide +kernel
  | sampleCall =>
      refine hkeys _ ?_ ?_
      · cases arch <;> decide +kernel
      · cases arch <;> decide +kernel

/-- The gap is between two widths, so only 32-bit pointers have one. -/
theorem bits_of_escapes (machine : Machine) (access : Access) (h : access.Escapes machine) :
    machine.architecture.bits = 32 := by
  rcases machine.architecture.pointerSize_cases with ⟨_, hbits⟩ | ⟨_, hbits⟩
  · exact hbits
  · -- With 64 bits an address past the end would be no word.
    cases access with
    | writeRegister register value => exact h.elim
    | pop => exact h.elim
    | push value =>
        rcases h with ⟨_, sp, _, hwide⟩
        have hword := sp.toNat_lt
        rw [hbits] at hwide
        omega
    | writeStack offset value =>
        rcases h with ⟨_, _, sp, _, hwide, hword⟩
        rw [hbits] at hwide
        omega

/-- The stack pointer of a reachable machine is inside the space, and a push
    goes down from there. -/
theorem not_escapes_push (machine : Machine) (value : Value) (h : machine.Reachable) :
    ¬ (Access.push value).Escapes machine := by
  rintro ⟨_, sp, hsp, hwide⟩
  have hlt := readStackPointer_lt machine sp (reachable_wellFormed machine h) hsp
  omega

/-- A write that aims outside of the space is refused, unless it escapes. -/
theorem writeStack_refused_iff (machine : Machine) (offset : Offset) (value : Value) (sp : Word)
    (hsp : machine.readStackPointer = .ok sp)
    (haim : sp.toNat - offset.toInt < 0 ∨
      (2 : Int) ^ machine.architecture.bits ≤ sp.toNat - offset.toInt) :
    (∃ cause, machine.writeStack offset value = .failed cause machine) ↔
      ¬ (Access.writeStack offset value).Escapes machine := by
  constructor
  · rintro ⟨cause, hfailed⟩
    exact not_escapes_of_failed machine offset value cause hfailed
  · intro hinside
    rcases machine.writeStack_cases offset value with
      hfailed | ⟨hbits, address, haddress, _⟩
    · exact hfailed
    · -- An address that was formed is a word, so outside the space it is in the gap.
      rcases stackAddress_eq_ok_iff.mp haddress with ⟨other, hother, hexact, hmin⟩
      rw [hsp, Except.ok.injEq] at hother
      subst hother
      have hword := address.toNat_lt
      exact absurd ⟨hbits, hmin, sp, hsp, by omega, by omega⟩ hinside

/-- A run stays inside the address space exactly if none of its accesses
    escapes. An access that does has found 32-bit pointers, and it leads out;
    on a reachable machine it is no push, and it is a write that aims outside
    without being refused. -/
theorem addressable_run_iff (arch : Architecture) (origin : Origin) (accesses : List Access) :
    (((origin.machine arch).afterAll accesses).Addressable ↔
        ∀ before access after, accesses = before ++ access :: after →
          ¬ access.Escapes ((origin.machine arch).afterAll before)) ∧
      (∀ (machine : Machine) (access : Access), access.Escapes machine →
        machine.architecture.bits = 32 ∧ ¬ (access.leave machine).Addressable) ∧
      (∀ (machine : Machine) (value : Value), machine.Reachable →
        ¬ (Access.push value).Escapes machine) ∧
      ∀ (machine : Machine) (offset : Offset) (value : Value) (sp : Word),
        machine.readStackPointer = .ok sp →
        (sp.toNat - offset.toInt < 0 ∨
          (2 : Int) ^ machine.architecture.bits ≤ sp.toNat - offset.toInt) →
        ((∃ cause, machine.writeStack offset value = .failed cause machine) ↔
          ¬ (Access.writeStack offset value).Escapes machine) := by
  refine ⟨?_, ?_, not_escapes_push, writeStack_refused_iff⟩
  · have horigin := addressable_origin arch origin
    rw [addressable_afterAll_iff]
    simp only [horigin, true_and]
  · intro machine access hescapes
    refine ⟨bits_of_escapes machine access hescapes, ?_⟩
    rw [addressable_leave_iff]
    exact fun h => h.2 hescapes

/-- A slot one pointer above the last one a 32-bit pointer can lead to. -/
def aboveSpace : Machine :=
  ((Origin.withStackPointer 0xfffffffc).machine .x86).afterAll [.writeStack (-4) (.constant 1 32)]

/-- One write by offset leads out of the address space. -/
theorem addressable_fails_above : aboveSpace.Reachable ∧ ¬ aboveSpace.Addressable := by
  refine ⟨?_, ?_⟩
  · exact Reachable.writeStack _ (-4) _ (Reachable.withStackPointer .x86 0xfffffffc)
      (Value.fits_constant 1 32)
  · intro h
    have hinside : (0x100000000 : Word).toNat < 2 ^ 32 := h 0x100000000 (.constant 1 32) rfl
    exact absurd hinside (by decide)

end Machine

end CallSummary
