import CallSummary.Convention.Builtin
import CallSummary.Proofs.Call.Services
import CallSummary.Proofs.Exploration.BlockRuns
import Mathlib.Data.List.Infix

/-!
# Last In, First Out

The stack of a machine is a stack.

A machine keeps its slots under their addresses, and a pop leaves the slot it
has read as it was. So the map fills up with slots that are no longer meant,
and a later push writes over them. What is meant is the row of slots from the
stack pointer up to where it stood at the beginning. `Machine.Stacks` says that
this row holds a list of values, the last one pushed at the stack pointer, and
that nothing above the row has changed. Nothing is said of the slots below.

A `Move` is whatever touches the stack or leaves it alone: pushes and pops, the
instructions of a block, returns, and writes to registers. All that counts of a
move is its effect on a list. `stacks_perform` is the comparison for one move
and `stacks_after` that for a row of them, by induction on their number. The
list never runs empty before a pop, because no part of the row from its start
has more pops than pushes; that half of the argument is about lists alone and
stands first.

Reachability is used once, for the stack pointer at the beginning. It fits its
register, and all the others are below it.

## Main definitions

* `StackEffect`, `StackEffect.run`: What a move does to a list of values, and
  what a row of them does.
* `StackEffect.Balanced`, `StackEffect.Closed`: No pop without a push before
  it, and no push without a pop after it either.
* `Move`, `Move.perform`, `Move.effect`: The moves.
* `Move.Orderly`: Calls and returns use the stack, and writes leave the stack
  pointer alone.
* `Machine.Stacks`: The stack of the machine holds the values.
* `Machine.Disciplined`: What is asked of a row of moves.
* `Machine.LastInFirstOut`: The moves treat the stack as a list.

## Theorems

* `length_run`, `run_closed`: The length of the list, and what a closed row does
  to it.
* `stacks_push`, `stacks_pop`, `stacks_assign`: What pushes, pops, and writes
  elsewhere do.
* `stacks_perform`, `stacks_after`: One move, and a row of them.
* `perform_pop`: What a pop finds.
* `lastInFirstOut`: Every row of disciplined moves treats the stack as a list.
-/

namespace CallSummary

/-- What a move does to a list of values. -/
inductive StackEffect where
  | push (value : Value)
  | pop
  /-- The move is elsewhere. -/
  | beside
deriving DecidableEq

namespace StackEffect

/-- Whether a value is put in front. -/
def isPush : StackEffect → Bool
  | push _ => true
  | _ => false

/-- Whether the value in front is taken away. -/
def isPop : StackEffect → Bool
  | pop => true
  | _ => false

/-- The list afterwards. -/
def on : StackEffect → List Value → List Value
  | push value, values => value :: values
  | pop, values => values.tail
  | beside, values => values

/-- The list after a row of effects. -/
def run (values : List Value) (effects : List StackEffect) : List Value :=
  effects.foldl (fun values effect => effect.on values) values

/-- No part of the row from its start has more pops than pushes. -/
def Balanced (effects : List StackEffect) : Prop :=
  ∀ earlier, earlier <+: effects → earlier.countP isPop ≤ earlier.countP isPush

instance (effects : List StackEffect) : Decidable (Balanced effects) :=
  decidable_of_iff
    (∀ earlier ∈ effects.inits, earlier.countP isPop ≤ earlier.countP isPush)
    (by simp only [List.mem_inits, Balanced])

/-- Every push of the row has its pop in the row, and the other way round. -/
def Closed (effects : List StackEffect) : Prop :=
  Balanced effects ∧ effects.countP isPop = effects.countP isPush

theorem balanced_initial (earlier effects : List StackEffect) (h : Balanced effects)
    (hinitial : earlier <+: effects) : Balanced earlier := by
  intro first hfirst
  exact h first (hfirst.trans hinitial)

theorem run_append (values : List Value) (first second : List StackEffect) :
    run values (first ++ second) = run (run values first) second :=
  List.foldl_append

theorem run_concat (values : List Value) (effects : List StackEffect) (last : StackEffect) :
    run values (effects ++ [last]) = last.on (run values effects) :=
  run_append values effects [last]

/-- The list has one value for each push that has not been undone. -/
theorem length_run (effects : List StackEffect) (h : Balanced effects) :
    (run [] effects).length + effects.countP isPop = effects.countP isPush := by
  induction effects using List.reverseRecOn with
  | nil => rfl
  | append_singleton effects last ih =>
      have hrest := ih (balanced_initial _ _ h (List.prefix_append effects [last]))
      have hlast := h _ List.prefix_rfl
      simp only [run_concat, List.countP_append, List.countP_singleton] at hlast ⊢
      cases last with
      | push value =>
          simp only [on, isPush, isPop, List.length_cons, if_true, if_false, Bool.false_eq_true]
          omega
      | pop =>
          -- The pop is one of a balanced row, so there is something to pop.
          simp only [on, isPush, isPop, List.length_tail, if_true, if_false,
            Bool.false_eq_true] at hlast ⊢
          omega
      | beside =>
          simp only [on, isPush, isPop, if_false, Bool.false_eq_true]
          omega

theorem run_ne_nil (effects : List StackEffect) (h : Balanced (effects ++ [pop])) :
    run [] effects ≠ [] := by
  have hlength := length_run effects (balanced_initial _ _ h (List.prefix_append effects [pop]))
  have hlast := h _ List.prefix_rfl
  simp only [List.countP_append, List.countP_singleton, isPush, isPop, if_true, if_false,
    Bool.false_eq_true] at hlast
  intro hnil
  rw [hnil, List.length_nil] at hlength
  omega

/-- A balanced row never looks below the list it has built itself. -/
theorem run_of_balanced (effects : List StackEffect) (h : Balanced effects)
    (values : List Value) : run values effects = run [] effects ++ values := by
  induction effects using List.reverseRecOn with
  | nil => rfl
  | append_singleton effects last ih =>
      have hrest := ih (balanced_initial _ _ h (List.prefix_append effects [last]))
      rw [run_concat, run_concat, hrest]
      cases last with
      | push value => rfl
      | pop => exact List.tail_append_of_ne_nil (run_ne_nil effects h)
      | beside => rfl

/-- A closed row leaves the list as it was. -/
theorem run_closed (effects : List StackEffect) (h : Closed effects) (values : List Value) :
    run values effects = values := by
  have hlength := length_run effects h.1
  have hnil : run [] effects = [] := List.eq_nil_of_length_eq_zero (by have := h.2; omega)
  rw [run_of_balanced effects h.1, hnil, List.nil_append]

end StackEffect

/-- Something that touches the stack of a machine or leaves it alone. -/
inductive Move where
  | push (value : Value)
  | pop
  | write (register : Register) (value : Value)
  /-- An instruction of a block. -/
  | instruct (registry : Registry) (instruction : Instruction)
  /-- A summary goes back to its caller. Its activation is that of the machine,
      whatever else there is to it. -/
  | doReturn (setting : Setting) (activation : Activation)

namespace Move

/-- An access, which answers with the value it has popped, if any. -/
def answering {Answer : Type} (answer : Answer → Option Value)
    (outcome : Outcome Machine AccessError Answer) : Outcome Machine Fault (Option Value) :=
  ⟨(outcome.result.map answer).mapError .access, outcome.state⟩

/-- Make the move. It answers with the value that is popped, if one is. -/
def perform (machine : Machine) : Move → Outcome Machine Fault (Option Value)
  | push value => answering (fun _ => none) (machine.push value)
  | pop => answering some machine.pop
  | write register value => answering (fun _ => none) (machine.writeRegister register value)
  | instruct registry instruction =>
    answering (fun _ => none) (instruction.perform registry machine)
  | doReturn setting activation =>
    let outcome := { activation with machine := machine }.doReturn setting
    ⟨outcome.result.map some, outcome.state.machine⟩

/-- What the move does to a list of values. Calls are meant to push their
    return address. -/
def effect (arch : Architecture) : Move → StackEffect
  | push value => .push value
  | pop => .pop
  | write _ _ => .beside
  | instruct _ (.push word) => .push (.constant word arch.bits)
  | instruct _ (.call _ returnAddress) => .push (.constant returnAddress arch.bits)
  | instruct _ _ => .beside
  | doReturn _ _ => .pop

/-- Calls and returns use the stack, and writes leave the stack pointer
    alone. -/
def Orderly (arch : Architecture) : Move → Prop
  | push _ => True
  | pop => True
  | write register _ => register.offset ≠ arch.stackPointer.offset
  | instruct _ (.write register _) => register.offset ≠ arch.stackPointer.offset
  | instruct registry (.call _ _) => registry.returnSequence? arch = some .popStack
  | instruct _ _ => True
  | doReturn setting _ => setting.returnSequence = .ok .popStack

theorem answering_eq_ok_iff {Answer : Type} (answer : Answer → Option Value)
    (outcome : Outcome Machine AccessError Answer) (popped : Option Value) :
    (answering answer outcome).result = .ok popped ↔
      ∃ found, outcome.result = .ok found ∧ answer found = popped := by
  rw [answering, Outcome.mapError_eq_ok_iff, Outcome.map_eq_ok_iff]

/-- The effects of a row of moves. -/
def effects (arch : Architecture) (moves : List Move) : List StackEffect :=
  moves.map (·.effect arch)

end Move

namespace Machine

/-- The machine after a row of moves, each of which may have failed. -/
def afterMoves (machine : Machine) (moves : List Move) : Machine :=
  moves.foldl (fun machine move => (move.perform machine).state) machine

/-- From the stack pointer up to the address `base` the machine holds the
    values, and from there on what it held at the start. -/
structure Stacks (start machine : Machine) (base : Word) (values : List Value) : Prop where
  architecture : machine.architecture = start.architecture
  stackPointer : ∃ sp, machine.readStackPointer = .ok sp ∧
    sp.toNat + start.architecture.pointerSize * values.length = base.toNat
  slots : ∀ (i : Nat) (h : i < values.length) (address : Word),
    address.toNat + start.architecture.pointerSize * (values.length - i) = base.toNat →
      machine.stack[address]? = some values[i]
  above : ∀ address : Word, base.toNat ≤ address.toNat →
    machine.stack[address]? = start.stack[address]?

theorem stacks_nil (machine : Machine) (base : Word)
    (hsp : machine.readStackPointer = .ok base) : machine.Stacks machine base [] where
  architecture := rfl
  stackPointer := ⟨base, hsp, by rw [List.length_nil, Nat.mul_zero, Nat.add_zero]⟩
  slots i h := absurd h (Nat.not_lt_zero i)
  above _ _ := rfl

section Moves

variable {start machine after : Machine} {base : Word} {values : List Value}

/-- A push puts its value in front. The slot it writes is below all the
    others. -/
theorem stacks_push (value : Value) (hbase : base.toNat < 2 ^ start.architecture.bits)
    (h : start.Stacks machine base values) (hpush : machine.push value = .done () after) :
    start.Stacks after base (value :: values) := by
  rcases h.stackPointer with ⟨sp, hsp, hbelow⟩
  have hlt : sp.toNat < 2 ^ machine.architecture.bits := by
    rw [h.architecture]
    omega
  rcases push_exact machine after value sp hsp hlt hpush with ⟨lower, hroom, rfl, hlower⟩
  rw [h.architecture] at hroom
  have hpos := start.architecture.pointerSize_pos
  have hlength : start.architecture.pointerSize * (value :: values).length =
      start.architecture.pointerSize * values.length + start.architecture.pointerSize :=
    Nat.mul_succ _ _
  refine ⟨h.architecture, ⟨lower, hlower, by omega⟩, ?_, ?_⟩
  · intro i hi address haddress
    rw [stack_setStackPointer, getElem?_stack_store]
    cases i with
    | zero =>
        -- The value in front is in the slot that was just written.
        rw [Nat.sub_zero] at haddress
        have hsame : lower = address := by
          rw [← UInt64.toNat_inj]
          omega
        rw [if_pos hsame, List.getElem_cons_zero]
    | succ i =>
        -- All others are further up, where they have been before.
        rw [List.length_cons] at hi haddress
        rw [Nat.add_sub_add_right] at haddress
        have hle : start.architecture.pointerSize * (values.length - i) ≤
            start.architecture.pointerSize * values.length :=
          Nat.mul_le_mul_left _ (Nat.sub_le _ _)
        have hne : lower ≠ address := by
          rintro rfl
          omega
        rw [if_neg hne, List.getElem_cons_succ]
        exact h.slots i (by omega) address haddress
  · intro address haddress
    have hne : lower ≠ address := by
      rintro rfl
      omega
    rw [stack_setStackPointer, getElem?_stack_store, if_neg hne]
    exact h.above address haddress

/-- A pop finds the value in front and uncovers the others. The slot it has
    read is still there, but below the stack pointer. -/
theorem stacks_pop (value : Value) (hbase : base.toNat < 2 ^ start.architecture.bits)
    (h : start.Stacks machine base (value :: values)) :
    ∃ after, machine.pop = .done value after ∧ start.Stacks after base values := by
  rcases h.stackPointer with ⟨sp, hsp, hbelow⟩
  have hlength : start.architecture.pointerSize * (value :: values).length =
      start.architecture.pointerSize * values.length + start.architecture.pointerSize :=
    Nat.mul_succ _ _
  have hslot : machine.stack[sp]? = some value := h.slots 0 (Nat.zero_lt_succ _) sp hbelow
  have hroom : sp.toNat + machine.architecture.pointerSize < 2 ^ machine.architecture.bits := by
    rw [h.architecture]
    omega
  rcases machine.pop_exact value sp hsp hslot hroom with ⟨upper, hupper, hpop, hread⟩
  rw [h.architecture] at hupper
  refine ⟨_, hpop, h.architecture, ⟨upper, hread, by omega⟩, ?_, h.above⟩
  -- A slot is counted from the address at the start, so its place in the list moves by one.
  intro i hi address haddress
  rw [← List.getElem_cons_succ value values i (Nat.succ_lt_succ hi)]
  refine h.slots (i + 1) (Nat.succ_lt_succ hi) address ?_
  rw [List.length_cons, Nat.add_sub_add_right]
  exact haddress

theorem stacks_assign (offset : Nat) (value : Value) (h : start.Stacks machine base values)
    (hoffset : offset ≠ start.architecture.stackPointer.offset) :
    start.Stacks (machine.assign offset value) base values where
  architecture := h.architecture
  stackPointer := by
    rcases h.stackPointer with ⟨sp, hsp, hbelow⟩
    refine ⟨sp, ?_, hbelow⟩
    rw [readStackPointer_assign_other machine offset value (by rw [h.architecture]; exact hoffset)]
    exact hsp
  slots := h.slots
  above := h.above

theorem stacks_writeRegister (register : Register) (value : Value)
    (h : start.Stacks machine base values)
    (hregister : register.offset ≠ start.architecture.stackPointer.offset) :
    start.Stacks (machine.writeRegister register value).state base values := by
  rw [writeRegister_state]
  by_cases hbits : value.bits = register.bits
  · rw [if_pos hbits]
    exact stacks_assign register.offset value h hregister
  · rw [if_neg hbits]
    exact h

theorem stacks_jump (target : Word) (h : start.Stacks machine base values) :
    start.Stacks (machine.jump target).state base values := by
  refine stacks_writeRegister _ _ h ?_
  rw [h.architecture]
  exact start.architecture.offset_instructionPointer_ne

/-- A call that succeeds has pushed its return address, and a jump is beside the
    stack. -/
theorem stacks_call (registry : Registry) (target returnAddress : Word)
    (hbase : base.toNat < 2 ^ start.architecture.bits) (h : start.Stacks machine base values)
    (hsequence : registry.returnSequence? machine.architecture = some .popStack)
    (hcall : (Instruction.call target returnAddress).perform registry machine = .done () after) :
    start.Stacks after base (.constant returnAddress start.architecture.bits :: values) := by
  have hsplit : (machine.push (.constant returnAddress machine.architecture.bits)).andThen
      (fun _ middle => middle.jump target) = .done () after := by
    rw [← hcall]
    simp only [Instruction.perform, hsequence]
    rfl
  rcases (Outcome.andThen_eq_done_iff _ _ () after).mp hsplit with ⟨_, middle, hpush, hjump⟩
  have hmiddle := stacks_push _ hbase h hpush
  have hafter := stacks_jump target hmiddle
  rw [hjump, h.architecture] at hafter
  exact hafter

/-- One move. It does to the stack what its effect does to the list, and what it
    pops is the value in front. -/
theorem stacks_perform (move : Move) (hbase : base.toNat < 2 ^ start.architecture.bits)
    (h : start.Stacks machine base values) (horderly : move.Orderly start.architecture)
    (hpush : (move.effect start.architecture).isPush = true →
      ∃ popped, (move.perform machine).result = .ok popped)
    (hpop : move.effect start.architecture = .pop → values ≠ []) :
    start.Stacks (move.perform machine).state base ((move.effect start.architecture).on values) ∧
      (move.effect start.architecture = .pop →
        (move.perform machine).result = .ok values.head?) := by
  cases move with
  | push value =>
      rcases hpush rfl with ⟨popped, hanswer⟩
      rcases (Move.answering_eq_ok_iff _ _ popped).mp hanswer with ⟨_, hdone, _⟩
      exact ⟨stacks_push value hbase h (Outcome.eq_done_of_result _ () hdone), nofun⟩
  | pop =>
      rcases List.exists_cons_of_ne_nil (hpop rfl) with ⟨value, rest, rfl⟩
      rcases stacks_pop value hbase h with ⟨after, hdone, hafter⟩
      simp only [Move.perform, hdone]
      exact ⟨hafter, fun _ => rfl⟩
  | write register value => exact ⟨stacks_writeRegister register value h horderly, nofun⟩
  | instruct registry instruction =>
      cases instruction with
      | write register word => exact ⟨stacks_writeRegister register _ h horderly, nofun⟩
      | push word =>
          rcases hpush rfl with ⟨popped, hanswer⟩
          rcases (Move.answering_eq_ok_iff _ _ popped).mp hanswer with ⟨_, hdone, _⟩
          have hafter : start.Stacks ((Instruction.push word).perform registry machine).state base
              (.constant word machine.architecture.bits :: values) :=
            stacks_push _ hbase h (Outcome.eq_done_of_result _ () hdone)
          rw [h.architecture] at hafter
          exact ⟨hafter, nofun⟩
      | call target returnAddress =>
          rcases hpush rfl with ⟨popped, hanswer⟩
          rcases (Move.answering_eq_ok_iff _ _ popped).mp hanswer with ⟨_, hdone, _⟩
          have hsequence : registry.returnSequence? machine.architecture = some .popStack := by
            rw [h.architecture]
            exact horderly
          exact ⟨stacks_call registry target returnAddress hbase h hsequence
            (Outcome.eq_done_of_result _ () hdone), nofun⟩
      | jump target => exact ⟨stacks_jump target h, nofun⟩
      | halt => exact ⟨h, nofun⟩
  | doReturn setting activation =>
      rcases List.exists_cons_of_ne_nil (hpop rfl) with ⟨value, rest, rfl⟩
      rcases stacks_pop value hbase h with ⟨after, hdone, hafter⟩
      have hreturn := Activation.doReturn_of_done { activation with machine := machine } setting
        .popStack value after horderly hdone
      simp only [Move.perform, hreturn]
      exact ⟨hafter, fun _ => rfl⟩

end Moves

/-- Every move of the row that pushes succeeds where it is made. -/
def PushesSucceed (machine : Machine) (moves : List Move) : Prop :=
  ∀ (n : Nat) (h : n < moves.length), (moves[n].effect machine.architecture).isPush = true →
    ∃ popped, (moves[n].perform (machine.afterMoves (moves.take n))).result = .ok popped

theorem afterMoves_take_succ (machine : Machine) (moves : List Move) (n : Nat)
    (h : n < moves.length) :
    machine.afterMoves (moves.take (n + 1)) =
      (moves[n].perform (machine.afterMoves (moves.take n))).state := by
  rw [List.take_succ_eq_append_getElem h, afterMoves, List.foldl_append]
  rfl

end Machine

theorem Move.effects_take_succ (arch : Architecture) (moves : List Move) (n : Nat)
    (h : n < moves.length) :
    effects arch (moves.take (n + 1)) = effects arch (moves.take n) ++ [moves[n].effect arch] := by
  rw [List.take_succ_eq_append_getElem h, effects, List.map_append]
  rfl

namespace Machine

section Run

variable (machine : Machine) (base : Word) (moves : List Move)

/-- The list of values that is on the stack after the first `n` moves. -/
def pushed (n : Nat) : List Value :=
  StackEffect.run [] (Move.effects machine.architecture (moves.take n))

/-- What is asked of a row of moves: calls, returns and writes are orderly,
    nothing is popped that was not pushed, and pushes succeed. -/
structure Disciplined : Prop where
  orderly : ∀ move ∈ moves, move.Orderly machine.architecture
  balanced : StackEffect.Balanced (Move.effects machine.architecture moves)
  pushes : machine.PushesSucceed moves

/-- The moves treat the stack as a list. A pop takes the value in front of the
    list, which is the value of the push it belongs to. The stack pointer
    counts the pushes and pops, and what was on the stack before stays. -/
structure LastInFirstOut : Prop where
  pops : ∀ (n : Nat) (h : n < moves.length), moves[n].effect machine.architecture = .pop →
    ∃ value rest, machine.pushed moves n = value :: rest ∧
      (moves[n].perform (machine.afterMoves (moves.take n))).result = .ok (some value)
  matching : ∀ (opening inner closing : List Move) (pusher popper : Move) (value : Value),
    moves = opening ++ pusher :: inner ++ popper :: closing →
    pusher.effect machine.architecture = .push value →
    popper.effect machine.architecture = .pop →
    StackEffect.Closed (Move.effects machine.architecture inner) →
      (popper.perform (machine.afterMoves (opening ++ pusher :: inner))).result = .ok (some value)
  stackPointer : ∀ n ≤ moves.length, ∃ sp,
    (machine.afterMoves (moves.take n)).readStackPointer = .ok sp ∧
      (sp.toNat : Int) = base.toNat - machine.architecture.pointerSize *
        (((Move.effects machine.architecture (moves.take n)).countP StackEffect.isPush : Int) -
          (Move.effects machine.architecture (moves.take n)).countP StackEffect.isPop)
  above : ∀ n ≤ moves.length, ∀ address : Word, base.toNat ≤ address.toNat →
    (machine.afterMoves (moves.take n)).stack[address]? = machine.stack[address]?

variable {machine base moves}

theorem balanced_take (h : machine.Disciplined moves) (n : Nat) :
    StackEffect.Balanced (Move.effects machine.architecture (moves.take n)) := by
  have hinitial := List.take_prefix n moves
  exact StackEffect.balanced_initial _ _ h.balanced (hinitial.map _)

/-- Before a pop there is something to pop. -/
theorem pushed_ne_nil (h : machine.Disciplined moves) (n : Nat) (hn : n < moves.length)
    (hpop : moves[n].effect machine.architecture = .pop) : machine.pushed moves n ≠ [] := by
  refine StackEffect.run_ne_nil _ ?_
  rw [← hpop, ← Move.effects_take_succ machine.architecture moves n hn]
  exact balanced_take h (n + 1)

/-- A row of moves, by induction on how many of them have been made. -/
theorem stacks_after (hbase : base.toNat < 2 ^ machine.architecture.bits)
    (hsp : machine.readStackPointer = .ok base) (h : machine.Disciplined moves) (n : Nat) :
    n ≤ moves.length →
      machine.Stacks (machine.afterMoves (moves.take n)) base (machine.pushed moves n) := by
  induction n with
  | zero => exact fun _ => stacks_nil machine base hsp
  | succ n ih =>
      intro hn
      have hstep := stacks_perform moves[n] hbase (ih (Nat.le_of_succ_le hn))
        (h.orderly _ (List.getElem_mem hn)) (h.pushes n hn) (pushed_ne_nil h n hn)
      rw [afterMoves_take_succ machine moves n hn, pushed, Move.effects_take_succ _ moves n hn,
        StackEffect.run_concat]
      exact hstep.1

/-- A push and a pop with a closed row in between. The row leaves the list as
    it was, so the value of the push is in front again. -/
theorem pushed_of_closed (arch : Architecture) (opening inner : List Move) (pusher : Move)
    (value : Value) (hpusher : pusher.effect arch = .push value)
    (hinner : StackEffect.Closed (Move.effects arch inner)) :
    StackEffect.run [] (Move.effects arch (opening ++ pusher :: inner)) =
      value :: StackEffect.run [] (Move.effects arch opening) := by
  have heffects : Move.effects arch (opening ++ pusher :: inner) =
      Move.effects arch opening ++ [.push value] ++ Move.effects arch inner := by
    simp only [Move.effects, List.map_append, List.map_cons, hpusher, List.append_assoc,
      List.cons_append, List.nil_append]
  rw [heffects, StackEffect.run_append, StackEffect.run_closed _ hinner, StackEffect.run_concat]
  rfl

/-- What is popped is in front of the list, and the list is not empty. -/
theorem perform_pop (hbase : base.toNat < 2 ^ machine.architecture.bits)
    (hsp : machine.readStackPointer = .ok base) (h : machine.Disciplined moves) (n : Nat)
    (hn : n < moves.length) (hpop : moves[n].effect machine.architecture = .pop) :
    ∃ value rest, machine.pushed moves n = value :: rest ∧
      (moves[n].perform (machine.afterMoves (moves.take n))).result = .ok (some value) := by
  have hne := pushed_ne_nil h n hn hpop
  have hstep := stacks_perform moves[n] hbase (stacks_after hbase hsp h n (Nat.le_of_lt hn))
    (h.orderly _ (List.getElem_mem hn)) (h.pushes n hn) fun _ => hne
  rcases List.exists_cons_of_ne_nil hne with ⟨value, rest, hfront⟩
  refine ⟨value, rest, hfront, ?_⟩
  rw [hstep.2 hpop, hfront, List.head?_cons]

/-- The stack of a reachable machine is last in, first out, for every row of
    disciplined moves. -/
theorem lastInFirstOut (hmachine : machine.Reachable) (hsp : machine.readStackPointer = .ok base)
    (h : machine.Disciplined moves) : machine.LastInFirstOut base moves := by
  have hbase := machine.readStackPointer_lt base (machine.reachable_wellFormed hmachine) hsp
  have hstacks := fun n hn => stacks_after hbase hsp h n hn
  refine ⟨perform_pop hbase hsp h, ?_, ?_, fun n hn => (hstacks n hn).above⟩
  · intro opening inner closing pusher popper value hmoves hpusher hpopper hinner
    have hn : (opening ++ pusher :: inner).length < moves.length := by
      have hrow := congrArg List.length hmoves
      rw [List.length_append, List.length_cons] at hrow
      omega
    have htake : moves.take (opening ++ pusher :: inner).length = opening ++ pusher :: inner := by
      rw [hmoves, List.take_left]
    have hlast : moves[(opening ++ pusher :: inner).length] = popper := by
      simp only [hmoves, List.getElem_append_right (Nat.le_refl _), Nat.sub_self,
        List.getElem_cons_zero]
    -- The pop is the move after the closed row, and takes what is in front there.
    rcases perform_pop hbase hsp h _ hn (by rw [hlast]; exact hpopper) with
      ⟨found, rest, hfront, hresult⟩
    rw [pushed, htake, pushed_of_closed _ opening inner pusher value hpusher hinner,
      List.cons.injEq] at hfront
    rw [hlast, htake, ← hfront.1] at hresult
    exact hresult
  · intro n hn
    rcases (hstacks n hn).stackPointer with ⟨sp, hread, hbelow⟩
    have hlength := StackEffect.length_run _ (balanced_take h n)
    have hcount : ((Move.effects machine.architecture (moves.take n)).countP
          StackEffect.isPush : Int) -
        (Move.effects machine.architecture (moves.take n)).countP StackEffect.isPop =
          (machine.pushed moves n).length := by
      rw [pushed]
      omega
    refine ⟨sp, hread, ?_⟩
    rw [hcount, ← Int.natCast_mul]
    omega

end Run

/-- A push, a call that is returned from behind a write, a second push over the
    slot of the return address, and two pops. -/
def nestedMoves : List Move :=
  [.push (.symbol "saved" 64),
    .instruct .builtin (.call 0x2000 0x1005),
    .write Amd64.rax (.constant 7 64),
    .doReturn ⟨.builtin, ⟨none, .amd64, none⟩⟩ (.start (.new .amd64) .zero),
    .instruct .builtin (.push 9),
    .pop,
    .pop]

/-- The machine on which they are made. -/
def nestedStart : Machine :=
  .withStackPointer .amd64 0x1000

theorem lastInFirstOut_nested :
    nestedStart.LastInFirstOut 0x1000 nestedMoves ∧
      ((Move.pop).perform (nestedStart.afterMoves (nestedMoves.take 6))).result =
        .ok (some (.symbol "saved" 64)) := by
  have hdisciplined : nestedStart.Disciplined nestedMoves := by
    refine ⟨?_, by decide, ?_⟩
    · intro move hmove
      simp only [nestedMoves, List.mem_cons, List.not_mem_nil, or_false] at hmove
      rcases hmove with rfl | rfl | rfl | rfl | rfl | rfl | rfl
      · trivial
      · rfl
      · exact (by decide : Amd64.rax.offset ≠ Amd64.rsp.offset)
      · rfl
      · trivial
      · trivial
      · trivial
    · intro n hn hpush
      match n, hn with
      | 0, _ => exact ⟨none, rfl⟩
      | 1, _ => exact ⟨none, rfl⟩
      | 2, _ => cases hpush
      | 3, _ => cases hpush
      | 4, _ => exact ⟨none, rfl⟩
      | 5, _ => cases hpush
      | 6, _ => cases hpush
  have hlifo := lastInFirstOut (Reachable.withStackPointer .amd64 0x1000) rfl hdisciplined
  exact ⟨hlifo, hlifo.matching [] ((nestedMoves.drop 1).take 5) [] (.push _) .pop _ rfl rfl rfl
    ⟨by decide, rfl⟩⟩

end Machine

end CallSummary
