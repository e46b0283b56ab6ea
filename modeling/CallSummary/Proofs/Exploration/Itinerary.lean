import CallSummary.Proofs.Exploration.Indistinguishable

/-!
# Itineraries

What an exploration knows at each of its stops.

An explorer keeps three things in step: the address it is about to execute, the
address it has come from, and the instruction pointer of the machine. The next
address may be popped from the stack, or read from a link register, or from the
instruction pointer itself, and whichever it is, it is written back cut to the
width of the instruction pointer.

The stops are the positions that `follow` leads to, and the addresses an
exploration lists are theirs (`getElem?_visited`). So what holds at a stop is
said of a position and the one before it, and the step between the two is all
that has to be looked at. `Stop` collects it. The instruction pointer holds the
constant of the address, whatever hooks have done. That nothing was cut is
another matter. It rests on targets that fit, and so on machines that are
well-formed all along the way. A hook that returns to a value of its own making
can lead to an address that no pointer holds (`explore_itinerary_stray`).

An exploration that succeeds has stopped at a halt. A halt leads nowhere, so it
is the last step, and no other step is one (`completed_of_result`).

## Main definitions

* `Explorer.Stop`: A position on the way, with what is known there.
* `Explorer.Completed`: The addresses of an exploration that has halted.

## Theorems

* `getElem?_visited`: The addresses of an exploration are those of its stops.
* `stop_of_follow`: What is known at a stop.
* `exists_halt`: A successful walk ends with a halt.
* `exists_flow`: No other stop of it is a halt.
* `completed_of_result`: The addresses of a successful walk.
* `explore_itinerary`: The stops of an exploration.
* `explore_itinerary_stray`: A stop that the instruction pointer does not know.
-/

namespace CallSummary

namespace Explorer

/-- The addresses that a walk lists are those of the positions it has stepped
    from, by induction on the number of steps. -/
theorem getElem?_visited (explorer : Explorer) (limit steps : Nat) :
    ∀ (position : Position) (i : Nat), i < steps →
      (explorer.walk limit steps position).visited[i]? =
        (explorer.follow i position).map Position.address := by
  induction steps with
  | zero =>
      intro position i hi
      exact absurd hi (Nat.not_lt_zero i)
  | succ steps ih =>
      intro position i hi
      cases hnext : explorer.next? position with
      | none =>
          rw [explorer.walk_of_next_none limit steps position hnext]
          cases i with
          | zero => rfl
          | succ i =>
              -- The walk has ended with its first step.
              rw [follow, hnext]
              rfl
      | some next =>
          rw [explorer.walk_of_next_some limit steps position next hnext]
          cases i with
          | zero => rfl
          | succ i =>
              rw [follow, hnext, Option.bind_some]
              exact ih next i (by omega)

/-- The position of index `i` on the way of an exploration that visits the
    addresses. Its caller is the address before it, and the instruction pointer
    says where it is. A hook that is there is executed as coming from that
    caller. -/
structure Stop (explorer : Explorer) (visited : List Word) (i : Nat) (position : Position) :
    Prop where
  first : i = 0 → position.caller = none
  caller : ∀ j, i = j + 1 → position.caller = visited[j]? ∧ position.caller.isSome
  instructionPointer : 0 < i →
    position.machine.readRegister position.machine.architecture.instructionPointer =
      .ok (.constant position.address position.machine.architecture.instructionPointer.bits)
  hook : ∀ hook, explorer.hooks.lookup? position.address = some hook →
    (explorer.runUnit position).observed = hook.visit explorer.registry position

/-- What is known where the steps have led to. -/
theorem stop_of_follow (explorer : Explorer) (limit steps i : Nat) (start stop : Position)
    (hstart : start.caller = none) (hi : i < steps) (h : explorer.follow i start = some stop) :
    explorer.Stop (explorer.walk limit steps start).visited i stop := by
  have hhook : ∀ hook, explorer.hooks.lookup? stop.address = some hook →
      (explorer.runUnit stop).observed = hook.visit explorer.registry stop := by
    intro hook hlookup
    have hhooked : explorer.hooks.isHooked stop.address = true := by
      rw [HookTable.isHooked_eq, hlookup]
      rfl
    unfold runUnit
    rw [if_pos hhooked]
    exact explorer.observed_runHook stop hook hlookup
  cases i with
  | zero =>
      cases h
      exact ⟨fun _ => hstart, by nofun, by nofun, hhook⟩
  | succ i =>
      rw [follow_succ, Option.bind_eq_some_iff] at h
      rcases h with ⟨before, hbefore, hnext⟩
      have hcaller := ((explorer.next_eq_some_iff before stop).mp hnext).2.1
      refine ⟨by nofun, ?_, fun _ => explorer.instructionPointer_of_next before stop hnext, hhook⟩
      intro j hj
      -- The index before is that of the position before.
      have hsame : j = i := by omega
      rw [hsame, explorer.getElem?_visited limit steps start i (by omega), hbefore, hcaller]
      exact ⟨rfl, rfl⟩

-- A return has a target, and otherwise the instruction pointer is asked.
theorem target?_eq_none_iff (machine : Machine) (flow : Flow) :
    machine.target? flow = .ok none ↔ flow = .halt := by
  cases flow with
  | halt => simp only [Machine.target?]
  | returnTo target => simp only [Machine.target?, Except.ok.injEq, reduceCtorEq]
  | next =>
      unfold Machine.target?
      cases machine.readRegister machine.architecture.instructionPointer with
      | error cause => simp only [Except.map, reduceCtorEq]
      | ok target => simp only [Except.map, Except.ok.injEq, reduceCtorEq]

/-- Only a halt ends an exploration without a fault. -/
theorem advance_eq_ok_none_iff (explorer : Explorer) (position : Position) :
    (explorer.advance position).result = .ok none ↔
      (explorer.runUnit position).result = .ok .halt := by
  unfold advance proceed
  cases (explorer.runUnit position).result with
  | error fault => simp only [reduceCtorEq]
  | ok flow =>
      rw [Except.ok.injEq, ← target?_eq_none_iff (explorer.runUnit position).machine flow]
      simp only
      cases (explorer.runUnit position).machine.target? flow with
      | error cause => simp only [reduceCtorEq]
      | ok found =>
          cases found with
          | none => simp only
          | some target =>
              simp only
              -- A target is a fault or an address, and neither is the end.
              cases target.word? with
              | none => simp only [reduceCtorEq, Except.ok.injEq]
              | some address =>
                  simp only [Machine.jump_eq_done, Outcome.result_done, Except.mapError,
                    Except.map, Except.ok.injEq, reduceCtorEq]

/-- A walk that ends without a fault ends with a halt, by induction on the
    number of steps. The halt is at the last address. -/
theorem exists_halt (explorer : Explorer) (limit steps : Nat) :
    ∀ position : Position, (explorer.walk limit steps position).result = .ok () →
      ∃ last stop, (explorer.walk limit steps position).visited.length = last + 1 ∧
        explorer.follow last position = some stop ∧
        (explorer.runUnit stop).result = .ok .halt := by
  induction steps with
  | zero =>
      intro position h
      cases h
  | succ steps ih =>
      intro position h
      cases hnext : explorer.next? position with
      | none =>
          rw [explorer.walk_of_next_none limit steps position hnext] at h ⊢
          refine ⟨0, position, rfl, rfl, (explorer.advance_eq_ok_none_iff position).mp ?_⟩
          rcases (Outcome.map_eq_ok_iff _ _ ()).mp h with ⟨found, hfound, _⟩
          -- An address to go on at would be a next position.
          cases found with
          | none => exact hfound
          | some address =>
              unfold next? at hnext
              simp only [hfound, reduceCtorEq] at hnext
      | some next =>
          rw [explorer.walk_of_next_some limit steps position next hnext] at h ⊢
          rcases ih next h with ⟨last, stop, hlength, hfollow, hhalt⟩
          -- Seen from one step further back, the halt is one step later.
          refine ⟨last + 1, stop, ?_, ?_, hhalt⟩
          · rw [Walk.after, List.length_cons, hlength]
          · rw [follow, hnext, Option.bind_some]
            exact hfollow

/-- What goes on has not halted. -/
theorem exists_flow_of_next (explorer : Explorer) (position next : Position)
    (h : explorer.next? position = some next) :
    ∃ flow, (explorer.runUnit position).result = .ok flow ∧ flow ≠ .halt := by
  have hresult := ((explorer.next_eq_some_iff position next).mp h).1
  rcases proceed_eq_ok_some _ next.address hresult with ⟨flow, target, hflow, htarget, _⟩
  refine ⟨flow, hflow, ?_⟩
  rintro rfl
  cases htarget

/-- Where something runs without a fault there is a hook or a block. -/
theorem known_of_runUnit (explorer : Explorer) (position : Position) (flow : Flow)
    (h : (explorer.runUnit position).result = .ok flow) :
    explorer.hooks.isHooked position.address = true ∨
      (explorer.blocks[position.address]?).isSome := by
  by_cases hhooked : explorer.hooks.isHooked position.address = true
  · exact .inl hhooked
  · right
    unfold runUnit runBlock at h
    rw [if_neg hhooked] at h
    cases hblock : explorer.blocks[position.address]? with
    | none => simp only [hblock, reduceCtorEq] at h
    | some block => rfl

/-- The addresses of an exploration that has halted. It begins where it was
    started, and ends with the only halt. -/
structure Completed (explorer : Explorer) (start : Position) (limit : Nat) (visited : List Word) :
    Prop where
  head : visited.head? = some start.address
  length_pos : 1 ≤ visited.length
  length_le : visited.length ≤ limit
  known : ∀ address ∈ visited,
    explorer.hooks.isHooked address = true ∨ (explorer.blocks[address]?).isSome
  flows : ∀ (i : Nat) (h : i < visited.length), ∃ stop flow,
    explorer.follow i start = some stop ∧ stop.address = visited[i] ∧
      (explorer.runUnit stop).result = .ok flow ∧ (flow = .halt ↔ i + 1 = visited.length)

/-- Every address of a walk is that of a stop. -/
theorem exists_stop (explorer : Explorer) (limit steps : Nat) (start : Position) (i : Nat)
    (hi : i < (explorer.walk limit steps start).visited.length) :
    ∃ stop, explorer.follow i start = some stop ∧
      stop.address = (explorer.walk limit steps start).visited[i] := by
  have hle := explorer.length_visited_le limit steps start
  have hvisited := explorer.getElem?_visited limit steps start i (by omega)
  rw [List.getElem?_eq_getElem hi] at hvisited
  exact Option.map_eq_some_iff.mp hvisited.symm

/-- The stops of a successful walk have all gone on but for the last one, which
    has halted. -/
theorem exists_flow (explorer : Explorer) (limit steps : Nat) (start : Position) (i : Nat)
    (h : (explorer.walk limit steps start).result = .ok ())
    (hi : i < (explorer.walk limit steps start).visited.length) :
    ∃ stop flow, explorer.follow i start = some stop ∧
      stop.address = (explorer.walk limit steps start).visited[i] ∧
      (explorer.runUnit stop).result = .ok flow ∧
      (flow = .halt ↔ i + 1 = (explorer.walk limit steps start).visited.length) := by
  rcases explorer.exists_halt limit steps start h with ⟨last, final, hlength, hfinal, hhalt⟩
  rcases explorer.exists_stop limit steps start i hi with ⟨stop, hfollow, haddress⟩
  by_cases hend : i = last
  · -- Steps lead to one position only, so the stop is where the walk has halted.
    rw [hend, hfinal, Option.some.injEq] at hfollow
    rw [← hfollow] at haddress
    refine ⟨final, .halt, by rw [hend]; exact hfinal, haddress, hhalt, ?_⟩
    rw [hend, hlength]
    exact ⟨fun _ => rfl, fun _ => rfl⟩
  · -- Any other stop has one after it, so it has gone on.
    rcases explorer.exists_stop limit steps start (i + 1) (by omega) with ⟨next, hnext, _⟩
    rw [follow_succ, hfollow, Option.bind_some] at hnext
    rcases explorer.exists_flow_of_next stop next hnext with ⟨flow, hflow, hne⟩
    refine ⟨stop, flow, hfollow, haddress, hflow, ?_⟩
    exact ⟨fun hhalted => absurd hhalted hne, fun hlast => absurd hlast (by omega)⟩

theorem completed_of_result (explorer : Explorer) (limit : Nat) (start : Position)
    (h : (explorer.walk limit limit start).result = .ok ()) :
    explorer.Completed start limit (explorer.walk limit limit start).visited := by
  have hle := explorer.length_visited_le limit limit start
  rcases explorer.exists_halt limit limit start h with ⟨last, _, hlength, _⟩
  refine ⟨?_, by omega, hle, ?_, fun i hi => explorer.exists_flow limit limit start i h hi⟩
  · rw [List.head?_eq_getElem?, explorer.getElem?_visited limit limit start 0 (by omega)]
    rfl
  · intro address haddress
    rcases List.mem_iff_getElem.mp haddress with ⟨i, hi, rfl⟩
    rcases explorer.exists_flow limit limit start i h hi with ⟨stop, flow, _, hsame, hflow, _⟩
    rw [← hsame]
    exact explorer.known_of_runUnit stop flow hflow

/-- An exploration keeps its addresses, its callers and the instruction pointer
    in step. What it lists are the addresses of its stops. At each of them the
    caller is the address before, and from the second one on the instruction
    pointer holds the address, which nothing has been cut off if values fit and
    link registers are as wide as a pointer. If it succeeds, it has run from the
    entry to its only halt. -/
theorem explore_itinerary (explorer : Explorer) (machine : Machine) (names : NameSupply)
    (entry : Word) (limit : Nat) :
    (∀ i, i < limit →
        (explorer.explore machine names entry limit).visited[i]? =
            (explorer.follow i ⟨entry, none, machine, names⟩).map Position.address ∧
          ∀ stop, explorer.follow i ⟨entry, none, machine, names⟩ = some stop →
            explorer.Stop (explorer.explore machine names entry limit).visited i stop) ∧
      (explorer.Fitting machine.architecture → machine.Reachable →
        ∀ i stop, 0 < i → explorer.follow i ⟨entry, none, machine, names⟩ = some stop →
          stop.machine.architecture = machine.architecture ∧
            stop.address.toNat < 2 ^ machine.architecture.bits) ∧
      ∀ trace, (explorer.explore machine names entry limit).trace = .ok trace →
        explorer.Completed ⟨entry, none, machine, names⟩ limit trace := by
  refine ⟨?_, ?_, ?_⟩
  · intro i hi
    refine ⟨explorer.getElem?_visited limit limit _ i hi, ?_⟩
    intro stop hstop
    exact explorer.stop_of_follow limit limit i _ stop rfl hi hstop
  · intro hfitting hmachine i stop
    exact explorer.address_lt_of_follow i ⟨entry, none, machine, names⟩ stop hfitting hmachine
  · intro trace htrace
    rcases (Outcome.map_eq_ok_iff _ _ trace).mp htrace with ⟨_, hresult, rfl⟩
    exact explorer.completed_of_result limit _ hresult

/-- A call of a summary through the link register, and a halt after it. -/
def excursion : Explorer where
  blocks := ((∅ : Std.ExtTreeMap Word Block).insert 0x1000 [.call 0x2000 0x1008]).insert 0x1008
    [.halt]
  hooks := (HookTable.empty.insert 0x2000 ⟨Summary.returnConstant 7, none⟩).table
  registry := .builtin

theorem fitting_excursion : excursion.Fitting .arm := by
  refine ⟨Registry.linksPointer_builtin .arm, ?_⟩
  intro address hook hlookup
  simp only [excursion, HookTable.lookup?_insert, HookTable.lookup?_empty] at hlookup
  split at hlookup
  next =>
    rw [← Option.some.inj hlookup]
    exact Summary.makesFitting_returnConstant 7
  next => cases hlookup

/-- The excursion comes back to where the call has said, and halts there. -/
theorem explore_itinerary_excursion :
    excursion.Completed ⟨0x1000, none, .withStackPointer .arm 0x7fff0000, .zero⟩ 5
        [0x1000, 0x2000, 0x1008] ∧
      (∃ stop, excursion.follow 2 ⟨0x1000, none, .withStackPointer .arm 0x7fff0000, .zero⟩ =
          some stop ∧
        stop.caller = some 0x2000 ∧ stop.machine.architecture = .arm ∧
        stop.address.toNat < 2 ^ 32) := by
  have htrace : (excursion.explore (.withStackPointer .arm 0x7fff0000) .zero 0x1000 5).trace =
      .ok [0x1000, 0x2000, 0x1008] := rfl
  rcases excursion.explore_itinerary (.withStackPointer .arm 0x7fff0000) .zero 0x1000 5 with
    ⟨hstops, hfits, hcompleted⟩
  refine ⟨hcompleted _ htrace, _, rfl, ?_, ?_⟩
  · exact (((hstops 2 (by decide)).2 _ rfl).caller 1 rfl).1
  · exact hfits fitting_excursion (.withStackPointer .arm 0x7fff0000) 2 _ (by decide) rfl

/-- The stray summary leads to an address above those of its architecture. The
    instruction pointer holds the constant of it, which is zero. -/
theorem explore_itinerary_stray :
    stray.registry.LinksPointer .arm ∧ (Machine.withStackPointer .arm 0x7fff0000).Reachable ∧
      ∃ stop, stray.follow 1 ⟨0x2000, none, .withStackPointer .arm 0x7fff0000, .zero⟩ =
          some stop ∧
        stop.machine.readRegister Arm.pc = .ok (.constant stop.address 32) ∧
        stop.machine.readRegister Arm.pc = .ok (.concrete 0 32) ∧
        ¬ stop.address.toNat < 2 ^ Architecture.arm.bits :=
  ⟨Registry.linksPointer_builtin .arm, .withStackPointer .arm 0x7fff0000, _, rfl, rfl, rfl,
    by decide⟩

end Explorer

end CallSummary
