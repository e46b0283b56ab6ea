import CallSummary.Proofs.Exploration.Steps

/-!
# The Step Limit of an Exploration

The limit cuts an exploration off and does nothing else.

An exploration is a row of steps that ends by itself or goes on for ever, and
a limit says how much of the row is looked at. If the row ends within the
limit, then the limit has not been noticed: any larger one gives the same
walk (`walk_of_ends`). If it does not, the walk stops at the position the
steps have led to (`walk_add`), and a larger limit takes up the row there.

What makes the limit a mere cut-off is that one need not have been there to
take up the row. The walk that was cut off has left a machine and a supply of
names, and an exploration that starts with them, at the address in the
instruction pointer, goes the same way. That is `explore_stepLimit`. It needs
that an earlier step has set the instruction pointer, so it is about limits
of at least one, that the address fits into it, and that hooks cannot tell a
fresh start from a call.

Where the address does not fit, the machine does not know where it is going.
`explore_stepLimit_stray` is a walk that goes on, and the resumption of it,
which does not.

Whether the steps have run out is asked of the steps and not of the fault at
the end, because a summary may raise the same fault for reasons of its own.

## Main definitions

* `Explorer.RunsOut`: The exploration goes on after that many steps.
* `Walk.Continues`: A longer walk is a walk and the resumption of it.

## Theorems

* `walk_of_ends`: A walk that ends by itself does not depend on the limit.
* `walk_add`: A walk splits after any number of steps.
* `walk_withCaller`: Where a walk came from makes no difference.
* `explore_stepLimit`: The step limit is a cut-off.
* `explore_stepLimit_stray`: It is not for an address that is too wide.
-/

namespace CallSummary

namespace Walk

/-- The walk without what summaries wrote down. -/
def observed (walk : Walk) : Except Fault Unit × List Word × Machine × NameSupply :=
  (walk.result, walk.visited, walk.machine, walk.names)

/-- The walk with other steps in front. -/
def behind (walk : Walk) (visited : List Word) (transcript : List Entry) : Walk :=
  { walk with
    visited := visited ++ walk.visited
    transcript := transcript ++ walk.transcript }

end Walk

namespace Explorer

/-- The exploration has not ended after that many steps. -/
def RunsOut (explorer : Explorer) (steps : Nat) (position : Position) : Prop :=
  ∃ last, explorer.follow steps position = some last

/-- The walk of the single step with which an exploration ends. -/
def conclude (explorer : Explorer) (position : Position) : Walk where
  result := (explorer.advance position).result.map fun _ => ()
  visited := [position.address]
  machine := (explorer.advance position).machine
  names := (explorer.advance position).names
  transcript := (explorer.advance position).transcript

theorem walk_of_next_none (explorer : Explorer) (limit steps : Nat) (position : Position)
    (h : explorer.next? position = none) :
    explorer.walk limit (steps + 1) position = explorer.conclude position := by
  unfold next? at h
  simp only [walk, conclude]
  cases hresult : (explorer.advance position).result with
  | error fault => rfl
  | ok found =>
      cases found with
      | none => rfl
      | some address => simp only [hresult, reduceCtorEq] at h

theorem walk_of_next_some (explorer : Explorer) (limit steps : Nat) (position next : Position)
    (h : explorer.next? position = some next) :
    explorer.walk limit (steps + 1) position =
      (explorer.walk limit steps next).after position.address
        (explorer.advance position).transcript := by
  rcases (explorer.next_eq_some_iff position next).mp h with
    ⟨hresult, hcaller, hmachine, hnames⟩
  cases next with
  | mk address caller machine names =>
      simp only at hresult hcaller hmachine hnames
      subst hcaller hmachine hnames
      simp only [walk, hresult]

-- Whatever comes of the first step, its address is on the list.
theorem visited_walk_succ (explorer : Explorer) (limit steps : Nat) (position : Position) :
    ∃ rest, (explorer.walk limit (steps + 1) position).visited = position.address :: rest := by
  cases hnext : explorer.next? position with
  | none =>
      rw [explorer.walk_of_next_none limit steps position hnext]
      exact ⟨[], rfl⟩
  | some next =>
      rw [explorer.walk_of_next_some limit steps position next hnext]
      exact ⟨_, rfl⟩

/-- A walk that ends by itself within some steps is the same under every limit
    that leaves it as many. -/
theorem walk_of_ends (explorer : Explorer) (steps : Nat) :
    ∀ position : Position, explorer.follow steps position = none →
      ∀ limit other more : Nat,
        explorer.walk limit (steps + more) position = explorer.walk other steps position := by
  induction steps with
  | zero =>
      intro position h
      cases h
  | succ steps ih =>
      intro position h limit other more
      rw [Nat.succ_add]
      cases hnext : explorer.next? position with
      | none =>
          -- The walk that ends here has a step left, so it does not get to the limit.
          rw [explorer.walk_of_next_none limit _ position hnext,
            explorer.walk_of_next_none other steps position hnext]
      | some next =>
          rw [follow, hnext, Option.bind_some] at h
          rw [explorer.walk_of_next_some limit _ position next hnext,
            explorer.walk_of_next_some other steps position next hnext,
            ih next h limit other more]

theorem length_visited_le (explorer : Explorer) (limit steps : Nat) :
    ∀ position : Position, (explorer.walk limit steps position).visited.length ≤ steps := by
  induction steps with
  | zero => exact fun _ => Nat.le_refl 0
  | succ steps ih =>
      intro position
      cases hnext : explorer.next? position with
      | none =>
          rw [explorer.walk_of_next_none limit steps position hnext]
          exact Nat.le_add_left 1 steps
      | some next =>
          rw [explorer.walk_of_next_some limit steps position next hnext]
          exact Nat.succ_le_succ (ih next)

/-- A walk splits after any number of steps that do not end it. The steps
    before are the same under every limit. -/
theorem walk_add (explorer : Explorer) (steps : Nat) :
    ∀ position last : Position, explorer.follow steps position = some last →
      ∃ visited transcript, visited.length = steps ∧ ∀ limit more : Nat,
        explorer.walk limit (steps + more) position =
          (explorer.walk limit more last).behind visited transcript := by
  induction steps with
  | zero =>
      intro position last h
      cases h
      refine ⟨[], [], rfl, ?_⟩
      intro limit more
      rw [Nat.zero_add]
      rfl
  | succ steps ih =>
      intro position last h
      rw [follow, Option.bind_eq_some_iff] at h
      rcases h with ⟨next, hnext, hrest⟩
      rcases ih next last hrest with ⟨visited, transcript, hlength, hwalk⟩
      refine ⟨position.address :: visited,
        (explorer.advance position).transcript ++ transcript, ?_, ?_⟩
      · rw [List.length_cons, hlength]
      · intro limit more
        rw [Nat.succ_add, explorer.walk_of_next_some limit _ position next hnext, hwalk]
        simp only [Walk.after, Walk.behind, List.cons_append, List.append_assoc]

/-- A walk that does not end by itself has the limit for its fault, and leaves
    what the steps have led to. -/
theorem walk_of_runsOut (explorer : Explorer) (steps : Nat) (position last : Position)
    (h : explorer.follow steps position = some last) :
    ∃ visited transcript, visited.length = steps ∧ ∀ limit : Nat,
      explorer.walk limit steps position =
        ⟨.error (.internal (.stepLimit limit)), visited, last.machine, last.names, transcript⟩ := by
  rcases explorer.walk_add steps position last h with ⟨visited, transcript, hlength, hwalk⟩
  refine ⟨visited, transcript, hlength, ?_⟩
  intro limit
  have hcut := hwalk limit 0
  rw [Nat.add_zero] at hcut
  rw [hcut]
  simp only [walk, Walk.behind, List.append_nil]

/-- Walks of as many steps under two limits differ in what they name as the
    limit, if they name it, and in nothing else. -/
theorem walk_limits (explorer : Explorer) (limit other steps : Nat) (position : Position) :
    explorer.walk limit steps position =
        { explorer.walk other steps position with
          result := (explorer.walk limit steps position).result } ∧
      ((explorer.walk limit steps position).result =
          (explorer.walk other steps position).result ∨
        (explorer.walk limit steps position).result = .error (.internal (.stepLimit limit)) ∧
          (explorer.walk other steps position).result =
            .error (.internal (.stepLimit other))) := by
  cases h : explorer.follow steps position with
  | none =>
      have hends := explorer.walk_of_ends steps position h limit other 0
      rw [Nat.add_zero] at hends
      rw [hends]
      exact ⟨rfl, .inl rfl⟩
  | some last =>
      rcases explorer.walk_of_runsOut steps position last h with ⟨visited, transcript, _, hwalk⟩
      rw [hwalk limit, hwalk other]
      exact ⟨rfl, .inr ⟨rfl, rfl⟩⟩

-- The next position remembers the address it came from, but no further back.
theorem next_withCaller (explorer : Explorer) (position : Position) (caller : Option Word)
    (hignores : ∀ hook, explorer.hooks.lookup? position.address = some hook →
      hook.summary.IgnoresCaller) :
    explorer.next? (position.withCaller caller) = explorer.next? position := by
  have hadvance := explorer.advance_withCaller position caller hignores
  simp only [Visit.observed, Prod.mk.injEq] at hadvance
  unfold next?
  rw [hadvance.1, hadvance.2.1, hadvance.2.2]
  rfl

/-- Where the machine came from makes no difference to a walk, since it makes
    none to the first step and is forgotten after it. -/
theorem walk_withCaller (explorer : Explorer) (limit steps : Nat) (position : Position)
    (caller : Option Word)
    (hignores : ∀ hook, explorer.hooks.lookup? position.address = some hook →
      hook.summary.IgnoresCaller) :
    (explorer.walk limit steps (position.withCaller caller)).observed =
      (explorer.walk limit steps position).observed := by
  cases steps with
  | zero => rfl
  | succ steps =>
      have hnext := explorer.next_withCaller position caller hignores
      cases h : explorer.next? position with
      | none =>
          have hadvance := explorer.advance_withCaller position caller hignores
          simp only [Visit.observed, Prod.mk.injEq] at hadvance
          rw [explorer.walk_of_next_none limit steps position h,
            explorer.walk_of_next_none limit steps _ (hnext.trans h)]
          simp only [Walk.observed, conclude, hadvance.1, hadvance.2.1, hadvance.2.2]
          rfl
      | some next =>
          rw [explorer.walk_of_next_some limit steps position next h,
            explorer.walk_of_next_some limit steps _ next (hnext.trans h)]
          rfl

end Explorer

/-- The long walk is the one that was cut off after `steps` steps, and then the
    one that took it up for `more` steps. They end alike, but that each walk
    that has run out of steps names its own limit. -/
structure Walk.Continues (long cut resumed : Walk) (steps more : Nat) : Prop where
  machine : long.machine = resumed.machine
  names : long.names = resumed.names
  visited : long.visited = cut.visited ++ resumed.visited
  result : long.result = resumed.result ∨
    long.result = .error (.internal (.stepLimit (steps + more))) ∧
      resumed.result = .error (.internal (.stepLimit more))
  trace : ∀ trace, resumed.trace = .ok trace →
    long.trace = .ok (cut.visited ++ trace) ∧
      (cut.visited ++ trace).length = steps + trace.length

namespace Explorer

/-- A walk that was cut off can be taken up at the last position, come from
    anywhere. -/
theorem continues_of_follow (explorer : Explorer) (steps more : Nat)
    (position last : Position) (caller : Option Word)
    (hignores : ∀ hook, explorer.hooks.lookup? last.address = some hook →
      hook.summary.IgnoresCaller)
    (h : explorer.follow steps position = some last) :
    Walk.Continues (explorer.walk (steps + more) (steps + more) position)
      (explorer.walk steps steps position)
      (explorer.walk more more (last.withCaller caller)) steps more := by
  rcases explorer.walk_add steps position last h with ⟨visited, transcript, hlength, hwalk⟩
  have hcut : (explorer.walk steps steps position).visited = visited := by
    have hzero := hwalk steps 0
    rw [Nat.add_zero] at hzero
    rw [hzero]
    simp only [walk, Walk.behind, List.append_nil]
  have hresumed := explorer.walk_withCaller more more last caller hignores
  simp only [Walk.observed, Prod.mk.injEq] at hresumed
  rcases hresumed with ⟨hresult, hvisited, hmachine, hnames⟩
  -- The limit of the long walk is not that of the resumed one.
  rcases explorer.walk_limits (steps + more) more more last with ⟨hsame, hlimit⟩
  have hlong := hwalk (steps + more) more
  rw [hsame] at hlong
  rw [← hresult] at hlimit
  have hend : (explorer.walk (steps + more) (steps + more) position).result =
      (explorer.walk (steps + more) more last).result := by
    rw [hlong]
    rfl
  have hall : (explorer.walk (steps + more) (steps + more) position).visited =
      (explorer.walk steps steps position).visited ++
        (explorer.walk more more (last.withCaller caller)).visited := by
    rw [hlong, hcut, hvisited]
    rfl
  rw [← hend] at hlimit
  refine ⟨?_, ?_, hall, hlimit, ?_⟩
  · rw [hlong, hmachine]
    rfl
  · rw [hlong, hnames]
    rfl
  · intro trace htrace
    rcases (Outcome.map_eq_ok_iff _ _ trace).mp htrace with ⟨_, hok, rfl⟩
    rcases hlimit with hequal | ⟨_, hfault⟩
    · rw [List.length_append, hcut, hlength, Walk.trace, hequal, hok, hall, hcut]
      exact ⟨rfl, rfl⟩
    · rw [hfault] at hok
      cases hok

/-- After a step the instruction pointer holds the address, if it fits. -/
theorem readRegister_of_follow (explorer : Explorer) (i : Nat) (start last : Position)
    (hi : 0 < i) (h : explorer.follow i start = some last)
    (hlt : last.address.toNat < 2 ^ last.machine.architecture.bits) :
    last.machine.readRegister last.machine.architecture.instructionPointer =
      .ok (.concrete last.address last.machine.architecture.bits) := by
  obtain ⟨steps, rfl⟩ : ∃ steps, i = steps + 1 := ⟨i - 1, by omega⟩
  rw [follow_succ, Option.bind_eq_some_iff] at h
  rcases h with ⟨before, _, hnext⟩
  rw [explorer.instructionPointer_of_next before last hnext,
    Architecture.bits_instructionPointer, Value.constant_of_lt _ _ hlt]

/-- The step limit is only a cut-off. An exploration that ends by itself is
    the same under every larger limit. One that runs out of steps, after at
    least one, leaves a machine from which it can be taken up at the address in
    the instruction pointer, as if it had never been cut off. The address has
    to fit, as it does wherever hooks make fitting values, and hooks must not
    see where control came from. -/
theorem explore_stepLimit (explorer : Explorer) (machine : Machine) (names : NameSupply)
    (entry : Word) (limit : Nat) :
    (¬ explorer.RunsOut limit ⟨entry, none, machine, names⟩ →
      (explorer.explore machine names entry limit).visited.length ≤ limit ∧
        ∀ larger, limit ≤ larger →
          explorer.explore machine names entry larger =
            explorer.explore machine names entry limit) ∧
      ∀ last, explorer.follow limit ⟨entry, none, machine, names⟩ = some last →
        let cut := explorer.explore machine names entry limit
        cut.result = .error (.internal (.stepLimit limit)) ∧
          cut.machine = last.machine ∧ cut.names = last.names ∧
          (1 ≤ limit → explorer.Fitting machine.architecture → machine.Reachable →
            last.machine.architecture = machine.architecture ∧
              last.address.toNat < 2 ^ last.machine.architecture.bits) ∧
          (1 ≤ limit → explorer.IgnoresCallers →
            last.address.toNat < 2 ^ last.machine.architecture.bits →
              cut.machine.readRegister last.machine.architecture.instructionPointer =
                  .ok (.concrete last.address last.machine.architecture.bits) ∧
                ∀ more, Walk.Continues (explorer.explore machine names entry (limit + more)) cut
                  (explorer.explore cut.machine cut.names last.address more) limit more) := by
  constructor
  · intro hends
    have hnone : explorer.follow limit ⟨entry, none, machine, names⟩ = none := by
      cases hfollow : explorer.follow limit ⟨entry, none, machine, names⟩ with
      | none => rfl
      | some last => exact absurd ⟨last, hfollow⟩ hends
    refine ⟨explorer.length_visited_le limit limit _, ?_⟩
    intro larger hle
    obtain ⟨more, rfl⟩ := Nat.exists_eq_add_of_le hle
    exact explorer.walk_of_ends limit _ hnone (limit + more) limit more
  · intro last hfollow cut
    rcases explorer.walk_of_runsOut limit _ last hfollow with ⟨visited, transcript, _, hwalk⟩
    have hcut : cut =
        ⟨.error (.internal (.stepLimit limit)), visited, last.machine, last.names, transcript⟩ :=
      hwalk limit
    refine ⟨by rw [hcut], by rw [hcut], by rw [hcut], ?_, ?_⟩
    · intro hpos hfitting hmachine
      rcases explorer.address_lt_of_follow limit ⟨entry, none, machine, names⟩ last hfitting
        hmachine hpos hfollow with ⟨harch, hlt⟩
      exact ⟨harch, harch ▸ hlt⟩
    · intro hpos hignores hlt
      -- At least one step has been taken, so it has set the instruction pointer.
      have hread := explorer.readRegister_of_follow limit _ last hpos hfollow hlt
      refine ⟨by rw [hcut]; exact hread, ?_⟩
      intro more
      have hresumed : explorer.explore cut.machine cut.names last.address more =
          explorer.walk more more (last.withCaller none) := by
        rw [hcut]
        rfl
      rw [hresumed]
      exact explorer.continues_of_follow limit more ⟨entry, none, machine, names⟩ last none
        (hignores last.address) hfollow

/-- A block that calls a summary, which returns to the block. -/
def circle : Explorer where
  blocks := (∅ : Std.ExtTreeMap Word Block).insert 0x1000 [.call 0x2000 0x1000]
  hooks := (HookTable.empty.insert 0x2000 ⟨Summary.returnConstant 7, none⟩).table
  registry := .builtin

theorem summary_circle (address : Word) (hook : Hook)
    (h : circle.hooks.lookup? address = some hook) : hook.summary = Summary.returnConstant 7 := by
  simp only [circle, HookTable.lookup?_insert, HookTable.lookup?_empty] at h
  split at h
  next => rw [← Option.some.inj h]
  next => cases h

/-- The machine of the circle after its third step, in front of the summary. -/
def circleCut : Walk :=
  circle.explore (.withStackPointer .amd64 0x7fff0000) .zero 0x1000 3

theorem explore_stepLimit_circle :
    circleCut.result = .error (.internal (.stepLimit 3)) ∧
      Walk.Continues
        (circle.explore (.withStackPointer .amd64 0x7fff0000) .zero 0x1000 5) circleCut
        (circle.explore circleCut.machine circleCut.names 0x2000 2) 3 2 := by
  have hfitting : circle.Fitting .amd64 := by
    refine ⟨Registry.linksPointer_builtin .amd64, ?_⟩
    intro address hook hlookup
    rw [summary_circle address hook hlookup]
    exact Summary.makesFitting_returnConstant 7
  have hignores : circle.IgnoresCallers := by
    intro address hook hlookup
    rw [summary_circle address hook hlookup]
    exact Summary.ignoresCaller_returnConstant 7
  rcases (circle.explore_stepLimit (.withStackPointer .amd64 0x7fff0000) .zero 0x1000 3).2 _ rfl
    with ⟨hresult, _, _, hfits, hcontinues⟩
  have hlt := hfits (by decide) hfitting (.withStackPointer .amd64 0x7fff0000)
  exact ⟨hresult, (hcontinues (by decide) hignores hlt.2).2 2⟩

/-- A summary that returns to an address it has made itself, which is wider
    than the link register it is written to, and a halt at that address. -/
def stray : Explorer where
  blocks := (∅ : Std.ExtTreeMap Word Block).insert 0x100000000 [.halt]
  hooks := (HookTable.empty.insert 0x2000
    ⟨{ name := "Stray"
       program := .step (.writeRegister (.given Arm.lr) (.concrete 0x100000000 32)) .doReturn },
      none⟩).table
  registry := .builtin

theorem ignoresCallers_stray : stray.IgnoresCallers := by
  intro address hook hlookup
  simp only [stray, HookTable.lookup?_insert, HookTable.lookup?_empty] at hlookup
  split at hlookup
  next =>
    rw [← Option.some.inj hlookup]
    refine Summary.ignoresCaller_of_neverAsks "Stray" _ ?_
    exact Program.neverAsks_ask (.writeRegister _ _) _ (by nofun)
      fun _ => Program.neverAsks_doReturn
  next => cases hlookup

/-- The stray summary has gone on to the halt. Taken up at the address in the
    instruction pointer, there is nothing to run. -/
theorem explore_stepLimit_stray :
    stray.registry.LinksPointer .arm ∧ stray.IgnoresCallers ∧
      (Machine.withStackPointer .arm 0x7fff0000).Reachable ∧
      let cut := stray.explore (.withStackPointer .arm 0x7fff0000) .zero 0x2000 1
      cut.result = .error (.internal (.stepLimit 1)) ∧
        cut.machine.readRegister Arm.pc = .ok (.concrete 0 32) ∧
        ¬ Walk.Continues (stray.explore (.withStackPointer .arm 0x7fff0000) .zero 0x2000 2) cut
          (stray.explore cut.machine cut.names 0 1) 1 1 := by
  refine ⟨Registry.linksPointer_builtin .arm, ignoresCallers_stray,
    .withStackPointer .arm 0x7fff0000, rfl, rfl, ?_⟩
  intro hcontinues
  -- The long walk has halted, and the resumed one has found nothing.
  rcases hcontinues.result with hsame | ⟨hcut, _⟩
  · cases hsame
  · cases hcut

end Explorer

end CallSummary
