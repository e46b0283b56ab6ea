import CallSummary.Exploration.Explorer
import CallSummary.Proofs.Exploration.BlockRuns
import CallSummary.Proofs.Summary.Fitting

/-!
# Steps of an Exploration

What one step of an exploration leaves behind.

An exploration remembers more than its machine: the address it goes on at,
and the address it came from. A step leaves the first of them in the
instruction pointer, as far as that is wide (`instructionPointer_of_next`). The
second makes no difference where hooks ignore their callers
(`advance_withCaller`). So a machine and a supply of names are all it takes to
go on, if the instruction pointer has cut nothing off.

That rests on values that fit. A step sets the instruction pointer to a target
that was read from the machine, through a register or a slot of pointer width,
and a target that fits loses nothing on the way (`next_sound`). A hook may make
a value that does not fit, and return to it. Then the exploration goes on at an
address that its machine does not know.

## Main definitions

* `Explorer.next?`, `Explorer.follow`: The position after one step, or after
  many, if the machine goes on.
* `Explorer.Fitting`: Hooks and registry only deal in values that fit.
* `Explorer.IgnoresCallers`: Hooks do not care where control came from.
* `Visit.observed`: A visit without what summaries wrote down.

## Theorems

* `left_runUnit`: What runs at a position keeps the machine well-formed and goes
  to a target that fits.
* `instructionPointer_of_next`: A step sets the instruction pointer.
* `next_sound`: If values fit, it then says where the machine is.
* `settled_follow`, `address_lt_of_follow`: The same after many steps.
* `follow_succ`: The last of many steps.
* `advance_withCaller`: Where the machine came from makes no difference.
-/

namespace CallSummary

/-- The visit without what summaries wrote down. -/
def Visit.observed {Answer : Type} (visit : Visit Answer) :
    Except Fault Answer × Machine × NameSupply :=
  (visit.result, visit.machine, visit.names)

/-- The same position, come from elsewhere. -/
def Position.withCaller (position : Position) (caller : Option Word) : Position :=
  { position with caller := caller }

namespace Explorer

/-- The position after a step; `none` if the exploration ends with it. -/
def next? (explorer : Explorer) (position : Position) : Option Position :=
  match (explorer.advance position).result with
  | .ok (some address) =>
    some
      { address := address
        caller := some position.address
        machine := (explorer.advance position).machine
        names := (explorer.advance position).names }
  | _ => none

/-- The position after a number of steps; `none` if the exploration ends with
    one of them. -/
def follow (explorer : Explorer) : (steps : Nat) → Position → Option Position
  | 0, position => some position
  | steps + 1, position => (explorer.next? position).bind (explorer.follow steps)

/-- No hook cares where control came from. -/
def IgnoresCallers (explorer : Explorer) : Prop :=
  ∀ (address : Word) (hook : Hook), explorer.hooks.lookup? address = some hook →
    hook.summary.IgnoresCaller

/-- The registry returns through registers of pointer width, and hooks make
    fitting values. -/
structure Fitting (explorer : Explorer) (arch : Architecture) : Prop where
  links : explorer.registry.LinksPointer arch
  fits : ∀ (address : Word) (hook : Hook), explorer.hooks.lookup? address = some hook →
    hook.summary.program.MakesFitting

/-- The visit has left a well-formed machine of the architecture, and goes to
    a target that fits. -/
structure Left (visit : Visit Flow) (arch : Architecture) : Prop where
  wellFormed : visit.machine.WellFormed
  architecture : visit.machine.architecture = arch
  flow : ∀ flow, visit.result = .ok flow → flow.Fits arch

theorem left_runHook (explorer : Explorer) (position : Position)
    (hfitting : explorer.Fitting position.machine.architecture)
    (h : position.machine.WellFormed) :
    Left (explorer.runHook position) position.machine.architecture := by
  unfold runHook HookTable.dispatch?
  cases hlookup : explorer.hooks.lookup? position.address with
  | none => exact ⟨h, rfl, by nofun⟩
  | some hook =>
      simp only [Option.map_some]
      cases hbind : (hook.summary.bind explorer.registry position.machine.architecture
        position.caller hook.convention).result with
      | error fault => exact ⟨h, rfl, by nofun⟩
      | ok bound =>
          have hbound := ((hook.summary.bind_result_eq_ok_iff _ _ _ _ bound).mp hbind).2
          have hfits : bound.summary.program.MakesFitting := by
            rw [hbound]
            exact hfitting.fits position.address hook hlookup
          rcases bound.sound_execute explorer.registry position.machine position.names
            hfitting.links (by rw [hbound]; rfl) hfits h with ⟨hwellFormed, harch, hflow⟩
          refine ⟨hwellFormed, harch, ?_⟩
          intro flow hresult
          rcases (Outcome.map_eq_ok_iff _ _ flow).mp hresult with ⟨successors, hsuccessors, rfl⟩
          exact hflow successors hsuccessors

theorem left_runBlock (explorer : Explorer) (position : Position)
    (h : position.machine.WellFormed) :
    Left (explorer.runBlock position) position.machine.architecture := by
  unfold runBlock
  cases explorer.blocks[position.address]? with
  | none => exact ⟨h, rfl, by nofun⟩
  | some block =>
      refine ⟨block.wellFormed_execute explorer.registry position.machine h,
        block.architecture_execute explorer.registry position.machine, ?_⟩
      intro flow hresult
      have hflow := (Outcome.mapError_eq_ok_iff Fault.access _ flow).mp hresult
      rcases block.flow_execute explorer.registry position.machine flow hflow with rfl | rfl
      · trivial
      · trivial

theorem left_runUnit (explorer : Explorer) (position : Position)
    (hfitting : explorer.Fitting position.machine.architecture)
    (h : position.machine.WellFormed) :
    Left (explorer.runUnit position) position.machine.architecture := by
  unfold runUnit
  by_cases hhooked : explorer.hooks.isHooked position.address = true
  · rw [if_pos hhooked]
    exact explorer.left_runHook position hfitting h
  · rw [if_neg hhooked]
    exact explorer.left_runBlock position h

end Explorer

namespace Machine

/-- The target of a flow that fits is a value that fits, and so is what the
    instruction pointer of a well-formed machine holds. -/
theorem target?_fits (machine : Machine) (flow : Flow) (target : Value)
    (h : machine.WellFormed) (hflow : flow.Fits machine.architecture)
    (htarget : machine.target? flow = .ok (some target)) :
    target.Fits ∧ target.bits = machine.architecture.bits := by
  cases flow with
  | halt => cases htarget
  | returnTo found =>
      rw [← Option.some.inj (Except.ok.inj htarget)]
      exact hflow
  | next =>
      rcases (Outcome.map_eq_ok_iff some _ _).mp htarget with ⟨found, hread, hsome⟩
      rw [← Option.some.inj hsome]
      refine ⟨readRegister_fits machine _ found h hread, ?_⟩
      rw [(readRegister_eq_ok_iff.mp hread).2, Architecture.bits_instructionPointer]

/-- A jump leaves the address in the instruction pointer, cut to its width. -/
theorem readRegister_jump (machine : Machine) (address : Word) :
    (machine.jump address).state.readRegister machine.architecture.instructionPointer =
      .ok (.constant address machine.architecture.instructionPointer.bits) := by
  rw [jump_eq_done, Outcome.state_done]
  exact readRegister_assign_same machine _ _ (Value.bits_constant _ _)

end Machine

namespace Explorer

/-- The machine is well-formed and of the architecture, and its instruction
    pointer holds the address. -/
structure Settled (machine : Machine) (arch : Architecture) (address : Word) : Prop where
  wellFormed : machine.WellFormed
  architecture : machine.architecture = arch
  instructionPointer : machine.readRegister arch.instructionPointer =
    .ok (.concrete address arch.bits)

/-- A visit goes on to an address only through a target with that word, and
    then it jumps there. -/
theorem proceed_eq_ok_some (visit : Visit Flow) (address : Word)
    (h : (proceed visit).result = .ok (some address)) :
    ∃ flow target, visit.result = .ok flow ∧ visit.machine.target? flow = .ok (some target) ∧
      target.word? = some address ∧
      (proceed visit).machine = (visit.machine.jump address).state := by
  unfold proceed at h ⊢
  cases hvisit : visit.result with
  | error fault => simp only [hvisit, reduceCtorEq] at h
  | ok flow =>
      cases htarget : visit.machine.target? flow with
      | error cause => simp only [hvisit, htarget, reduceCtorEq] at h
      | ok found =>
          cases found with
          | none => simp only [hvisit, htarget, Except.ok.injEq, reduceCtorEq] at h
          | some target =>
              cases hword : target.word? with
              | none => simp only [hvisit, htarget, hword, reduceCtorEq] at h
              | some word =>
                  simp only [hvisit, htarget, hword, Machine.jump_eq_done,
                    Outcome.result_done] at h
                  cases h
                  exact ⟨flow, target, rfl, htarget, hword, by simp only [htarget, hword]⟩

/-- Going on to an address leaves the instruction pointer at that address. The
    target is a value of pointer width that fits, so the jump cuts nothing. -/
theorem settled_proceed (visit : Visit Flow) (arch : Architecture) (address : Word)
    (h : Left visit arch) (hresult : (proceed visit).result = .ok (some address)) :
    Settled (proceed visit).machine arch address := by
  rcases h with ⟨hwellFormed, harch, hflow⟩
  subst harch
  rcases proceed_eq_ok_some visit address hresult with
    ⟨flow, target, hvisit, htarget, hword, hmachine⟩
  rcases visit.machine.target?_fits flow target hwellFormed (hflow flow hvisit) htarget with
    ⟨hfits, hbits⟩
  have hlt : address.toNat < 2 ^ visit.machine.architecture.bits := by
    rw [← hbits]
    exact target.lt_of_fits address hword hfits
  rw [hmachine]
  refine ⟨Machine.wellFormed_writeRegister _ _ _ hwellFormed (Value.fits_constant address _),
    visit.machine.architecture_jump address, ?_⟩
  rw [Machine.readRegister_jump, Architecture.bits_instructionPointer,
    Value.constant_of_lt address _ hlt]

theorem next_eq_some_iff (explorer : Explorer) (position after : Position) :
    explorer.next? position = some after ↔
      (explorer.advance position).result = .ok (some after.address) ∧
        after.caller = some position.address ∧
        after.machine = (explorer.advance position).machine ∧
        after.names = (explorer.advance position).names := by
  unfold next?
  constructor
  · intro h
    split at h
    next address hresult =>
      rw [← Option.some.inj h]
      exact ⟨hresult, rfl, rfl, rfl⟩
    next => cases h
  · rintro ⟨hresult, hcaller, hmachine, hnames⟩
    rw [hresult]
    cases after with
    | mk address caller machine names =>
        simp only at hcaller hmachine hnames
        rw [hcaller, hmachine, hnames]

/-- A step leaves the address that the exploration goes on at in the
    instruction pointer, cut to its width. -/
theorem instructionPointer_of_next (explorer : Explorer) (before after : Position)
    (h : explorer.next? before = some after) :
    after.machine.readRegister after.machine.architecture.instructionPointer =
      .ok (.constant after.address after.machine.architecture.instructionPointer.bits) := by
  rcases (explorer.next_eq_some_iff before after).mp h with ⟨hresult, _, hmachine, _⟩
  rcases proceed_eq_ok_some _ after.address hresult with ⟨_, _, _, _, _, hjump⟩
  -- Wherever the target has come from, the last thing a step does is to jump there.
  have hmoved : after.machine = ((explorer.runUnit before).machine.jump after.address).state :=
    hmachine.trans hjump
  rw [hmoved, Machine.architecture_jump, Machine.readRegister_jump]

/-- After a step the instruction pointer holds the address that the
    exploration goes on at. -/
theorem next_sound (explorer : Explorer) (arch : Architecture) (position after : Position)
    (hfitting : explorer.Fitting arch) (hwellFormed : position.machine.WellFormed)
    (harch : position.machine.architecture = arch)
    (h : explorer.next? position = some after) :
    Settled after.machine arch after.address := by
  subst harch
  rcases (explorer.next_eq_some_iff position after).mp h with ⟨hresult, _, hmachine, _⟩
  rw [hmachine]
  exact settled_proceed _ _ after.address
    (explorer.left_runUnit position hfitting hwellFormed) hresult

/-- The same after any number of steps but none, by induction on their
    number. -/
theorem settled_follow (explorer : Explorer) (arch : Architecture)
    (hfitting : explorer.Fitting arch) (steps : Nat) :
    ∀ position after : Position, position.machine.WellFormed →
      position.machine.architecture = arch →
      explorer.follow (steps + 1) position = some after →
      Settled after.machine arch after.address := by
  induction steps with
  | zero =>
      intro position after hwellFormed harch h
      rw [follow, Option.bind_eq_some_iff] at h
      rcases h with ⟨next, hnext, hlast⟩
      rw [← Option.some.inj hlast]
      exact explorer.next_sound arch position next hfitting hwellFormed harch hnext
  | succ steps ih =>
      intro position after hwellFormed harch h
      rw [follow, Option.bind_eq_some_iff] at h
      rcases h with ⟨next, hnext, hrest⟩
      have hsettled := explorer.next_sound arch position next hfitting hwellFormed harch hnext
      exact ih next after hsettled.wellFormed hsettled.architecture hrest

/-- After the first step the addresses are those that a pointer can hold, so
    the instruction pointer has cut nothing off. -/
theorem address_lt_of_follow (explorer : Explorer) (i : Nat) (start stop : Position)
    (hfitting : explorer.Fitting start.machine.architecture) (hstart : start.machine.Reachable)
    (hi : 0 < i) (h : explorer.follow i start = some stop) :
    stop.machine.architecture = start.machine.architecture ∧
      stop.address.toNat < 2 ^ start.machine.architecture.bits := by
  obtain ⟨steps, rfl⟩ : ∃ steps, i = steps + 1 := ⟨i - 1, by omega⟩
  have hsettled := explorer.settled_follow start.machine.architecture hfitting steps start stop
    (start.machine.reachable_wellFormed hstart) rfl h
  refine ⟨hsettled.architecture, ?_⟩
  -- The address stands in a register of pointer width, and what stands there fits.
  exact Machine.readRegister_fits stop.machine _ _ hsettled.wellFormed hsettled.instructionPointer

/-- Many steps are one step after the others. -/
theorem follow_succ (explorer : Explorer) (steps : Nat) :
    ∀ position : Position, explorer.follow (steps + 1) position =
      (explorer.follow steps position).bind explorer.next? := by
  induction steps with
  | zero =>
      intro position
      rw [follow, follow, Option.bind_some]
      cases explorer.next? position with
      | none => rfl
      | some next => rfl
  | succ steps ih =>
      intro position
      -- `follow` takes the first step off, and what is left is shorter.
      rw [follow, follow, Option.bind_assoc]
      congr 1
      funext next
      exact ih next

theorem runHook_withCaller (explorer : Explorer) (position : Position) (caller : Option Word)
    (hignores : ∀ hook, explorer.hooks.lookup? position.address = some hook →
      hook.summary.IgnoresCaller) :
    (explorer.runHook (position.withCaller caller)).observed =
      (explorer.runHook position).observed := by
  unfold runHook HookTable.dispatch?
  simp only [Position.withCaller]
  cases hlookup : explorer.hooks.lookup? position.address with
  | none => rfl
  | some hook =>
      have hhook := hignores hook hlookup
      simp only [Option.map_some]
      rw [hook.summary.bind_result, hook.summary.bind_result]
      -- The two calls that the summary is bound to differ in the caller alone.
      have hother : explorer.registry.invocation position.machine.architecture caller
          hook.convention = (explorer.registry.invocation position.machine.architecture
            position.caller hook.convention).withCaller caller := rfl
      rw [hother]
      generalize explorer.registry.invocation position.machine.architecture position.caller
        hook.convention = call
      have hprepare := hhook.prepare call caller
      cases hfirst : hook.summary.prepare call with
      | error fault =>
          cases hsecond : hook.summary.prepare (call.withCaller caller) with
          | error other =>
              simp only [hfirst, hsecond, Except.map, Except.error.injEq] at hprepare
              rw [hprepare]
              rfl
          | ok entries => simp only [hfirst, hsecond, Except.map, reduceCtorEq] at hprepare
      | ok entries =>
          cases hsecond : hook.summary.prepare (call.withCaller caller) with
          | error other => simp only [hfirst, hsecond, Except.map, reduceCtorEq] at hprepare
          | ok others =>
              rcases Bound.execute_withCaller ⟨hook.summary, call, none⟩ explorer.registry
                position.machine position.names caller hhook with ⟨hresult, hmachine, hnames⟩
              simp only [Except.map, Visit.observed]
              rw [hresult, hmachine, hnames]

-- Where control goes is found out from the machine and the result alone.
theorem observed_proceed (first second : Visit Flow) (h : first.observed = second.observed) :
    (proceed first).observed = (proceed second).observed := by
  cases first with
  | mk result machine names transcript =>
      cases second with
      | mk other machine' names' transcript' =>
          simp only [Visit.observed, Prod.mk.injEq] at h
          rcases h with ⟨rfl, rfl, rfl⟩
          unfold proceed
          cases result with
          | error fault => rfl
          | ok flow =>
              simp only
              cases machine.target? flow with
              | error cause => rfl
              | ok found =>
                  cases found with
                  | none => rfl
                  | some target =>
                      simp only
                      cases target.word? with
                      | none => rfl
                      | some address => rfl

/-- Where the machine came from makes no difference to a step. -/
theorem advance_withCaller (explorer : Explorer) (position : Position) (caller : Option Word)
    (hignores : ∀ hook, explorer.hooks.lookup? position.address = some hook →
      hook.summary.IgnoresCaller) :
    (explorer.advance (position.withCaller caller)).observed =
      (explorer.advance position).observed := by
  refine observed_proceed _ _ ?_
  have haddress : (position.withCaller caller).address = position.address := rfl
  unfold runUnit
  rw [haddress]
  by_cases hhooked : explorer.hooks.isHooked position.address = true
  · rw [if_pos hhooked, if_pos hhooked]
    exact explorer.runHook_withCaller position caller hignores
  · rw [if_neg hhooked, if_neg hhooked]
    rfl

end Explorer

end CallSummary
