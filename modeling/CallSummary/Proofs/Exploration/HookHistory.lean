import CallSummary.Proofs.Convention.LastSaid
import CallSummary.Proofs.Exploration.Itinerary
import CallSummary.Proofs.Summary.SameCall

/-!
# Hooks After Any History

What a table of hooks knows, and what becomes of it when a hook is used.

A table is asked in five ways, and all of them come down to one: which hook
stands at an address. That is known from the history alone. The last change
at the address counts, and what it says is a hook, or that there is none. So
`lookup_afterAll` is `answer_foldl` for changes that can also say no. The
other questions are answered by the same map, and `Observed` compares them.

A hook that is used is bound to a call, and the call is put together from
where control comes from, the architecture, and the convention: the one that
the hook asks for, or else the preferred one of the registry. Nothing of it
gets lost on the way. The preparation is given that call, the bound summary
keeps it, and every run is answered for it at whatever depth.

A use fails to find a hook only where there is none. An exploration asks
before it uses one, so it never comes to the fault for a lost hook. Summaries
can fail with any fault, that one included. `lostHook_of_explore` says that
there is no other way: where an exploration ends with it, a hook that was
visited has given it.

## Main definitions

* `HookTable.Change`, `HookTable.afterAll`: A table with a history.
* `HookTable.Observed`: The questions that can be asked of a table agree.
* `HookTable.Recorded`: What a change returns, reports and leaves.
* `Hook.call`: The call that a hook is bound to.
* `HookTable.Dispatched`: What using the hook at an address comes to.

## Theorems

* `lookup_afterAll`: The hook at an address after any history.
* `observed`, `recorded`, `dispatched`: These hold of every table.
* `invocation_of_dispatch`: What is bound knows the call of its hook.
* `exists_fault`: Where the fault of a walk has come from.
* `lostHook_of_explore`: No hook gets lost.
* `hooks_agree`: Tables and dispatch agree after any history.
* `hooks_agree_replaced`: A hook that was replaced, and one that was taken away.
-/

namespace CallSummary

namespace HookTable

/-- One change of a table. -/
inductive Change where
  | hook (address : Word) (summary : Summary)
  | hookWith (address : Word) (convention : CallingConvention) (summary : Summary)
  | insert (address : Word) (hook : Hook)
  | unhook (address : Word)

/-- The address that is changed. -/
def Change.address : Change → Word
  | .hook address _ => address
  | .hookWith address _ _ => address
  | .insert address _ => address
  | .unhook address => address

/-- The hook that the change leaves at its address. -/
def Change.hook? : Change → Option Hook
  | .hook _ summary => some { summary := summary }
  | .hookWith _ convention summary => some { summary := summary, convention := some convention }
  | .insert _ placed => some placed
  | .unhook _ => none

/-- What a change comes to. Nothing is reported of a hook that is taken away. -/
def apply (table : HookTable) : Change → Insertion
  | .hook address summary => table.insert address { summary := summary }
  | .hookWith address convention summary =>
      table.insert address { summary := summary, convention := some convention }
  | .insert address hook => table.insert address hook
  | .unhook address => ⟨(table.erase address).previous, (table.erase address).table, []⟩

/-- The table after the changes, made in order to one without a hook. -/
def afterAll (changes : List Change) : HookTable :=
  changes.foldl (fun table change => (table.apply change).table) empty

/-- What the change says about an address: nothing, or which hook is there if
    any. -/
def Change.says? (address : Word) (change : Change) : Option (Option Hook) :=
  if change.address = address then some change.hook? else none

theorem lookup_apply (table : HookTable) (change : Change) (address : Word) :
    (table.apply change).table.lookup? address =
      if change.address = address then change.hook? else table.lookup? address := by
  cases change with
  | hook other summary => exact lookup?_insert table other address _
  | hookWith other convention summary => exact lookup?_insert table other address _
  | insert other hook => exact lookup?_insert table other address hook
  | unhook other => exact lookup?_erase table other address

/-- After any history the hook at an address is the one that the last change
    there has left. -/
theorem lookup_afterAll (changes : List Change) (address : Word) :
    (afterAll changes).lookup? address = (changes.filterMap (·.says? address)).getLast?.join := by
  have hlast := answer_foldl (fun table change => (apply table change).table)
    (fun table => some (table.lookup? address)) (·.says? address) ?_ changes empty
  · rw [lookup?_empty] at hlast
    unfold afterAll
    -- A change says that there is no hook, and so does an empty history.
    cases hsaid : (changes.filterMap (·.says? address)).getLast? with
    | none =>
        rw [hsaid, Option.none_or, Option.some.injEq] at hlast
        exact hlast
    | some said =>
        rw [hsaid, Option.some_or, Option.some.injEq] at hlast
        exact hlast
  · intro table change
    rw [lookup_apply]
    unfold Change.says?
    by_cases h : change.address = address
    · rw [if_pos h, if_pos h, Option.some_or]
    · rw [if_neg h, if_neg h, Option.none_or]

/-- What can be asked of a table comes down to which hooks are found. -/
structure Observed (table : HookTable) : Prop where
  isHooked : ∀ address, table.isHooked address = (table.lookup? address).isSome
  ascending : table.addresses.Pairwise (· < ·)
  mem_addresses : ∀ address, address ∈ table.addresses ↔ (table.lookup? address).isSome
  size : table.size = table.addresses.length
  isEmpty : table.isEmpty = true ↔ ∀ address, table.lookup? address = none

theorem observed (table : HookTable) : table.Observed where
  isHooked := table.isHooked_eq
  ascending := by
    refine Std.ExtTreeMap.ordered_keys.imp fun h => ?_
    exact Std.compare_eq_lt.mp h
  mem_addresses address := by
    unfold addresses lookup?
    rw [Std.ExtTreeMap.mem_keys, Std.ExtTreeMap.mem_iff_isSome_getElem?]
  size := Std.ExtTreeMap.length_keys.symm
  isEmpty := by
    unfold isEmpty lookup?
    rw [Std.ExtTreeMap.isEmpty_iff]
    constructor
    · intro h address
      rw [h, Std.ExtTreeMap.getElem?_empty]
    · intro h
      refine Std.ExtTreeMap.ext_getElem? fun address => ?_
      rw [h address, Std.ExtTreeMap.getElem?_empty]

/-- A change returns the hook that was there, leaves its own one there, and no
    other address is touched. It is reported if a hook takes the place of
    another. -/
structure Recorded (table : HookTable) (change : Change) : Prop where
  previous : (table.apply change).previous = table.lookup? change.address
  changed : (table.apply change).table.lookup? change.address = change.hook?
  kept : ∀ other, other ≠ change.address →
    (table.apply change).table.lookup? other = table.lookup? other
  journal : (table.apply change).journal =
    if change.hook?.isSome ∧ (table.lookup? change.address).isSome then
      [.replaced change.address]
    else []

theorem recorded (table : HookTable) (change : Change) : table.Recorded change where
  previous := by cases change <;> rfl
  changed := by rw [lookup_apply, if_pos rfl]
  kept other h := by rw [lookup_apply, if_neg fun hc => h hc.symm]
  journal := by
    cases change with
    | unhook address => rfl
    | _ => simp [apply, insert, Change.hook?, Change.address]

end HookTable

/-- The call that the hook is bound to. -/
def Hook.call (hook : Hook) (registry : Registry) (arch : Architecture) (caller : Option Word) :
    Invocation where
  caller := caller
  architecture := arch
  convention := hook.convention.or (registry.preferred? arch)

/-- What using the hook at an address comes to. Only where there is none it
    comes to nothing. Otherwise a fresh summary is bound to the call of the
    hook, unless its preparation fails, which is given that call too. And
    wherever it runs, what it asks for is answered for that call. -/
structure HookTable.Dispatched (table : HookTable) (address : Word) (registry : Registry)
    (arch : Architecture) (caller : Option Word) : Prop where
  none_iff : table.dispatch? address registry arch caller = none ↔
    table.isHooked address = false
  bound : ∀ hook, table.lookup? address = some hook → ∃ binding,
    table.dispatch? address registry arch caller = some binding ∧
      binding.result = (hook.summary.prepare (hook.call registry arch caller)).map
        fun _ => ⟨hook.summary, hook.call registry arch caller, none⟩
  answers : ∀ hook binding bound machine names, table.lookup? address = some hook →
    table.dispatch? address registry arch caller = some binding → binding.result = .ok bound →
      Setting.Answers ⟨registry, hook.call registry arch caller⟩
        (bound.execute registry machine names).run.transcript
  invocation : ∀ hook binding bound machine names reply, table.lookup? address = some hook →
    table.dispatch? address registry arch caller = some binding → binding.result = .ok bound →
      (Entry.performed .invocation reply).Within
          (bound.execute registry machine names).run.transcript →
        reply = .ok (hook.call registry arch caller)

namespace HookTable

variable (table : HookTable) (address : Word) (registry : Registry) (arch : Architecture)
  (caller : Option Word)

theorem dispatch_eq_none_iff :
    table.dispatch? address registry arch caller = none ↔ table.isHooked address = false := by
  unfold dispatch?
  rw [Option.map_eq_none_iff, isHooked_eq, Option.isSome_eq_false_iff, Option.isNone_iff_eq_none]

theorem exists_binding (hook : Hook) (h : table.lookup? address = some hook) :
    ∃ binding, table.dispatch? address registry arch caller = some binding ∧
      binding.result = (hook.summary.prepare (hook.call registry arch caller)).map
        fun _ => ⟨hook.summary, hook.call registry arch caller, none⟩ := by
  unfold dispatch?
  rw [h, Option.map_some]
  exact ⟨_, rfl, hook.summary.bind_result registry arch caller hook.convention⟩

/-- What is bound at an address is bound to the call of its hook. -/
theorem invocation_of_dispatch (hook : Hook) (binding : Binding) (bound : Bound)
    (h : table.lookup? address = some hook)
    (hdispatch : table.dispatch? address registry arch caller = some binding)
    (hbound : binding.result = .ok bound) :
    bound.invocation = hook.call registry arch caller := by
  rcases table.exists_binding address registry arch caller hook h with ⟨other, hother, hresult⟩
  rw [hdispatch, Option.some.injEq] at hother
  subst hother
  rw [hbound] at hresult
  rcases (Outcome.map_eq_ok_iff _ _ bound).mp hresult.symm with ⟨_, _, rfl⟩
  rfl

theorem dispatched : table.Dispatched address registry arch caller where
  none_iff := table.dispatch_eq_none_iff address registry arch caller
  bound := table.exists_binding address registry arch caller
  answers hook binding bound machine names h hdispatch hbound := by
    rw [← table.invocation_of_dispatch address registry arch caller hook binding bound h hdispatch
      hbound]
    exact bound.answers_execute registry machine names
  invocation hook binding bound machine names reply h hdispatch hbound hwithin := by
    rw [← table.invocation_of_dispatch address registry arch caller hook binding bound h hdispatch
      hbound]
    exact Setting.invocation_of_within _ _ reply (bound.answers_execute registry machine names)
      hwithin

end HookTable

namespace Explorer

/-- What ends a walk with a fault is the limit or the last of its steps, by
    induction on the number of steps. -/
theorem exists_fault (explorer : Explorer) (limit steps : Nat) (fault : Fault) :
    ∀ position : Position, (explorer.walk limit steps position).result = .error fault →
      fault = .internal (.stepLimit limit) ∨ ∃ i stop, i < steps ∧
        explorer.follow i position = some stop ∧ (explorer.advance stop).result = .error fault := by
  induction steps with
  | zero =>
      intro position h
      cases h
      exact .inl rfl
  | succ steps ih =>
      intro position h
      cases hnext : explorer.next? position with
      | none =>
          rw [explorer.walk_of_next_none limit steps position hnext] at h
          have hmap : (explorer.advance position).result.map (fun _ => ()) = .error fault := h
          refine .inr ⟨0, position, Nat.succ_pos steps, rfl, ?_⟩
          cases hresult : (explorer.advance position).result with
          | error cause =>
              rw [hresult] at hmap
              cases hmap
              rfl
          | ok found =>
              rw [hresult] at hmap
              cases hmap
      | some next =>
          rw [explorer.walk_of_next_some limit steps position next hnext] at h
          rcases ih next h with hlimit | ⟨i, stop, hi, hfollow, hstop⟩
          · exact .inl hlimit
          · -- Seen from one step further back, the fault is one step later.
            refine .inr ⟨i + 1, stop, Nat.succ_lt_succ hi, ?_, hstop⟩
            rw [follow, hnext, Option.bind_some]
            exact hfollow

/-- The explorer itself fails for a machine that cannot be read or written, or
    for a target that is not known. -/
theorem proceed_eq_error (visit : Visit Flow) (fault : Fault)
    (h : (proceed visit).result = .error fault) :
    visit.result = .error fault ∨ (∃ cause, fault = .access cause) ∨
      ∃ target, fault = .internal (.symbolicTarget target) := by
  unfold proceed at h
  cases hresult : visit.result with
  | error cause =>
      simp only [hresult, Except.error.injEq] at h
      exact .inl (congrArg Except.error h)
  | ok flow =>
      right
      simp only [hresult] at h
      cases htarget : visit.machine.target? flow with
      | error cause =>
          simp only [htarget, Except.error.injEq] at h
          exact .inl ⟨cause, h.symm⟩
      | ok found =>
          cases found with
          | none => simp only [htarget, reduceCtorEq] at h
          | some target =>
              simp only [htarget] at h
              cases hword : target.word? with
              | none =>
                  simp only [hword, Except.error.injEq] at h
                  exact .inr ⟨target, h.symm⟩
              | some address =>
                  simp only [hword, Machine.jump_eq_done, Outcome.result_done, Except.mapError,
                    Except.map, reduceCtorEq] at h

/-- A block is missing, or fails at the machine. -/
theorem runBlock_eq_error (explorer : Explorer) (position : Position) (fault : Fault)
    (h : (explorer.runBlock position).result = .error fault) :
    fault = .invalidArgument (.noCode position.address) ∨ ∃ cause, fault = .access cause := by
  unfold runBlock at h
  cases hblock : explorer.blocks[position.address]? with
  | none =>
      simp only [hblock, Except.error.injEq] at h
      exact .inl h.symm
  | some block =>
      simp only [hblock] at h
      cases hresult : (block.execute explorer.registry position.machine).result with
      | error cause =>
          simp only [hresult, Except.mapError, Except.error.injEq] at h
          exact .inr ⟨cause, h.symm⟩
      | ok flow => simp only [hresult, Except.mapError, reduceCtorEq] at h

/-- An exploration has no fault of its own for a hook that is lost. If it ends
    with it, then a hook that was visited has failed with it. -/
theorem lostHook_of_explore (explorer : Explorer) (machine : Machine) (names : NameSupply)
    (entry address : Word) (limit : Nat)
    (h : (explorer.explore machine names entry limit).result =
      .error (.internal (.lostHook address))) :
    ∃ i stop hook, i < limit ∧ explorer.follow i ⟨entry, none, machine, names⟩ = some stop ∧
      explorer.hooks.lookup? stop.address = some hook ∧
      (hook.visit explorer.registry stop).1 = .error (.internal (.lostHook address)) := by
  rcases explorer.exists_fault limit limit _ _ h with hlimit | ⟨i, stop, hi, hfollow, hstop⟩
  · cases hlimit
  · rcases proceed_eq_error _ _ hstop with hunit | ⟨cause, haccess⟩ | ⟨target, hsymbolic⟩
    · by_cases hhooked : explorer.hooks.isHooked stop.address = true
      · unfold runUnit at hunit
        rw [if_pos hhooked] at hunit
        rw [HookTable.isHooked_eq, Option.isSome_iff_exists] at hhooked
        rcases hhooked with ⟨hook, hhook⟩
        have hvisit := explorer.observed_runHook stop hook hhook
        refine ⟨i, stop, hook, hi, hfollow, hhook, ?_⟩
        rw [← hvisit]
        exact hunit
      · unfold runUnit at hunit
        rw [if_neg hhooked] at hunit
        -- Blocks fail in other ways.
        rcases explorer.runBlock_eq_error stop _ hunit with hcode | ⟨cause, haccess⟩
        · cases hcode
        · cases haccess
    · cases haccess
    · cases hsymbolic

end Explorer

/-- After any history a table and the use of its hooks agree. The hook at an
    address is the one that the last change there has left, all questions
    about the table come down to which hooks are found, and a change is
    recorded. A hook is used where one is found, for the call that it and the
    registry make up, and everything in it sees that call. So no hook gets lost:
    an exploration that ends with that fault has it from a hook. -/
theorem HookTable.hooks_agree (changes : List HookTable.Change) :
    (∀ address, (afterAll changes).lookup? address =
        (changes.filterMap (·.says? address)).getLast?.join) ∧
      (afterAll changes).Observed ∧
      (∀ change, (afterAll changes).Recorded change) ∧
      (∀ address registry arch caller,
        (afterAll changes).Dispatched address registry arch caller) ∧
      ∀ (explorer : Explorer) (machine : Machine) (names : NameSupply) (entry address : Word)
        (limit : Nat),
          (explorer.explore machine names entry limit).result =
              .error (.internal (.lostHook address)) →
            ∃ i stop hook, i < limit ∧
              explorer.follow i ⟨entry, none, machine, names⟩ = some stop ∧
              explorer.hooks.lookup? stop.address = some hook ∧
              (hook.visit explorer.registry stop).1 = .error (.internal (.lostHook address)) :=
  ⟨lookup_afterAll changes, observed _, recorded _, dispatched _, Explorer.lostHook_of_explore⟩

/-- A hook that was replaced by one with a convention of its own, and one that
    was taken away. The one that is left claims to be lost. -/
theorem HookTable.hooks_agree_replaced :
    let faulty : Summary := { name := "faulty", program := .fail (.internal (.lostHook 7)) }
    let changes : List Change :=
      [.hook 0x10 .returnVoid, .hook 0x20 .exit, .hookWith 0x10 .syscall faulty, .unhook 0x20]
    let table := afterAll changes
    let explorer : Explorer := ⟨∅, table, .builtin⟩
    (∃ binding bound, table.dispatch? 0x10 .builtin .amd64 (some 0x8) = some binding ∧
        binding.result = .ok bound ∧ bound.invocation = ⟨some 0x8, .amd64, some .syscall⟩) ∧
      table.dispatch? 0x20 .builtin .amd64 none = none ∧
      (table.apply (.hook 0x10 .exit)).journal = [.replaced 0x10] ∧
      (table.apply (.hook 0x20 .exit)).table.lookup? 0x10 = table.lookup? 0x10 ∧
      ∃ stop hook, explorer.hooks.lookup? stop.address = some hook ∧
        (hook.visit explorer.registry stop).1 = .error (.internal (.lostHook 7)) := by
  intro faulty changes table explorer
  have hagree := hooks_agree changes
  have hfaulty : table.lookup? 0x10 = some ⟨faulty, some .syscall⟩ := hagree.1 0x10
  have hnone : table.lookup? 0x20 = none := hagree.1 0x20
  refine ⟨?_, ?_, ?_, ?_, ?_⟩
  · rcases (hagree.2.2.2.1 0x10 .builtin .amd64 (some 0x8)).bound _ hfaulty with
      ⟨binding, hdispatch, hresult⟩
    exact ⟨binding, _, hdispatch, hresult, rfl⟩
  · refine (hagree.2.2.2.1 0x20 .builtin .amd64 none).none_iff.mpr ?_
    rw [hagree.2.1.isHooked, hnone]
    rfl
  · rw [(hagree.2.2.1 (.hook 0x10 .exit)).journal]
    exact if_pos ⟨rfl, by rw [Change.address, hfaulty]; rfl⟩
  · exact (hagree.2.2.1 (.hook 0x20 .exit)).kept 0x10 (by decide)
  · have hlost : (explorer.explore (.new .amd64) ⟨0⟩ 0x10 1).result =
        .error (.internal (.lostHook 7)) := rfl
    rcases hagree.2.2.2.2 explorer _ _ _ _ 1 hlost with
      ⟨_, stop, hook, _, _, hhook, hvisit⟩
    exact ⟨stop, hook, hhook, hvisit⟩

end CallSummary
