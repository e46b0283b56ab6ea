import CallSummary.Proofs.Machine.Access
import CallSummary.Summary.Library

/-!
# Binding a Summary

What a bound summary knows of its call, and what it does with the caller.

Binding can only fail in the preparation of the summary. If it does not, the
bound summary is the one that was bound, no run has left a status yet, and
the call it knows is the one that was described.

Where control came from is part of what a summary knows. Most summaries do
not care. `Summary.IgnoresCaller` is what that means for someone who watches
the machine: another caller would have seen the same preparation succeed or
fail, the same result, and the same activation left. The one operation that
tells a caller is `invocation`, so a program without it cannot care, and the
library has none with it.

## Main definitions

* `Registry.invocation`: The call that a summary is bound to.
* `Invocation.withCaller`: The same call from elsewhere.
* `Summary.IgnoresCaller`: The summary does the same for every caller.
* `Program.NeverAsks`: The program has no node that asks for the call.

## Theorems

* `bind_result_eq_ok_iff`: When a binding succeeds, and what it gives.
* `execute_result_eq_ok_iff`: When an execution succeeds, and what it gives.
* `execute_withCaller`: What ignoring the caller means for an execution.
* `perform_withCaller`: All operations but one are the same for every caller.
* `run_withCaller`: So is a program that never asks.
* `ignoresCaller_returnUnconstrained` and others: The library ignores callers.
-/

namespace CallSummary

/-- The call on an architecture that asks for a convention, as a summary that
    is bound to it knows it. -/
def Registry.invocation (registry : Registry) (arch : Architecture) (caller : Option Word)
    (requested : Option CallingConvention) : Invocation :=
  ⟨caller, arch, registry.resolve arch requested⟩

theorem Summary.bind_result (summary : Summary) (registry : Registry) (arch : Architecture)
    (caller : Option Word) (requested : Option CallingConvention) :
    (summary.bind registry arch caller requested).result =
      (summary.prepare (registry.invocation arch caller requested)).map fun _ =>
        ⟨summary, registry.invocation arch caller requested, none⟩ := by
  unfold bind
  simp only [← Registry.invocation.eq_1]
  cases summary.prepare (registry.invocation arch caller requested) with
  | ok entries => rfl
  | error fault => rfl

theorem Summary.bind_result_eq_ok_iff (summary : Summary) (registry : Registry)
    (arch : Architecture) (caller : Option Word) (requested : Option CallingConvention)
    (bound : Bound) :
    (summary.bind registry arch caller requested).result = .ok bound ↔
      (∃ entries, summary.prepare (registry.invocation arch caller requested) = .ok entries) ∧
        bound = ⟨summary, registry.invocation arch caller requested, none⟩ := by
  rw [summary.bind_result, Outcome.map_eq_ok_iff, exists_and_right, eq_comm]

/-- An execution succeeds with its run, and hands on what the run has left. -/
theorem Bound.execute_result_eq_ok_iff (bound : Bound) (registry : Registry)
    (machine : Machine) (names : NameSupply) (successors : Successors) :
    (bound.execute registry machine names).result = .ok successors ↔
      (∃ status, (bound.execute registry machine names).run.result = .ok status) ∧
        successors = (bound.execute registry machine names).run.activation.successors := by
  have hresult : (bound.execute registry machine names).result =
      (bound.execute registry machine names).run.result.map fun _ =>
        (bound.execute registry machine names).run.activation.successors := rfl
  rw [hresult, Outcome.map_eq_ok_iff, exists_and_right, eq_comm]

/-- The same call, come from elsewhere. -/
def Invocation.withCaller (invocation : Invocation) (caller : Option Word) : Invocation :=
  { invocation with caller := caller }

/-- Whatever the caller, the preparation goes the same way, and a run comes to
    the same result and leaves the same activation. -/
structure Summary.IgnoresCaller (summary : Summary) : Prop where
  prepare : ∀ (invocation : Invocation) (caller : Option Word),
    (summary.prepare (invocation.withCaller caller)).map (fun _ => ()) =
      (summary.prepare invocation).map fun _ => ()
  result : ∀ (registry : Registry) (invocation : Invocation) (caller : Option Word)
    (a : Activation),
    (summary.program.run ⟨registry, invocation.withCaller caller⟩ a).result =
      (summary.program.run ⟨registry, invocation⟩ a).result
  activation : ∀ (registry : Registry) (invocation : Invocation) (caller : Option Word)
    (a : Activation),
    (summary.program.run ⟨registry, invocation.withCaller caller⟩ a).activation =
      (summary.program.run ⟨registry, invocation⟩ a).activation

/-- A bound summary that ignores callers executes in the same way for each. -/
theorem Bound.execute_withCaller (bound : Bound) (registry : Registry) (machine : Machine)
    (names : NameSupply) (caller : Option Word) (h : bound.summary.IgnoresCaller) :
    let other : Bound := { bound with invocation := bound.invocation.withCaller caller }
    (other.execute registry machine names).result =
        (bound.execute registry machine names).result ∧
      (other.execute registry machine names).machine =
        (bound.execute registry machine names).machine ∧
      (other.execute registry machine names).names =
        (bound.execute registry machine names).names := by
  have hresult := h.result registry bound.invocation caller (.start machine names)
  have hleft := h.activation registry bound.invocation caller (.start machine names)
  simp only [execute]
  rw [hresult, hleft]
  exact ⟨rfl, rfl, rfl⟩

-- Arguments are looked for where the setting says, and nothing else of it is
-- used.
theorem Activation.argumentsFrom_congr (first second : Setting)
    (h : ∀ index, first.location index = second.location index) (count : Nat) :
    ∀ (a : Activation) (index : Nat),
      a.argumentsFrom first count index = a.argumentsFrom second count index := by
  induction count with
  | zero => exact fun _ _ => rfl
  | succ count ih =>
      intro a index
      simp only [argumentsFrom, argument, h, ih]

theorem Operation.perform_withCaller (registry : Registry) (invocation : Invocation)
    (caller : Option Word) (op : Operation) (a : Activation) (h : op ≠ .invocation) :
    op.perform ⟨registry, invocation.withCaller caller⟩ a =
      op.perform ⟨registry, invocation⟩ a := by
  cases op with
  | invocation => exact absurd rfl h
  | arguments count =>
      exact Activation.argumentsFrom_congr ⟨registry, invocation.withCaller caller⟩
        ⟨registry, invocation⟩ (fun _ => rfl) count a 0
  | _ => rfl

namespace Program

/-- No node of the program asks for the call, whatever it is told. -/
def NeverAsks : Program → Prop
  | finish _ => True
  | fail _ => True
  | perform op next => op ≠ .invocation ∧ ∀ reply, (next reply).NeverAsks
  | fork body next => body.NeverAsks ∧ ∀ reply, (next reply).NeverAsks
  | inline _ body next => body.NeverAsks ∧ ∀ reply, (next reply).NeverAsks

/-- A program that never asks runs in the same way for every caller. -/
theorem run_withCaller (registry : Registry) (invocation : Invocation) (caller : Option Word)
    (program : Program) : program.NeverAsks → ∀ a : Activation,
      program.run ⟨registry, invocation.withCaller caller⟩ a =
        program.run ⟨registry, invocation⟩ a := by
  induction program with
  | finish status => exact fun _ _ => rfl
  | fail fault => exact fun _ _ => rfl
  | perform op next ih =>
      intro hasks a
      simp only [run]
      rw [op.perform_withCaller registry invocation caller a hasks.1, ih _ (hasks.2 _)]
  | fork body next ihbody ih =>
      intro hasks a
      simp only [run]
      rw [ihbody hasks.1, ih _ (hasks.2 _)]
  | inline name body next ihbody ih =>
      intro hasks a
      simp only [run]
      rw [ihbody hasks.1, ih _ (hasks.2 _)]

theorem neverAsks_ask (op : Operation) (next : op.Reply → Program) (hop : op ≠ .invocation)
    (hnext : ∀ answer, (next answer).NeverAsks) : (ask op next).NeverAsks := by
  refine ⟨hop, ?_⟩
  intro reply
  cases reply with
  | error fault => trivial
  | ok answer => exact hnext answer

theorem neverAsks_doReturn : doReturn.NeverAsks :=
  neverAsks_ask .doReturn _ (by nofun) fun _ => trivial

end Program

namespace Summary

/-- A summary without a preparation of its own, whose program never asks. -/
theorem ignoresCaller_of_neverAsks (name : String) (program : Program)
    (h : program.NeverAsks) : (Summary.mk name (fun _ => .ok []) program).IgnoresCaller where
  prepare _ _ := rfl
  result registry invocation caller a := by
    rw [program.run_withCaller registry invocation caller h]
  activation registry invocation caller a := by
    rw [program.run_withCaller registry invocation caller h]

theorem ignoresCaller_returnUnconstrained : returnUnconstrained.IgnoresCaller := by
  refine ignoresCaller_of_neverAsks _ _ ?_
  refine Program.neverAsks_ask .returnRegister _ (by nofun) fun register => ?_
  refine Program.neverAsks_ask (.freshName _) _ (by nofun) fun name => ?_
  exact Program.neverAsks_ask (.setReturn _) _ (by nofun) fun _ => Program.neverAsks_doReturn

theorem ignoresCaller_returnConstant (word : Word) : (returnConstant word).IgnoresCaller := by
  refine ignoresCaller_of_neverAsks _ _ ?_
  refine Program.neverAsks_ask .returnRegister _ (by nofun) fun register => ?_
  exact Program.neverAsks_ask (.setReturn _) _ (by nofun) fun _ => Program.neverAsks_doReturn

theorem ignoresCaller_returnVoid : returnVoid.IgnoresCaller :=
  ignoresCaller_of_neverAsks _ _ Program.neverAsks_doReturn

theorem ignoresCaller_returnArgument (index : Nat) : (returnArgument index).IgnoresCaller := by
  refine ignoresCaller_of_neverAsks _ _ ?_
  exact Program.neverAsks_ask (.forwardArgument index) _ (by nofun)
    fun _ => Program.neverAsks_doReturn

theorem ignoresCaller_exit : exit.IgnoresCaller := by
  refine ignoresCaller_of_neverAsks _ _ ?_
  refine Program.neverAsks_ask (.argument 0) _ (by nofun) fun status => ?_
  exact Program.neverAsks_ask .halt _ (by nofun) fun _ => trivial

end Summary

end CallSummary
