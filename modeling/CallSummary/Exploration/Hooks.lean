import Std.Data.ExtTreeMap
import CallSummary.Summary.Basic

/-!
# Hooks

A hook puts a summary in the place of the code at an address, and may ask for a
convention other than the preferred one of the architecture. A table holds at
most one hook per address; a hook that is put where another was takes its place,
which is reported.

## Main definitions

* `Hook`: A summary with the convention it asks for.
* `HookTable`: The hooks by address.
* `HookTable.insert`, `HookTable.erase`: Put a hook at an address, take it away.
* `HookTable.dispatch?`: Bind the summary that stands at an address.

## Theorems

* `HookTable.lookup?_insert`, `HookTable.lookup?_erase`: The table after a
  change.
* `HookTable.isHooked_eq`: An address is hooked when a hook is found at it.
-/

namespace CallSummary

/-- A summary that stands in for the code at an address. -/
structure Hook where
  summary : Summary
  /-- The convention that is asked for, if any. -/
  convention : Option CallingConvention := none

/-- The long form of a hook, which shows the convention it asks for. -/
def Hook.describe (hook : Hook) : String :=
  let convention :=
    match hook.convention with
    | some convention => "Some(" ++ convention.title ++ ")"
    | none => "None"
  "Hook \x7b convention: " ++ convention ++ ", .. \x7d"

/-- The hooks by address. -/
structure HookTable where
  hooks : Std.ExtTreeMap Word Hook

/-- What putting a hook at an address has come to. -/
structure Insertion where
  /-- The hook that was there. -/
  previous : Option Hook
  table : HookTable
  journal : List Event

/-- What taking a hook away has come to. -/
structure Removal where
  /-- The hook that was there. -/
  previous : Option Hook
  table : HookTable

namespace HookTable

/-- The table without a hook. -/
def empty : HookTable where
  hooks := ∅

/-- The hook at the address. -/
def lookup? (table : HookTable) (address : Word) : Option Hook :=
  table.hooks[address]?

/-- Whether there is a hook at the address. -/
def isHooked (table : HookTable) (address : Word) : Bool :=
  table.hooks.contains address

/-- The addresses that have a hook, ascending. -/
def addresses (table : HookTable) : List Word :=
  table.hooks.keys

/-- How many addresses have a hook. -/
def size (table : HookTable) : Nat :=
  table.hooks.size

/-- Whether no address has a hook. -/
def isEmpty (table : HookTable) : Bool :=
  table.hooks.isEmpty

/-- Put a hook at the address, in the place of the one that may be there. -/
def insert (table : HookTable) (address : Word) (hook : Hook) : Insertion :=
  let previous := table.lookup? address
  { previous := previous
    table := ⟨table.hooks.insert address hook⟩
    journal := if previous.isSome then [.replaced address] else [] }

/-- Take the hook at the address away. -/
def erase (table : HookTable) (address : Word) : Removal where
  previous := table.lookup? address
  table := ⟨table.hooks.erase address⟩

/-- Bind the summary that stands at the address; `none` if there is none. -/
def dispatch? (table : HookTable) (address : Word) (registry : Registry)
    (architecture : Architecture) (caller : Option Word) : Option Binding :=
  (table.lookup? address).map fun hook =>
    let binding := hook.summary.bind registry architecture caller hook.convention
    { binding with journal := .dispatching address :: binding.journal }

@[simp] theorem lookup?_empty (address : Word) : empty.lookup? address = none := by
  simp [empty, lookup?]

theorem lookup?_insert (table : HookTable) (address other : Word) (hook : Hook) :
    (table.insert address hook).table.lookup? other =
      if address = other then some hook else table.lookup? other := by
  simp [insert, lookup?, Std.ExtTreeMap.getElem?_insert]

theorem lookup?_erase (table : HookTable) (address other : Word) :
    (table.erase address).table.lookup? other =
      if address = other then none else table.lookup? other := by
  simp [erase, lookup?, Std.ExtTreeMap.getElem?_erase]

theorem isHooked_eq (table : HookTable) (address : Word) :
    table.isHooked address = (table.lookup? address).isSome := by
  simp [isHooked, lookup?]

end HookTable

end CallSummary
