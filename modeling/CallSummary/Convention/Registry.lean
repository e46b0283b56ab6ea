import CallSummary.Architecture.Basic
import CallSummary.Convention.Basic
import CallSummary.Convention.Placement

/-!
# The Registry of Conventions

Where arguments and return values are depends on the architecture and, for
arguments, on the convention. A registry answers such questions from one row of
rules per architecture. Rows change only through `Registry.update`, which leaves
every other row alone, and a row has one entry per question, so what counts is
the last thing that was said. Nothing takes an entry back.

An architecture declares its conventions as a bundle. Its parts that are absent
say nothing, so they leave the entries of the row as they are.

## Main definitions

* `ReturnSequence`: How control goes back to the caller.
* `Declaration`: The conventions that an architecture declares.
* `Rules`: One row of the registry.
* `Registry`: A row for every architecture.
* `Registry.declare`: The registry with a declaration entered.
* `Registry.resolve`: The convention a call uses.

## Theorems

* `Registry.update_same`, `Registry.update_other`: An update changes its own row
  only.
* `Rules.placement_setPlacement`: The placement read back after one is set.
-/

namespace CallSummary

/-- How control goes back to the caller. -/
inductive ReturnSequence where
  | popStack
  | linkRegister (register : Register)
deriving DecidableEq

/-- The conventions that an architecture declares. -/
structure Declaration where
  /-- The convention of calls that ask for none. -/
  preferred : Option CallingConvention
  placements : List (CallingConvention × Placement)
  returnRegister : Option Register
  returnSequence : Option ReturnSequence
deriving DecidableEq

/-- The declaration that says nothing. -/
def Declaration.empty : Declaration where
  preferred := none
  placements := []
  returnRegister := none
  returnSequence := none

/-- What a registry knows of one architecture. -/
@[ext]
structure Rules where
  placement : CallingConvention → Option Placement
  /-- The convention of calls that ask for none. -/
  preferred : Option CallingConvention
  returnRegister : Option Register
  returnSequence : Option ReturnSequence

namespace Rules

/-- The row without an entry. -/
def empty : Rules where
  placement := fun _ => none
  preferred := none
  returnRegister := none
  returnSequence := none

/-- The row in which the convention has the given placement. -/
def setPlacement (rules : Rules) (convention : CallingConvention) (placement : Placement) : Rules :=
  { rules with
    placement := fun other => if other = convention then some placement else rules.placement other }

/-- The row with the given convention for calls that ask for none. -/
def setPreferred (rules : Rules) (convention : CallingConvention) : Rules :=
  { rules with preferred := some convention }

/-- The row with the given register for return values. -/
def setReturnRegister (rules : Rules) (register : Register) : Rules :=
  { rules with returnRegister := some register }

/-- The row with the given way back to the caller. -/
def setReturnSequence (rules : Rules) (sequence : ReturnSequence) : Rules :=
  { rules with returnSequence := some sequence }

/-- The row with everything entered that the declaration says: the placements in
    order, so that the later of two for one convention stays, and the other
    parts where they are present. -/
def declare (rules : Rules) (declaration : Declaration) : Rules :=
  -- An absent part falls back on the entry that is there.
  let placed := declaration.placements.foldl (fun rules entry => rules.setPlacement entry.1 entry.2)
    rules
  { placed with
    preferred := declaration.preferred.or rules.preferred
    returnRegister := declaration.returnRegister.or rules.returnRegister
    returnSequence := declaration.returnSequence.or rules.returnSequence }

theorem placement_setPlacement (rules : Rules) (convention other : CallingConvention)
    (placement : Placement) :
    (rules.setPlacement convention placement).placement other =
      if other = convention then some placement else rules.placement other := rfl

end Rules

/-- The rules of every architecture. -/
@[ext]
structure Registry where
  rules : Architecture → Rules

namespace Registry

/-- The registry without an entry. -/
def empty : Registry where
  rules := fun _ => Rules.empty

/-- The registry in which the row of one architecture has been changed. -/
def update (registry : Registry) (arch : Architecture) (change : Rules → Rules) : Registry where
  rules := fun other => if other = arch then change (registry.rules arch) else registry.rules other

@[simp] theorem update_same (registry : Registry) (arch : Architecture) (change : Rules → Rules) :
    (registry.update arch change).rules arch = change (registry.rules arch) := by
  simp [update]

theorem update_other (registry : Registry) {arch other : Architecture} (change : Rules → Rules)
    (h : other ≠ arch) : (registry.update arch change).rules other = registry.rules other := by
  simp [update, h]

/-- The registry with a declaration of the architecture entered. -/
def declare (registry : Registry) (arch : Architecture) (declaration : Declaration) : Registry :=
  registry.update arch (·.declare declaration)

/-- The registry in which the convention places arguments as given. -/
def setPlacement (registry : Registry) (arch : Architecture) (convention : CallingConvention)
    (placement : Placement) : Registry :=
  registry.update arch (·.setPlacement convention placement)

/-- The registry with the given convention for calls that ask for none. -/
def setPreferred (registry : Registry) (arch : Architecture) (convention : CallingConvention) :
    Registry :=
  registry.update arch (·.setPreferred convention)

/-- The registry with the given register for return values. -/
def setReturnRegister (registry : Registry) (arch : Architecture) (register : Register) :
    Registry :=
  registry.update arch (·.setReturnRegister register)

/-- The registry with the given way back to the caller. -/
def setReturnSequence (registry : Registry) (arch : Architecture) (sequence : ReturnSequence) :
    Registry :=
  registry.update arch (·.setReturnSequence sequence)

/-- How the convention places arguments on the architecture. -/
def placement? (registry : Registry) (arch : Architecture) (convention : CallingConvention) :
    Option Placement :=
  (registry.rules arch).placement convention

/-- The convention of calls on the architecture that ask for none. -/
def preferred? (registry : Registry) (arch : Architecture) : Option CallingConvention :=
  (registry.rules arch).preferred

/-- The register that receives return values on the architecture. -/
def returnRegister? (registry : Registry) (arch : Architecture) : Option Register :=
  (registry.rules arch).returnRegister

/-- How control goes back to the caller on the architecture. -/
def returnSequence? (registry : Registry) (arch : Architecture) : Option ReturnSequence :=
  (registry.rules arch).returnSequence

/-- The convention a call uses: the one it asks for, even if the architecture
    has no placement for it, and else the preferred one. -/
def resolve (registry : Registry) (arch : Architecture) (requested : Option CallingConvention) :
    Option CallingConvention :=
  requested.or (registry.preferred? arch)

/-- The conventions that have a placement on the architecture, in their
    order. -/
def conventions (registry : Registry) (arch : Architecture) : List CallingConvention :=
  CallingConvention.all.filter fun convention => (registry.placement? arch convention).isSome

theorem mem_conventions {registry : Registry} {arch : Architecture}
    {convention : CallingConvention} :
    convention ∈ registry.conventions arch ↔
      (registry.placement? arch convention).isSome = true := by
  simp [conventions, CallingConvention.mem_all]

end Registry

end CallSummary
