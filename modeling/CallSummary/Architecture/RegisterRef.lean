import CallSummary.Architecture.Basic

/-!
# Register References

Who writes down which register to use need not know the architecture yet. A
reference says what is meant: a register by its name, or one that is given in
full. Only a machine settles it. One name may mean different registers on
different architectures, and none on some.

## Main definitions

* `RegisterRef`: A register as it is asked for.
* `RegisterRef.resolve`: The register that is meant on an architecture.

## Theorems

* `RegisterRef.resolve_named_eq_ok_iff`: A name means what the architecture has
  under it.
* `RegisterRef.resolve_given`: A register given in full means itself everywhere.
-/

namespace CallSummary

/-- A register as it is asked for. -/
inductive RegisterRef where
  /-- The register that has the name on the architecture at hand. -/
  | named (name : String)
  /-- The given register, on any architecture. -/
  | given (register : Register)
deriving DecidableEq

/-- A name that no register of the architecture has. -/
structure UnknownRegister where
  name : String
  architecture : Architecture
deriving DecidableEq

/-- What is said of a name that no register has. -/
def UnknownRegister.message (e : UnknownRegister) : String :=
  "unknown register " ++ e.name ++ " on " ++ e.architecture.name

namespace RegisterRef

/-- The register that is meant on the architecture. -/
def resolve (arch : Architecture) : RegisterRef → Except UnknownRegister Register
  | named name =>
    match arch.register? name with
    | some register => .ok register
    | none => .error ⟨name, arch⟩
  | given register => .ok register

theorem resolve_named_eq_ok_iff {arch : Architecture} {name : String} {register : Register} :
    (named name).resolve arch = .ok register ↔ arch.register? name = some register := by
  cases h : arch.register? name <;> simp [resolve, h]

@[simp] theorem resolve_given (arch : Architecture) (register : Register) :
    (given register).resolve arch = .ok register := rfl

end RegisterRef

end CallSummary
