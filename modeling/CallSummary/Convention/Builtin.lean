import CallSummary.Convention.Registry

/-!
# The Declared Conventions

What each architecture declares: where its conventions place arguments, which
register receives return values, and how control goes back to the caller. A
convention is added to an architecture by extending its declaration here.

## Main definitions

* `Architecture.declaration`: What an architecture declares.
* `Registry.builtin`: The registry of all declarations.

## Theorems

* `Registry.rules_builtin`: The row of an architecture holds its own declaration
  and no other.
* `Registry.of_rows_builtin`: What can be checked row by row holds of every
  built-in placement.
-/

namespace CallSummary

namespace Amd64

/-- Calls push the return address, so stack arguments start one slot up;
    Microsoft's convention reserves four more slots for the registers. -/
def declaration : Declaration where
  preferred := some .systemV
  placements :=
    [(.systemV, ⟨[rdi, rsi, rdx, rcx, r8, r9], 1, -8⟩),
      (.syscall, ⟨[rdi, rsi, rdx, r10, r8, r9], 1, -8⟩),
      (.microsoftX64, ⟨[rcx, rdx, r8, r9], 5, -8⟩)]
  returnRegister := some rax
  returnSequence := some .popStack

end Amd64

namespace X86

/-- Calls push the return address; all arguments but those of system calls are
    on the stack. -/
def declaration : Declaration where
  preferred := some .cdecl
  placements :=
    [(.cdecl, ⟨[], 1, -4⟩),
      (.syscall, ⟨[ebx, ecx, edx, esi, edi, ebp], 1, -4⟩)]
  returnRegister := some eax
  returnSequence := some .popStack

end X86

namespace Arm

/-- The return address is in a register, so stack arguments start at the stack
    pointer. -/
def declaration : Declaration where
  preferred := some .arm
  placements := [(.arm, ⟨[r0, r1, r2, r3], 0, -4⟩)]
  returnRegister := some r0
  returnSequence := some (.linkRegister lr)

end Arm

namespace Aarch64

/-- The return address is in a register, so stack arguments start at the stack
    pointer. -/
def declaration : Declaration where
  preferred := some .aapcs64
  placements :=
    [(.aapcs64, ⟨[x0, x1, x2, x3, x4, x5, x6, x7], 0, -8⟩),
      (.syscall, ⟨[x0, x1, x2, x3, x4, x5], 0, -8⟩)]
  returnRegister := some x0
  returnSequence := some (.linkRegister x30)

end Aarch64

namespace Mips32

/-- The caller reserves four slots as a home for the argument registers. -/
def declaration : Declaration where
  preferred := some .mipsO32
  placements := [(.mipsO32, ⟨[a0, a1, a2, a3], 4, -4⟩)]
  returnRegister := some v0
  returnSequence := some (.linkRegister ra)

end Mips32

/-- What the architecture declares. -/
def Architecture.declaration : Architecture → Declaration
  | .amd64 => Amd64.declaration
  | .x86 => X86.declaration
  | .arm => Arm.declaration
  | .aarch64 => Aarch64.declaration
  | .mips32 => Mips32.declaration

/-- The registry that holds every declaration. -/
def Registry.builtin : Registry :=
  Architecture.all.foldl (fun registry arch => registry.declare arch arch.declaration)
    Registry.empty

theorem Registry.rules_builtin (arch : Architecture) :
    Registry.builtin.rules arch = Rules.empty.declare arch.declaration := by
  cases arch <;> rfl

/-- What holds in every row of the declarations holds of every placement that is
    found there. -/
theorem Registry.of_rows_builtin (P : Architecture → Placement → Prop)
    (hrows : ∀ arch ∈ Architecture.all, ∀ convention ∈ CallingConvention.all,
      ∀ placement ∈ Registry.builtin.placement? arch convention, P arch placement)
    {arch : Architecture} {convention : CallingConvention} {placement : Placement}
    (hplacement : Registry.builtin.placement? arch convention = some placement) :
    P arch placement :=
  hrows arch (Architecture.mem_all arch) convention (CallingConvention.mem_all convention)
    placement hplacement

end CallSummary
