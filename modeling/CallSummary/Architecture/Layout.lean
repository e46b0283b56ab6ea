import CallSummary.Register

/-!
# Register Layouts

The registers of each instruction set, with the place each has in the register
file. A layout lists them in the order in which they are searched and says which
of them are the stack pointer and the instruction pointer.

## Main definitions

* `Layout`: The registers of an instruction set.
* `Amd64.layout`, `X86.layout`, `Arm.layout`, `Aarch64.layout`, `Mips32.layout`:
  The five layouts.
-/

namespace CallSummary

/-- The registers of an instruction set. -/
structure Layout where
  /-- All registers, in the order in which they are searched. -/
  registers : List Register
  stackPointer : Register
  instructionPointer : Register

namespace Amd64

def rax : Register := ⟨"rax", 16, 8⟩
def rcx : Register := ⟨"rcx", 24, 8⟩
def rdx : Register := ⟨"rdx", 32, 8⟩
def rbx : Register := ⟨"rbx", 40, 8⟩
def rsp : Register := ⟨"rsp", 48, 8⟩
def rbp : Register := ⟨"rbp", 56, 8⟩
def rsi : Register := ⟨"rsi", 64, 8⟩
def rdi : Register := ⟨"rdi", 72, 8⟩
def r8 : Register := ⟨"r8", 80, 8⟩
def r9 : Register := ⟨"r9", 88, 8⟩
def r10 : Register := ⟨"r10", 96, 8⟩
def r11 : Register := ⟨"r11", 104, 8⟩
def r12 : Register := ⟨"r12", 112, 8⟩
def r13 : Register := ⟨"r13", 120, 8⟩
def r14 : Register := ⟨"r14", 128, 8⟩
def r15 : Register := ⟨"r15", 136, 8⟩
def rip : Register := ⟨"rip", 184, 8⟩

/-- The 64-bit registers of AMD64. -/
def layout : Layout where
  registers :=
    [rax, rcx, rdx, rbx, rsp, rbp, rsi, rdi, r8, r9, r10, r11, r12, r13, r14, r15, rip]
  stackPointer := rsp
  instructionPointer := rip

end Amd64

namespace X86

def eax : Register := ⟨"eax", 8, 4⟩
def ecx : Register := ⟨"ecx", 12, 4⟩
def edx : Register := ⟨"edx", 16, 4⟩
def ebx : Register := ⟨"ebx", 20, 4⟩
def esp : Register := ⟨"esp", 24, 4⟩
def ebp : Register := ⟨"ebp", 28, 4⟩
def esi : Register := ⟨"esi", 32, 4⟩
def edi : Register := ⟨"edi", 36, 4⟩
def eip : Register := ⟨"eip", 68, 4⟩

/-- The 32-bit registers of x86. -/
def layout : Layout where
  registers := [eax, ecx, edx, ebx, esp, ebp, esi, edi, eip]
  stackPointer := esp
  instructionPointer := eip

end X86

namespace Arm

def r0 : Register := ⟨"r0", 8, 4⟩
def r1 : Register := ⟨"r1", 12, 4⟩
def r2 : Register := ⟨"r2", 16, 4⟩
def r3 : Register := ⟨"r3", 20, 4⟩
def r4 : Register := ⟨"r4", 24, 4⟩
def r5 : Register := ⟨"r5", 28, 4⟩
def r6 : Register := ⟨"r6", 32, 4⟩
def r7 : Register := ⟨"r7", 36, 4⟩
def r8 : Register := ⟨"r8", 40, 4⟩
def r9 : Register := ⟨"r9", 44, 4⟩
def r10 : Register := ⟨"r10", 48, 4⟩
def r11 : Register := ⟨"r11", 52, 4⟩
def r12 : Register := ⟨"r12", 56, 4⟩
def sp : Register := ⟨"sp", 60, 4⟩
def lr : Register := ⟨"lr", 64, 4⟩
def pc : Register := ⟨"pc", 68, 4⟩

/-- The core registers of 32-bit ARM. -/
def layout : Layout where
  registers := [r0, r1, r2, r3, r4, r5, r6, r7, r8, r9, r10, r11, r12, sp, lr, pc]
  stackPointer := sp
  instructionPointer := pc

end Arm

namespace Aarch64

def x0 : Register := ⟨"x0", 16, 8⟩
def x1 : Register := ⟨"x1", 24, 8⟩
def x2 : Register := ⟨"x2", 32, 8⟩
def x3 : Register := ⟨"x3", 40, 8⟩
def x4 : Register := ⟨"x4", 48, 8⟩
def x5 : Register := ⟨"x5", 56, 8⟩
def x6 : Register := ⟨"x6", 64, 8⟩
def x7 : Register := ⟨"x7", 72, 8⟩
def x8 : Register := ⟨"x8", 80, 8⟩
def x29 : Register := ⟨"x29", 248, 8⟩
def x30 : Register := ⟨"x30", 256, 8⟩
def sp : Register := ⟨"sp", 264, 8⟩
def pc : Register := ⟨"pc", 272, 8⟩

/-- The registers of 64-bit ARM that calls use. -/
def layout : Layout where
  registers := [x0, x1, x2, x3, x4, x5, x6, x7, x8, x29, x30, sp, pc]
  stackPointer := sp
  instructionPointer := pc

end Aarch64

namespace Mips32

def zero : Register := ⟨"zero", 8, 4⟩
def at' : Register := ⟨"at", 12, 4⟩
def v0 : Register := ⟨"v0", 16, 4⟩
def v1 : Register := ⟨"v1", 20, 4⟩
def a0 : Register := ⟨"a0", 24, 4⟩
def a1 : Register := ⟨"a1", 28, 4⟩
def a2 : Register := ⟨"a2", 32, 4⟩
def a3 : Register := ⟨"a3", 36, 4⟩
def gp : Register := ⟨"gp", 120, 4⟩
def sp : Register := ⟨"sp", 124, 4⟩
def fp : Register := ⟨"fp", 128, 4⟩
def ra : Register := ⟨"ra", 132, 4⟩
def pc : Register := ⟨"pc", 136, 4⟩

/-- The registers of 32-bit MIPS that calls use. -/
def layout : Layout where
  registers := [zero, at', v0, v1, a0, a1, a2, a3, gp, sp, fp, ra, pc]
  stackPointer := sp
  instructionPointer := pc

end Mips32

end CallSummary
