import Armd64.Lib.Codec

/-!
# State images and signal frames (`polyexec.c`, `polycpuid.h`)

The state of a guest thread that the signal code reads and writes, and the frame that it puts on the
guest stack. A frame has the same members for both architectures, except for the machine context
and the status registers.
-/

namespace Poly.Polyexec

open Hw (Codec)

abbrev Words (n : Nat) := Vector (BitVec 64) n

abbrev Gprs := Words 32

abbrev Fprs := Vector (BitVec 128) 32

/-! ## The state image -/

structure EventRecord where
  reason : BitVec 32 := 0
  sourceMode : BitVec 32 := 0
  number : BitVec 64 := 0
  selector : BitVec 64 := 0
  trapPc : BitVec 64 := 0
  resumePc : BitVec 64 := 0
  flags : BitVec 64 := 0
  reserved : Words 2 := .replicate 2 0
  deriving DecidableEq, Repr

structure TrapRestore where
  flags : BitVec 64 := 0
  mode : BitVec 32 := 0
  reserved0 : BitVec 32 := 0
  x86Gpr : Words 16 := .replicate 16 0
  x86Xmm : Vector (BitVec 128) 16 := .replicate 16 0
  aarch64GprValidMask : BitVec 64 := 0
  aarch64Gpr : Gprs := .replicate 32 0
  aarch64Fp : Fprs := .replicate 32 0
  aarch64Nzcv : BitVec 64 := 0
  aarch64Fpcr : BitVec 64 := 0
  aarch64Fpsr : BitVec 64 := 0
  aarch64Reserved : BitVec 64 := 0
  riscvGprValidMask : BitVec 64 := 0
  riscvGpr : Gprs := .replicate 32 0
  riscvFp : Fprs := .replicate 32 0
  riscvFcsr : BitVec 64 := 0
  riscvReserved : Words 3 := .replicate 3 0
  reserved : Words 4 := .replicate 4 0
  deriving DecidableEq, Repr

abbrev NativeReturn := Words 80

/-- The members of `struct poly_xsave_state` that the signal code uses. -/
structure XsaveState where
  currentMode : BitVec 32
  foreignPc : BitVec 64
  eventRecord : EventRecord
  eventArgs : Words 8
  transition : Words 8
  aarch64Gpr : Gprs
  aarch64Fp : Fprs
  aarch64Nzcv : BitVec 64
  aarch64Fpcr : BitVec 64
  aarch64Fpsr : BitVec 64
  riscvGpr : Gprs
  riscvFp : Fprs
  riscvFcsr : BitVec 64
  importReturn : Words 160
  crossReturn : Words 36
  trapRestore : TrapRestore
  nativeReturn : NativeReturn
  deriving DecidableEq, Repr

/-- A native-return stack without frames: its depth and the flags that it supports. -/
def emptyNativeReturn : NativeReturn := ((Vector.replicate 80 0).set 2 8).set 3 1

def polyClearNativeReturnState (s : XsaveState) : XsaveState :=
  { s with nativeReturn := emptyNativeReturn }

def polyClearForeignReturnTransitionState (s : XsaveState) : XsaveState :=
  { s with
    transition := .replicate 8 0
    importReturn := (Vector.replicate 160 0).set 1 8
    crossReturn := (Vector.replicate 36 0).set 1 8 }

/-- `POLY_AARCH64_NZCV_MASK`, `POLY_AARCH64_FPCR_RMODE_MASK`, `POLY_AARCH64_FPSR_MASK`. -/
def aarch64NzcvMask : BitVec 64 := 0x0f
def aarch64FpcrRmodeMask : BitVec 64 := 3#64 <<< 22
def aarch64FpsrMask : BitVec 64 := 0x9f

def riscvFcsrMask : BitVec 64 := 0xff

def polySanitizeAarch64TrapRestorePayload (r : TrapRestore) : TrapRestore :=
  { r with
    aarch64Nzcv := r.aarch64Nzcv &&& aarch64NzcvMask
    aarch64Fpcr := r.aarch64Fpcr &&& aarch64FpcrRmodeMask
    aarch64Fpsr := r.aarch64Fpsr &&& aarch64FpsrMask
    aarch64Reserved := 0
    riscvGprValidMask := 0
    riscvGpr := .replicate 32 0
    riscvFp := .replicate 32 0
    riscvFcsr := 0
    riscvReserved := .replicate 3 0 }

def polySanitizeRiscvTrapRestorePayload (r : TrapRestore) : TrapRestore :=
  { r with
    aarch64GprValidMask := 0
    aarch64Gpr := .replicate 32 0
    aarch64Fp := .replicate 32 0
    aarch64Nzcv := 0
    aarch64Fpcr := 0
    aarch64Fpsr := 0
    aarch64Reserved := 0
    riscvFcsr := r.riscvFcsr &&& riscvFcsrMask
    riscvReserved := .replicate 3 0 }

/-! ## Frames -/

structure Siginfo where
  siSigno : BitVec 32 := 0
  siErrno : BitVec 32 := 0
  siCode : BitVec 32 := 0
  reserved0 : BitVec 32 := 0
  faultAddr : BitVec 64 := 0
  reserved : Words 13 := .replicate 13 0

structure Aarch64Sigcontext where
  faultAddress : BitVec 64 := 0
  regs : Words 31 := .replicate 31 0
  sp : BitVec 64 := 0
  pc : BitVec 64 := 0
  pstate : BitVec 64 := 0
  reservedAlign : BitVec 64 := 0
  reserved : Words 512 := .replicate 512 0

structure RiscvSigcontext where
  pc : BitVec 64 := 0
  regs : Gprs := .replicate 32 0
  fcsr : BitVec 64 := 0
  reserved : Words 64 := .replicate 64 0

/-- `struct poly_aarch64_ucontext` and `struct poly_riscv_ucontext`. -/
structure Ucontext (μ : Type) where
  ucFlags : BitVec 64 := 0
  ucLink : BitVec 64 := 0
  stackSp : BitVec 64 := 0
  stackFlags : BitVec 32 := 0
  stackPad : BitVec 32 := 0
  stackSize : BitVec 64 := 0
  sigmask : BitVec 64 := 0
  pad : Words 16 := .replicate 16 0
  mcontext : μ

structure Aarch64Status where
  nzcv : BitVec 64
  fpcr : BitVec 64
  fpsr : BitVec 64
  deriving DecidableEq, Repr

/-- A frame with the machine context `μ` and the status registers `σ`. -/
structure SignalFrame (μ σ : Type) where
  magic : BitVec 64
  size : BitVec 64
  signum : BitVec 64
  handlerArgs : Words 4
  siginfo : Siginfo
  ucontext : Ucontext μ
  savedEventRecord : EventRecord
  savedEventArgs : Words 8
  savedTrapRestore : TrapRestore
  savedNativeReturn : NativeReturn
  gpr : Gprs
  fp : Fprs
  status : σ
  guestSigmask : BitVec 64
  interruptedPc : BitVec 64

/-! ## Layouts -/

def eventRecordCodec : Codec EventRecord :=
  (Codec.halves.prod (.prod .word (.prod .word (.prod .word (.prod .word (.prod .word
    (.vector .word 2))))))).map
    (fun ((a, b), c, d, e, f, g, h) => ⟨a, b, c, d, e, f, g, h⟩)
    (fun r => ((r.reason, r.sourceMode), r.number, r.selector, r.trapPc, r.resumePc, r.flags,
      r.reserved))
    fun _ => rfl

def trapRestoreCodec : Codec TrapRestore :=
  (Codec.word.prod (.prod .halves (.prod (.vector .word 16) (.prod (.vector .double 16)
    (.prod .word (.prod (.vector .word 32) (.prod (.vector .double 32) (.prod .word (.prod .word
    (.prod .word (.prod .word (.prod .word (.prod (.vector .word 32) (.prod (.vector .double 32)
    (.prod .word (.prod (.vector .word 3) (.vector .word 4))))))))))))))))).map
    (fun (a, (b, c), d, e, f, g, h, i, j, k, l, m, n, o, p, q, r) =>
      ⟨a, b, c, d, e, f, g, h, i, j, k, l, m, n, o, p, q, r⟩)
    (fun r => (r.flags, (r.mode, r.reserved0), r.x86Gpr, r.x86Xmm, r.aarch64GprValidMask,
      r.aarch64Gpr, r.aarch64Fp, r.aarch64Nzcv, r.aarch64Fpcr, r.aarch64Fpsr, r.aarch64Reserved,
      r.riscvGprValidMask, r.riscvGpr, r.riscvFp, r.riscvFcsr, r.riscvReserved, r.reserved))
    fun _ => rfl

def siginfoCodec : Codec Siginfo :=
  (Codec.halves.prod (.prod .halves (.prod .word (.vector .word 13)))).map
    (fun ((a, b), (c, d), e, f) => ⟨a, b, c, d, e, f⟩)
    (fun s => ((s.siSigno, s.siErrno), (s.siCode, s.reserved0), s.faultAddr, s.reserved))
    fun _ => rfl

def aarch64SigcontextCodec : Codec Aarch64Sigcontext :=
  (Codec.word.prod (.prod (.vector .word 31) (.prod .word (.prod .word (.prod .word (.prod .word
    (.vector .word 512))))))).map
    (fun (a, b, c, d, e, f, g) => ⟨a, b, c, d, e, f, g⟩)
    (fun m => (m.faultAddress, m.regs, m.sp, m.pc, m.pstate, m.reservedAlign, m.reserved))
    fun _ => rfl

def riscvSigcontextCodec : Codec RiscvSigcontext :=
  (Codec.word.prod (.prod (.vector .word 32) (.prod .word (.vector .word 64)))).map
    (fun (a, b, c, d) => ⟨a, b, c, d⟩)
    (fun m => (m.pc, m.regs, m.fcsr, m.reserved))
    fun _ => rfl

def aarch64StatusCodec : Codec Aarch64Status :=
  (Codec.word.prod (.prod .word .word)).map (fun (a, b, c) => ⟨a, b, c⟩)
    (fun s => (s.nzcv, s.fpcr, s.fpsr)) fun _ => rfl

def ucontextCodec {μ : Type} (mcontext : Codec μ) : Codec (Ucontext μ) :=
  (Codec.word.prod (.prod .word (.prod .word (.prod .halves (.prod .word (.prod .word
    (.prod (.vector .word 16) mcontext))))))).map
    (fun (a, b, c, (d, e), f, g, h, i) => ⟨a, b, c, d, e, f, g, h, i⟩)
    (fun u => (u.ucFlags, u.ucLink, u.stackSp, (u.stackFlags, u.stackPad), u.stackSize, u.sigmask,
      u.pad, u.mcontext))
    fun _ => rfl

def signalFrameCodec {μ σ : Type} (mcontext : Codec μ) (status : Codec σ) :
    Codec (SignalFrame μ σ) :=
  (Codec.word.prod (.prod .word (.prod .word (.prod (.vector .word 4) (.prod siginfoCodec
    (.prod (ucontextCodec mcontext) (.prod eventRecordCodec (.prod (.vector .word 8)
    (.prod trapRestoreCodec (.prod (.vector .word 80) (.prod (.vector .word 32)
    (.prod (.vector .double 32) (.prod status (.prod .word .word)))))))))))))).map
    (fun (a, b, c, d, e, f, g, h, i, j, k, l, m, n, o) =>
      ⟨a, b, c, d, e, f, g, h, i, j, k, l, m, n, o⟩)
    (fun f => (f.magic, f.size, f.signum, f.handlerArgs, f.siginfo, f.ucontext, f.savedEventRecord,
      f.savedEventArgs, f.savedTrapRestore, f.savedNativeReturn, f.gpr, f.fp, f.status,
      f.guestSigmask, f.interruptedPc))
    fun _ => rfl

abbrev Aarch64Frame := SignalFrame Aarch64Sigcontext Aarch64Status

abbrev RiscvFrame := SignalFrame RiscvSigcontext (BitVec 64)

def aarch64FrameCodec : Codec Aarch64Frame :=
  signalFrameCodec aarch64SigcontextCodec aarch64StatusCodec

def riscvFrameCodec : Codec RiscvFrame := signalFrameCodec riscvSigcontextCodec .word

def sizeofCodec {α : Type} (c : Codec α) : Nat := 8 * c.size

def siginfoOffset : Nat := 8 * (3 + 4)

def ucontextOffset : Nat := siginfoOffset + sizeofCodec siginfoCodec

/-- The payload fills its part of the state image: `POLY_STATE_XSAVE_TRAP_RESTORE_BYTES`. -/
example : sizeofCodec trapRestoreCodec = 0x800 := rfl

example : sizeofCodec aarch64FrameCodec = 8368 ∧ sizeofCodec riscvFrameCodec = 4752 := ⟨rfl, rfl⟩

end Poly.Polyexec
