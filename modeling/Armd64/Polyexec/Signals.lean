import Armd64.Polyexec.EventFrame
import Armd64.Polyexec.SignalFrame

/-!
# Guest signals (`polyexec.c`)

The runtime delivers a signal to a guest thread by saving the interrupted context in a frame on the
guest stack and moving the state image to the handler. `rt_sigreturn` moves it back.
-/

namespace Poly.Polyexec

structure Ksigaction where
  handler : BitVec 64
  flags : BitVec 64
  restorer : BitVec 64
  mask : BitVec 64
  deriving DecidableEq, Repr

/-- The active signal frame and the alternate stack of one architecture. -/
structure ArchSignals where
  activeFrame : BitVec 64
  altSp : BitVec 64
  altSize : BitVec 64
  altFlags : BitVec 32
  deriving DecidableEq, Repr

structure SignalThread where
  state : XsaveState
  mem : Hw.Memory
  pending : BitVec 32
  sigmask : BitVec 64
  sigmaskValid : Bool
  /-- `poly_guest_signal_action_shadow`, with the flags of its entries. -/
  actions : Nat → Bool × Ksigaction
  aarch64 : ArchSignals
  riscv : ArchSignals

/-- The parts of `struct poly_v2_derive_descriptor` that the signal code sets. -/
structure DeriveDescriptor where
  frontend : BitVec 32
  childPc : BitVec 64
  childSp : BitVec 64
  childReturnValue : BitVec 64
  eventReason : BitVec 64
  eventNumber : BitVec 64
  eventSelector : BitVec 64
  eventFlags : BitVec 64
  eventArgs : Words 8
  deriving DecidableEq, Repr

structure SignalHost where
  /-- `PMEM_PROBE_RANGE` finds the range present, and readable or writable. -/
  probe : BitVec 64 → Nat → Bool → Bool
  probeAfterPrefault : BitVec 64 → Nat → Bool → Bool
  vdsoRtSigreturn : BitVec 64
  /-- `PDERIVE_STATE` of the state to itself; it rejects a descriptor before any change. -/
  derive : XsaveState → DeriveDescriptor → Option XsaveState

/-! ## Constants -/

def modeRawAarch64 : BitVec 32 := 1
def modeRawRiscv : BitVec 32 := 2

def trapBreak : BitVec 32 := 2

def aarch64VsigframeMagic : BitVec 64 := 0x50534c4147534631
def riscvVsigframeMagic : BitVec 64 := 0x50534c5256534631

def trapRestoreFlagValid : BitVec 64 := 1
def trapRestoreFlagAarch64StateValid : BitVec 64 := 2
def trapRestoreFlagRiscvStateValid : BitVec 64 := 4

/-- `POLY_AARCH64_GPR_VALID_MASK`, `POLY_AARCH64_GPR_VALID_MASK_FULL`,
`POLY_RISCV_GPR_VALID_MASK_FULL`. -/
def aarch64GprValidMask : BitVec 64 := 0x7fffffff
def aarch64GprValidMaskFull : BitVec 64 := 0xffffffff
def riscvGprValidMaskFull : BitVec 64 := 0xffffffff

/-- The flags of the event record of a guest that the signal code has moved. -/
def signalEventFlags : BitVec 64 := eventRecordRequiredFlags ||| eventRecordFlagTrapReturnRestore

def saOnstack : BitVec 64 := 0x08000000
def saNodefer : BitVec 64 := 0x40000000

def ssOnstack : BitVec 32 := 1
def ssDisable : BitVec 32 := 2

def sigchld : Nat := 17

def vsigStackSize : Nat := 65536

def errEinval : BitVec 64 := -22
def errEfault : BitVec 64 := -14

def signalActionCount : Nat := 65

def polyGuestRangeIsMapped (probe : BitVec 64 → Nat → Bool → Bool) (address : BitVec 64)
    (length : Nat) (writable : Bool) : Bool :=
  if length = 0 then true
  else if address = 0 ∨ 2 ^ 64 - 1 - length < address.toNat then false
  else probe address length writable

/-! ## Selection -/

structure DeliverableAction where
  handler : BitVec 64
  restorer : BitVec 64
  flags : BitVec 64
  mask : BitVec 64
  deriving DecidableEq, Repr

def polyGuestSignalActionDeliverable (host : SignalHost) (mode : BitVec 32) (t : SignalThread)
    (signum : Nat) : Option DeliverableAction :=
  if signalActionCount ≤ signum ∨ (t.actions signum).1 = false then none
  else
    let action := (t.actions signum).2
    -- `SIG_DFL` and `SIG_IGN`
    if action.handler = 0 ∨ action.handler = 1 then none
    else
      let restorer :=
        if mode = modeRawAarch64 then host.vdsoRtSigreturn
        else if mode = modeRawRiscv then action.restorer
        else 0
      if restorer = 0 then none
      else some ⟨action.handler, restorer, action.flags, action.mask⟩

def polyGuestSignalMaskBlocks (t : SignalThread) (signum : Nat) : Bool :=
  t.sigmaskValid && t.sigmask.getLsbD (signum - 1)

def pendingBit (signum : Nat) : BitVec 32 := 1#32 <<< (signum - 1)

structure SelectedSignal where
  signum : Nat
  action : DeliverableAction
  deriving DecidableEq, Repr

/-- The loop over the candidates of an asynchronous delivery. A pending signal without a handler is
dropped. -/
def selectPending (host : SignalHost) (mode : BitVec 32) (t : SignalThread) :
    List Nat → BitVec 32 → BitVec 32 × Option SelectedSignal
  | [], pending => (pending, none)
  | candidate :: rest, pending =>
    let bit := pendingBit candidate
    if pending &&& bit = 0 then selectPending host mode t rest pending
    else if polyGuestSignalMaskBlocks t candidate then selectPending host mode t rest pending
    else
      match polyGuestSignalActionDeliverable host mode t candidate with
      | some action => (pending, some ⟨candidate, action⟩)
      | none => selectPending host mode t rest (pending &&& ~~~bit)

def selectSignal (host : SignalHost) (mode : BitVec 32) (forcedSignum : Nat) (t : SignalThread) :
    BitVec 32 × Option SelectedSignal :=
  if forcedSignum ≠ 0 then
    if t.state.currentMode ≠ mode then (t.pending, none)
    else
      (t.pending, (polyGuestSignalActionDeliverable host mode t forcedSignum).map
        fun action => ⟨forcedSignum, action⟩)
  else if t.pending = 0 ∨ t.state.eventRecord.sourceMode ≠ mode then (t.pending, none)
  else selectPending host mode t ((List.range 31).map (· + 1)) t.pending

/-! ## The interrupted context -/

structure SignalContext (σ : Type) where
  gpr : Gprs
  fp : Fprs
  status : σ

def aarch64Link (gpr : Gprs) : BitVec 64 := gpr[30]
def aarch64Sp (gpr : Gprs) : BitVec 64 := gpr[31]

def riscvRa (gpr : Gprs) : BitVec 64 := gpr[1]
def riscvSp (gpr : Gprs) : BitVec 64 := gpr[2]
def riscvA0 (gpr : Gprs) : BitVec 64 := gpr[10]

def riscvZeroed (gpr : Gprs) : Gprs := gpr.set 0 0

/-- The registers with a return value and a stack pointer, as `PDERIVE_STATE` stores them. -/
def aarch64WithResult (gpr : Gprs) (result sp : BitVec 64) : Gprs := (gpr.set 0 result).set 31 sp
def riscvWithResult (gpr : Gprs) (result sp : BitVec 64) : Gprs := (gpr.set 10 result).set 2 sp

def payloadFlags (r : TrapRestore) (stateValid : BitVec 64) (mode : BitVec 32) : Bool :=
  r.flags &&& (trapRestoreFlagValid ||| stateValid) == trapRestoreFlagValid ||| stateValid &&
    r.mode == mode

def polyAarch64TrapRestoreGprMaskUsable (mask : BitVec 64) : Bool :=
  mask == aarch64GprValidMask || mask == aarch64GprValidMaskFull

def aarch64PayloadValid (s : XsaveState) : Bool :=
  payloadFlags s.trapRestore trapRestoreFlagAarch64StateValid modeRawAarch64 &&
    polyAarch64TrapRestoreGprMaskUsable s.trapRestore.aarch64GprValidMask

def riscvPayloadValid (s : XsaveState) : Bool :=
  payloadFlags s.trapRestore trapRestoreFlagRiscvStateValid modeRawRiscv &&
    s.trapRestore.riscvGprValidMask != 0

def aarch64Live (s : XsaveState) : SignalContext Aarch64Status :=
  ⟨s.aarch64Gpr, s.aarch64Fp, ⟨s.aarch64Nzcv, s.aarch64Fpcr, s.aarch64Fpsr⟩⟩

/-- The AArch64 registers that are saved: those of the payload, or the live ones. -/
def aarch64Saved (s : XsaveState) : SignalContext Aarch64Status :=
  if aarch64PayloadValid s then
    ⟨s.trapRestore.aarch64Gpr, s.trapRestore.aarch64Fp,
      ⟨s.trapRestore.aarch64Nzcv, s.trapRestore.aarch64Fpcr, s.trapRestore.aarch64Fpsr⟩⟩
  else aarch64Live s

def riscvLive (s : XsaveState) : SignalContext (BitVec 64) := ⟨s.riscvGpr, s.riscvFp, s.riscvFcsr⟩

def riscvSaved (s : XsaveState) : SignalContext (BitVec 64) :=
  let saved :=
    if riscvPayloadValid s then
      ⟨s.trapRestore.riscvGpr, s.trapRestore.riscvFp, s.trapRestore.riscvFcsr⟩
    else riscvLive s
  { saved with gpr := riscvZeroed saved.gpr }

def interruptedPc (host : SignalHost) (mode : BitVec 32) (forcedSignum : Nat) (link : BitVec 64)
    (s : XsaveState) : BitVec 64 :=
  let pc := s.foreignPc
  let pc :=
    if forcedSignum = 0 ∧ s.eventRecord.sourceMode = mode ∧ s.eventRecord.resumePc ≠ 0 then
      s.eventRecord.resumePc
    else pc
  let pc := if pc = 0 ∧ s.eventRecord.resumePc ≠ 0 then s.eventRecord.resumePc else pc
  let pc := if pc = 0 ∧ s.eventRecord.trapPc ≠ 0 then s.eventRecord.trapPc else pc
  if pc = 0 ∧ link ≠ 0 ∧ polyGuestRangeIsMapped host.probe link 4 false then link else pc

/-! ## The signal stack -/

def callAreaSize : Nat := 32

def signalTotalSize (frameSize : Nat) : Nat := callAreaSize + (frameSize + 15) / 16 * 16

inductive SignalStack
  | unavailable
  /-- `SIGCHLD` wants the alternate stack, and there is none: it is dropped. -/
  | suppressed
  | at (signalSp : BitVec 64) (useAltstack : Bool)
  deriving DecidableEq, Repr

def useAltstack (host : SignalHost) (a : ArchSignals) (flags : BitVec 64) (totalSize : Nat) :
    Bool :=
  flags &&& saOnstack != 0 && a.altFlags &&& ssDisable == 0 &&
    decide (totalSize ≤ a.altSize.toNat) &&
    polyGuestRangeIsMapped host.probe a.altSp a.altSize.toNat true

/-- The choice of the stack, for the stack pointer `sp` of the interrupted context. -/
def signalStack (host : SignalHost) (a : ArchSignals) (sig : SelectedSignal) (forcedSignum : Nat)
    (sp : BitVec 64) (totalSize : Nat) : SignalStack :=
  let alt := useAltstack host a sig.action.flags totalSize
  if vsigStackSize ≤ totalSize then .unavailable
  else if sig.signum = sigchld ∧ forcedSignum = 0 ∧ sig.action.flags &&& saOnstack ≠ 0 ∧ !alt then
    .suppressed
  else if !alt ∧ sp.toNat < totalSize then .unavailable
  else
    let stackTop := if alt then a.altSp + a.altSize else sp
    let signalSp := (stackTop - BitVec.ofNat 64 totalSize) &&& ~~~0xf#64
    if polyGuestRangeIsMapped host.probe signalSp totalSize true ||
        polyGuestRangeIsMapped host.probeAfterPrefault signalSp totalSize true then
      .at signalSp alt
    else .unavailable

def frameSpOf (signalSp : BitVec 64) : BitVec 64 := signalSp + BitVec.ofNat 64 callAreaSize

/-! ## Frames -/

def effectiveSigmask (t : SignalThread) : BitVec 64 := if t.sigmaskValid then t.sigmask else 0

def polySigsetAddSignal (mask : BitVec 64) (signum : Nat) : BitVec 64 :=
  if signum = 0 ∨ 64 < signum then mask else mask ||| 1#64 <<< (signum - 1)

def handlerSigmask (mask : BitVec 64) (sig : SelectedSignal) : BitVec 64 :=
  let mask := mask ||| sig.action.mask
  if sig.action.flags &&& saNodefer = 0 then polySigsetAddSignal mask sig.signum else mask

def handlerEvent (mode : BitVec 32) (pc handler : BitVec 64) : EventRecord where
  sourceMode := mode
  reason := trapBreak
  trapPc := if pc ≠ 0 then pc else handler
  resumePc := handler
  flags := signalEventFlags

def frameSiginfo (sig : SelectedSignal) (faultAddress faultCode : BitVec 64) : Siginfo where
  siSigno := BitVec.ofNat 32 sig.signum
  siCode := faultCode.setWidth 32
  faultAddr := faultAddress

def frameUcontext {μ : Type} (a : ArchSignals) (alt : Bool) (mcontext : μ) : Ucontext μ where
  stackSp := a.altSp
  stackFlags := if alt then a.altFlags ||| ssOnstack else a.altFlags
  stackSize := a.altSize
  mcontext := mcontext

def frameHandlerArgs (sig : SelectedSignal) (frameSp : BitVec 64) : Words 4 :=
  #v[0, BitVec.ofNat 64 sig.signum, frameSp + BitVec.ofNat 64 siginfoOffset,
    frameSp + BitVec.ofNat 64 ucontextOffset]

/-- The payload that a frame saves, with a stack pointer for the monitor. -/
def savedPayload (r : TrapRestore) (x86Rsp : BitVec 64) : TrapRestore :=
  if r.x86Gpr[15] = 0 then { r with x86Gpr := r.x86Gpr.set 15 x86Rsp } else r

def writeCallArea (mem : Hw.Memory) (signalSp : BitVec 64) (args : Words 4) : Hw.Memory :=
  Hw.store mem (signalSp + 8) (Hw.wordBytes (args.toList.drop 1))

/-! ## Delivery -/

/-- What differs between the architectures, for a machine context `μ` and status registers `σ`. -/
structure SignalArch (μ σ : Type) where
  mode : BitVec 32
  magic : BitVec 64
  codec : Hw.Codec (SignalFrame μ σ)
  signals : SignalThread → ArchSignals
  withActiveFrame : BitVec 64 → SignalThread → SignalThread
  saved : XsaveState → SignalContext σ
  framed : SignalContext σ → SignalContext σ
  sp : Gprs → BitVec 64
  link : XsaveState → BitVec 64
  mcontext : BitVec 64 → BitVec 64 → SignalContext σ → μ
  /-- The state image at the entry of the handler, for its stack pointer. -/
  handlerState : SelectedSignal → BitVec 64 → SignalFrame μ σ → XsaveState → XsaveState
  frameAddr : SignalThread → BitVec 64
  mcontextPc : μ → BitVec 64
  mcontextSp : μ → BitVec 64
  mcontextResult : μ → BitVec 64
  /-- The context of a frame in the image, with the stack pointer of the monitor. -/
  restore : SignalFrame μ σ → BitVec 64 → XsaveState → XsaveState

def handlerDescriptor (mode : BitVec 32) (sig : SelectedSignal) (signalSp : BitVec 64) :
    DeriveDescriptor where
  frontend := mode
  childPc := sig.action.handler
  childSp := signalSp
  childReturnValue := BitVec.ofNat 64 sig.signum
  eventReason := trapBreak.setWidth 64
  eventNumber := 0
  eventSelector := 0
  eventFlags := signalEventFlags
  eventArgs := .replicate 8 0

/-- `PDERIVE_STATE` at the end of a delivery, and whether it succeeds. -/
def deriveHandler (host : SignalHost) (desc : DeriveDescriptor) (t : SignalThread) :
    Bool × SignalThread :=
  match host.derive t.state desc with
  | none => (false, t)
  | some state => (true, { t with state := state })

namespace SignalArch

variable {μ σ : Type} (A : SignalArch μ σ) (host : SignalHost)

def frameSize : Nat := sizeofCodec A.codec

def interruptedPc (forcedSignum : Nat) (t : SignalThread) : BitVec 64 :=
  Polyexec.interruptedPc host A.mode forcedSignum (A.link t.state) t.state

def signalFrame (forcedSignum : Nat) (faultAddress faultCode x86Rsp : BitVec 64)
    (sig : SelectedSignal) (signalSp : BitVec 64) (alt : Bool) (t : SignalThread) :
    SignalFrame μ σ :=
  let pc := A.interruptedPc host forcedSignum t
  let saved := A.saved t.state
  { magic := A.magic
    size := BitVec.ofNat 64 A.frameSize
    signum := BitVec.ofNat 64 sig.signum
    handlerArgs := frameHandlerArgs sig (frameSpOf signalSp)
    siginfo := frameSiginfo sig faultAddress faultCode
    ucontext := frameUcontext (A.signals t) alt (A.mcontext faultAddress pc saved)
    savedEventRecord := t.state.eventRecord
    savedEventArgs := if t.state.eventRecord.reason = 0 then .replicate 8 0 else t.state.eventArgs
    savedTrapRestore := savedPayload t.state.trapRestore x86Rsp
    savedNativeReturn := t.state.nativeReturn
    gpr := (A.framed saved).gpr
    fp := (A.framed saved).fp
    status := (A.framed saved).status
    guestSigmask := effectiveSigmask t
    interruptedPc := pc }

/-- The thread after the frame is written: the signal is no longer pending, and the mask is that of
the handler. -/
def enterHandler (forcedSignum : Nat) (sig : SelectedSignal) (signalSp : BitVec 64)
    (frame : SignalFrame μ σ) (t : SignalThread) : SignalThread :=
  A.withActiveFrame (frameSpOf signalSp)
    { t with
      state := A.handlerState sig signalSp frame t.state
      mem := A.codec.write (writeCallArea t.mem signalSp frame.handlerArgs) (frameSpOf signalSp)
        frame
      pending := if forcedSignum = 0 then t.pending &&& ~~~pendingBit sig.signum else t.pending
      sigmask := handlerSigmask frame.guestSigmask sig
      sigmaskValid := true }

def tryDeliver (forcedSignum : Nat) (faultAddress faultCode x86Rsp : BitVec 64)
    (t : SignalThread) : Bool × SignalThread :=
  if (A.signals t).activeFrame ≠ 0 then (false, t)
  else
    let selected := selectSignal host A.mode forcedSignum t
    let t := { t with pending := selected.1 }
    match selected.2 with
    | none => (false, t)
    | some sig =>
      match signalStack host (A.signals t) sig forcedSignum (A.sp (A.saved t.state).gpr)
          (signalTotalSize A.frameSize) with
      | .unavailable => (false, t)
      | .suppressed => (false, { t with pending := t.pending &&& ~~~pendingBit sig.signum })
      | .at signalSp alt =>
        let frame :=
          A.signalFrame host forcedSignum faultAddress faultCode x86Rsp sig signalSp alt t
        deriveHandler host (handlerDescriptor A.mode sig signalSp)
          (A.enterHandler forcedSignum sig signalSp frame t)

end SignalArch

/-! ## Return -/

def frameRejected {μ σ : Type} (magic : BitVec 64) (frameSize : Nat) (frame : SignalFrame μ σ) :
    Bool :=
  frame.magic != magic || frame.size != BitVec.ofNat 64 frameSize || frame.signum == 0 ||
    decide (signalActionCount ≤ frame.signum.toNat)

def restoredPc (pc : BitVec 64) (saved : EventRecord) : BitVec 64 :=
  if pc = 0 then
    if saved.resumePc ≠ 0 then saved.resumePc
    else if saved.trapPc ≠ 0 then saved.trapPc
    else pc
  else pc

def monitorSp (saved : TrapRestore) (x86Rsp : BitVec 64) : BitVec 64 :=
  if saved.x86Gpr[15] ≠ 0 then saved.x86Gpr[15] else x86Rsp

/-- `redirected_context`: the handler has changed the pc or the stack pointer. -/
def redirectedContext {μ σ : Type} (frame : SignalFrame μ σ) (pc sp frameSp : BitVec 64) : Bool :=
  (frame.interruptedPc != 0 && pc != frame.interruptedPc) || sp != frameSp

/-- The event record after a return: the saved one, or a break at the restored pc. -/
def resumedEvent (mode : BitVec 32) (pc : BitVec 64) (saved : EventRecord) : EventRecord :=
  if saved.reason ≠ 0 then
    { saved with resumePc := pc, flags := saved.flags ||| signalEventFlags }
  else
    { sourceMode := mode
      reason := trapBreak
      trapPc := pc
      resumePc := pc
      flags := signalEventFlags }

/-- The image before the context is put back: its event and its native-return stack are the saved
ones. -/
def resumeState {μ σ : Type} (mode : BitVec 32) (frame : SignalFrame μ σ) (pc : BitVec 64)
    (redirected : Bool) (s : XsaveState) : XsaveState :=
  let s := if redirected then polyClearForeignReturnTransitionState s else s
  { s with
    currentMode := mode
    foreignPc := pc
    eventRecord := resumedEvent mode pc frame.savedEventRecord
    eventArgs := if frame.savedEventRecord.reason ≠ 0 then frame.savedEventArgs else .replicate 8 0
    nativeReturn := frame.savedNativeReturn
    -- the payload that the return then fills
    trapRestore := if frame.savedEventRecord.reason ≠ 0 then frame.savedTrapRestore else {} }

def resumeDescriptor (mode : BitVec 32) (sp result : BitVec 64) (s : XsaveState) :
    DeriveDescriptor where
  frontend := mode
  childPc := s.foreignPc
  childSp := sp
  childReturnValue := result
  eventReason := s.eventRecord.reason.setWidth 64
  eventNumber := s.eventRecord.number
  eventSelector := s.eventRecord.selector
  eventFlags := s.eventRecord.flags
  eventArgs := s.eventArgs

/-- `PDERIVE_STATE` at the end of a return, and the result of the call. -/
def deriveResumed (host : SignalHost) (desc : DeriveDescriptor) (t : SignalThread) :
    BitVec 64 × SignalThread :=
  match host.derive t.state desc with
  | none => (errEinval, t)
  | some state => (desc.childReturnValue, { t with state := state })

/-- `rt_sigreturn`: the result of the call, and the thread after it. -/
def SignalArch.rtSigreturn {μ σ : Type} (A : SignalArch μ σ) (host : SignalHost)
    (hasTrapState : Bool) (x86Rsp : BitVec 64) (t : SignalThread) : BitVec 64 × SignalThread :=
  if !hasTrapState then (errEinval, t)
  else if !polyGuestRangeIsMapped host.probe (A.frameAddr t) A.frameSize false then (errEfault, t)
  else
    let frame := A.codec.read t.mem (A.frameAddr t)
    if frameRejected A.magic A.frameSize frame then (errEinval, t)
    else
      let mcontext := frame.ucontext.mcontext
      let sp := A.mcontextSp mcontext
      let pc := restoredPc (A.mcontextPc mcontext) frame.savedEventRecord
      let state := A.restore frame (monitorSp frame.savedTrapRestore x86Rsp)
        (resumeState A.mode frame pc (redirectedContext frame pc sp (A.sp frame.gpr)) t.state)
      deriveResumed host (resumeDescriptor A.mode sp (A.mcontextResult mcontext) state)
        (A.withActiveFrame 0
          { t with
            state := state
            sigmask := frame.guestSigmask
            sigmaskValid := true })

/-! ## AArch64 -/

def aarch64HandlerGprs (sig : SelectedSignal) (signalSp : BitVec 64) (args : Words 4)
    (gpr : Gprs) : Gprs :=
  ((((gpr.set 0 (BitVec.ofNat 64 sig.signum)).set 1 args[2]).set 2 args[3]).set 30
    sig.action.restorer).set 31 signalSp

def aarch64HandlerState (sig : SelectedSignal) (signalSp : BitVec 64) (frame : Aarch64Frame)
    (s : XsaveState) : XsaveState :=
  { polyClearNativeReturnState s with
    currentMode := modeRawAarch64
    foreignPc := sig.action.handler
    eventRecord := handlerEvent modeRawAarch64 frame.interruptedPc sig.action.handler
    aarch64Gpr := aarch64HandlerGprs sig signalSp frame.handlerArgs s.aarch64Gpr
    trapRestore := polySanitizeAarch64TrapRestorePayload
      { s.trapRestore with
        aarch64Gpr := aarch64HandlerGprs sig signalSp frame.handlerArgs frame.gpr
        aarch64Fp := frame.fp
        aarch64Nzcv := frame.status.nzcv
        aarch64Fpcr := frame.status.fpcr
        aarch64Fpsr := frame.status.fpsr
        x86Gpr := s.trapRestore.x86Gpr.set 15 frame.savedTrapRestore.x86Gpr[15]
        flags := trapRestoreFlagValid ||| trapRestoreFlagAarch64StateValid
        mode := modeRawAarch64
        aarch64GprValidMask := aarch64GprValidMask } }

def aarch64Mcontext (faultAddress pc : BitVec 64) (saved : SignalContext Aarch64Status) :
    Aarch64Sigcontext where
  faultAddress := faultAddress
  regs := saved.gpr.pop
  sp := aarch64Sp saved.gpr
  pc := pc
  pstate := saved.status.nzcv

def aarch64Restore (frame : Aarch64Frame) (monitorSp : BitVec 64) (s : XsaveState) : XsaveState :=
  -- `regs` and `sp` of the machine context are one array of registers
  let gpr : Gprs := frame.ucontext.mcontext.regs.push frame.ucontext.mcontext.sp
  let payload := polySanitizeAarch64TrapRestorePayload
    { s.trapRestore with
      flags := trapRestoreFlagValid ||| trapRestoreFlagAarch64StateValid
      mode := modeRawAarch64
      aarch64GprValidMask := aarch64GprValidMask
      aarch64Gpr := gpr
      aarch64Fp := frame.fp
      aarch64Nzcv := frame.status.nzcv
      aarch64Fpcr := frame.status.fpcr
      aarch64Fpsr := frame.status.fpsr }
  { s with
    aarch64Gpr := gpr
    aarch64Fp := frame.fp
    aarch64Nzcv := frame.status.nzcv
    aarch64Fpcr := frame.status.fpcr
    aarch64Fpsr := frame.status.fpsr
    trapRestore := { payload with x86Gpr := payload.x86Gpr.set 15 monitorSp } }

def Aarch64Sigcontext.x0 (m : Aarch64Sigcontext) : BitVec 64 := m.regs[0]

/-- The signal code of AArch64. Without an active frame a return looks at the stack pointer. -/
def aarch64Signals : SignalArch Aarch64Sigcontext Aarch64Status where
  mode := modeRawAarch64
  magic := aarch64VsigframeMagic
  codec := aarch64FrameCodec
  signals := (·.aarch64)
  withActiveFrame frame t := { t with aarch64 := { t.aarch64 with activeFrame := frame } }
  saved := aarch64Saved
  framed := id
  sp := aarch64Sp
  link s := aarch64Link s.aarch64Gpr
  mcontext := aarch64Mcontext
  handlerState := aarch64HandlerState
  frameAddr t :=
    if t.aarch64.activeFrame = 0 then aarch64Sp t.state.aarch64Gpr else t.aarch64.activeFrame
  mcontextPc := (·.pc)
  mcontextSp := (·.sp)
  mcontextResult := (·.x0)
  restore := aarch64Restore

def polyTryDeliverAarch64Signal (host : SignalHost) (forcedSignum : Nat)
    (faultAddress faultCode x86Rsp : BitVec 64) (t : SignalThread) : Bool × SignalThread :=
  aarch64Signals.tryDeliver host forcedSignum faultAddress faultCode x86Rsp t

def polyHandleAarch64RtSigreturn (host : SignalHost) (hasTrapState : Bool) (x86Rsp : BitVec 64)
    (t : SignalThread) : BitVec 64 × SignalThread :=
  aarch64Signals.rtSigreturn host hasTrapState x86Rsp t

/-! ## RISC-V -/

def riscvHandlerGprs (sig : SelectedSignal) (signalSp : BitVec 64) (args : Words 4)
    (gpr : Gprs) : Gprs :=
  (((((gpr.set 0 0).set 1 sig.action.restorer).set 2 signalSp).set 10
    (BitVec.ofNat 64 sig.signum)).set 11 args[2]).set 12 args[3]

def riscvHandlerState (sig : SelectedSignal) (signalSp : BitVec 64) (frame : RiscvFrame)
    (s : XsaveState) : XsaveState :=
  { polyClearNativeReturnState s with
    currentMode := modeRawRiscv
    foreignPc := sig.action.handler
    eventRecord := handlerEvent modeRawRiscv frame.interruptedPc sig.action.handler
    riscvGpr := riscvHandlerGprs sig signalSp frame.handlerArgs s.riscvGpr
    trapRestore := polySanitizeRiscvTrapRestorePayload
      { s.trapRestore with
        riscvGpr := riscvHandlerGprs sig signalSp frame.handlerArgs frame.gpr
        riscvFp := frame.fp
        riscvFcsr := frame.status
        x86Gpr := s.trapRestore.x86Gpr.set 15 frame.savedTrapRestore.x86Gpr[15]
        flags := trapRestoreFlagValid ||| trapRestoreFlagRiscvStateValid
        mode := modeRawRiscv
        riscvGprValidMask := riscvGprValidMaskFull } }

def riscvMcontext (pc : BitVec 64) (saved : SignalContext (BitVec 64)) : RiscvSigcontext where
  pc := pc
  regs := riscvZeroed saved.gpr
  fcsr := saved.status &&& riscvFcsrMask

def riscvRestore (frame : RiscvFrame) (monitorSp : BitVec 64) (s : XsaveState) : XsaveState :=
  let gpr := riscvZeroed frame.ucontext.mcontext.regs
  let fcsr := frame.ucontext.mcontext.fcsr &&& riscvFcsrMask
  let payload := polySanitizeRiscvTrapRestorePayload
    { s.trapRestore with
      flags := trapRestoreFlagValid ||| trapRestoreFlagRiscvStateValid
      mode := modeRawRiscv
      riscvGprValidMask := riscvGprValidMaskFull
      riscvGpr := gpr
      riscvFp := frame.fp
      riscvFcsr := fcsr }
  { s with
    riscvGpr := gpr
    riscvFp := frame.fp
    riscvFcsr := fcsr
    trapRestore := { payload with x86Gpr := payload.x86Gpr.set 15 monitorSp } }

/-- The signal code of RISC-V. Without an active frame a return looks above the call area at the
stack pointer. -/
def riscvSignals : SignalArch RiscvSigcontext (BitVec 64) where
  mode := modeRawRiscv
  magic := riscvVsigframeMagic
  codec := riscvFrameCodec
  signals := (·.riscv)
  withActiveFrame frame t := { t with riscv := { t.riscv with activeFrame := frame } }
  saved := riscvSaved
  framed saved := ⟨riscvZeroed saved.gpr, saved.fp, saved.status &&& riscvFcsrMask⟩
  sp := riscvSp
  link s := riscvRa s.riscvGpr
  mcontext _ := riscvMcontext
  handlerState := riscvHandlerState
  frameAddr t :=
    if t.riscv.activeFrame = 0 ∧ riscvSp t.state.riscvGpr ≠ 0 then
      frameSpOf (riscvSp t.state.riscvGpr)
    else t.riscv.activeFrame
  mcontextPc := (·.pc)
  mcontextSp m := riscvSp m.regs
  mcontextResult m := riscvA0 m.regs
  restore := riscvRestore

def polyTryDeliverRiscvSignal (host : SignalHost) (forcedSignum : Nat)
    (faultAddress faultCode x86Rsp : BitVec 64) (t : SignalThread) : Bool × SignalThread :=
  riscvSignals.tryDeliver host forcedSignum faultAddress faultCode x86Rsp t

def polyHandleRiscvRtSigreturn (host : SignalHost) (hasTrapState : Bool) (x86Rsp : BitVec 64)
    (t : SignalThread) : BitVec 64 × SignalThread :=
  riscvSignals.rtSigreturn host hasTrapState x86Rsp t

end Poly.Polyexec
