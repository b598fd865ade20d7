import Armd64.Polyexec.Signals
import Armd64.Lib.Machine

/-!
# The system calls of signals (`polyexec.c`)

The runtime keeps a mask and an action table for the guest. The thread has a mask in the host kernel
as well, and the kernel has handlers of its own: `rt_sigprocmask` and `rt_sigaction` keep the two
sides together.
-/

namespace Poly.Polyexec

open Hw

/-! ## Signals, masks and the host -/

def sigill : Nat := 4
def sigabrt : Nat := 6
def sigbus : Nat := 7
def sigkill : Nat := 9
def sigusr1 : Nat := 10
def sigsegv : Nat := 11
def sigusr2 : Nat := 12
def sigalrm : Nat := 14
def sigstop : Nat := 19
def sigurg : Nat := 23

def sigBlock : BitVec 64 := 0
def sigUnblock : BitVec 64 := 1
def sigSetmask : BitVec 64 := 2

def sigDfl : BitVec 64 := 0
def sigIgn : BitVec 64 := 1

def saNocldstop : BitVec 64 := 1
def saNocldwait : BitVec 64 := 2
def saSiginfo : BitVec 64 := 4

def aarch64Minsigstksz : Nat := 2048

/-- `(uint64_t) -EPERM`, `(uint64_t) -ENOMEM`, `(uint64_t) -ENOSYS`. -/
def errEperm : BitVec 64 := -1
def errEnomem : BitVec 64 := -12
def errEnosys : BitVec 64 := -38

structure SignalConfig where
  watchdogSignal : Nat
  protectRuntimeSignals : Bool
  virtualSigchld : Bool
  deriving DecidableEq, Repr

structure HostError where
  errno : Nat
  pos : 0 < errno
  le : errno ≤ 4095

def HostError.result (e : HostError) : BitVec 64 := -BitVec.ofNat 64 e.errno

inductive HostHandler
  | default
  | ignore
  | virtual
  | diagnostics
  deriving DecidableEq, Repr

structure HostSigaction where
  handler : HostHandler
  flags : BitVec 64
  mask : BitVec 64
  deriving DecidableEq, Repr

/-- What the host does during one operation. Its signal calls may fail. -/
structure SignalKernel extends SignalHost where
  sigaction : Nat → HostSigaction → Option HostError
  sigaltstack : Option HostError

/-- A guest thread, with what the host and the runtime keep beside it. -/
structure SignalSystem where
  thread : SignalThread
  hostMask : BitVec 64
  altStackInstalled : Bool

def polySigsetClearSignal (mask : BitVec 64) (signum : Nat) : BitVec 64 :=
  if signum = 0 ∨ 64 < signum then mask else mask &&& ~~~(1#64 <<< (signum - 1))

def polyHostVisibleVirtualSignalMask (cfg : SignalConfig) (mask : BitVec 64) : BitVec 64 :=
  let mask :=
    if 0 < cfg.watchdogSignal then polySigsetClearSignal mask cfg.watchdogSignal else mask
  let mask := polySigsetClearSignal mask sigurg
  let mask :=
    if cfg.protectRuntimeSignals then
      polySigsetClearSignal (polySigsetClearSignal (polySigsetClearSignal mask sigalrm) sigusr1)
        sigusr2
    else mask
  if cfg.virtualSigchld then polySigsetClearSignal mask sigchld else mask

def polySanitizeHostRuntimeSigset (cfg : SignalConfig) (mask : BitVec 64) : BitVec 64 :=
  polyHostVisibleVirtualSignalMask cfg
    (polySigsetClearSignal (polySigsetClearSignal (polySigsetClearSignal mask sigsegv) sigbus)
      sigill)

def polyGuestInitialSigmaskFromHost (cfg : SignalConfig) (hostMask : BitVec 64) : BitVec 64 :=
  polyHostVisibleVirtualSignalMask cfg hostMask

def polyUpdateGuestSigmask (current how set : BitVec 64) : BitVec 64 :=
  if how = sigBlock then current ||| set
  else if how = sigUnblock then current &&& ~~~set
  else if how = sigSetmask then set
  else current

/-- The host mask after `rt_sigprocmask` of the host, which never blocks `SIGKILL` and `SIGSTOP`;
nothing for a bad `how`. -/
def hostSigprocmask (how : BitVec 64) (set : Option (BitVec 64)) (mask : BitVec 64) :
    Option (BitVec 64) :=
  match set with
  | none => some mask
  | some set =>
    let set := polySigsetClearSignal (polySigsetClearSignal set sigkill) sigstop
    if how = sigBlock then some (mask ||| set)
    else if how = sigUnblock then some (mask &&& ~~~set)
    else if how = sigSetmask then some set
    else none

/-! ## Guest memory -/

def ksigactionCodec : Codec Ksigaction :=
  (Codec.word.prod (.prod .word (.prod .word .word))).map
    (fun (a, b, c, d) => ⟨a, b, c, d⟩)
    (fun a => (a.handler, a.flags, a.restorer, a.mask))
    fun _ => rfl

structure LinuxStack where
  sp : BitVec 64
  flags : BitVec 32
  pad : BitVec 32
  size : BitVec 64
  deriving DecidableEq, Repr

def linuxStackCodec : Codec LinuxStack :=
  (Codec.word.prod (.prod .halves .word)).map
    (fun (a, (b, c), d) => ⟨a, b, c, d⟩)
    (fun s => (s.sp, (s.flags, s.pad), s.size))
    fun _ => rfl

def guestRead {α : Type} (codec : Codec α) (host : SignalHost) (mem : Memory)
    (address : BitVec 64) : Option α :=
  if polyGuestRangeIsMapped host.probe address (sizeofCodec codec) false then
    some (codec.read mem address)
  else none

def guestWrite {α : Type} (codec : Codec α) (host : SignalHost) (mem : Memory)
    (address : BitVec 64) (value : α) : Option Memory :=
  if polyGuestRangeIsMapped host.probe address (sizeofCodec codec) true then
    some (codec.write mem address value)
  else none

def polyGuestReadU64 : SignalHost → Memory → BitVec 64 → Option (BitVec 64) := guestRead .word

def polyGuestWriteU64 : SignalHost → Memory → BitVec 64 → BitVec 64 → Option Memory :=
  guestWrite .word

def polyGuestReadKsigaction : SignalHost → Memory → BitVec 64 → Option Ksigaction :=
  guestRead ksigactionCodec

def polyGuestWriteKsigaction :
    SignalHost → Memory → BitVec 64 → Ksigaction → Option Memory :=
  guestWrite ksigactionCodec

/-- What is read from a pointer that may be null; nothing if it cannot be read. -/
def readPointer {α : Type} (read : BitVec 64 → Option α) (address : BitVec 64) :
    Option (Option α) :=
  if address = 0 then some none else (read address).map some

/-! ## `rt_sigprocmask` -/

/-- The end of `rt_sigprocmask`: the old mask is written if the guest asks for it. -/
def storeOldset (host : SignalHost) (oldset value : BitVec 64) (s : SignalSystem) :
    BitVec 64 × SignalSystem :=
  if oldset = 0 then (0, s)
  else
    match polyGuestWriteU64 host s.thread.mem oldset value with
    | none => (errEfault, s)
    | some mem => (0, { s with thread := { s.thread with mem := mem } })

/-- The guest mask before `rt_sigprocmask`. Without one it comes from the host, if the call asks for
it. -/
def guestOldset (cfg : SignalConfig) (set : Option (BitVec 64)) (oldset : BitVec 64)
    (s : SignalSystem) : BitVec 64 :=
  if s.thread.sigmaskValid then s.thread.sigmask
  else if oldset ≠ 0 ∨ set.isSome then polyGuestInitialSigmaskFromHost cfg s.hostMask
  else 0

/-- `poly_dispatch_rt_sigprocmask`: the result of the call, and the system after it. -/
def polyDispatchRtSigprocmask (cfg : SignalConfig) (host : SignalHost)
    (how set oldset sigsetsize : BitVec 64) (s : SignalSystem) : BitVec 64 × SignalSystem :=
  if sigsetsize ≠ 8 then (errEinval, s)
  else if how ≠ sigBlock ∧ how ≠ sigUnblock ∧ how ≠ sigSetmask then (errEinval, s)
  else
    match readPointer (polyGuestReadU64 host s.thread.mem) set with
    | none => (errEfault, s)
    | some guestSet =>
      match hostSigprocmask how (guestSet.map (polySanitizeHostRuntimeSigset cfg)) s.hostMask with
      | none => (errEinval, s)
      | some hostMask =>
        let old := guestOldset cfg guestSet oldset s
        storeOldset host oldset old
          { s with
            hostMask := hostMask
            thread :=
              { s.thread with
                sigmask := (guestSet.map (polyUpdateGuestSigmask old how)).getD old
                sigmaskValid := true } }

def hostRtSigprocmask (host : SignalHost) (how set oldset sigsetsize : BitVec 64)
    (s : SignalSystem) : BitVec 64 × SignalSystem :=
  if sigsetsize ≠ 8 then (errEinval, s)
  else
    match readPointer (polyGuestReadU64 host s.thread.mem) set with
    | none => (errEfault, s)
    | some guestSet =>
      match hostSigprocmask how guestSet s.hostMask with
      | none => (errEinval, s)
      | some hostMask => storeOldset host oldset s.hostMask { s with hostMask := hostMask }

/-- `rt_sigprocmask` of a guest: left to the host unless the runtime protects its signals. -/
def guestRtSigprocmask (cfg : SignalConfig) (host : SignalHost)
    (how set oldset sigsetsize : BitVec 64) (s : SignalSystem) : BitVec 64 × SignalSystem :=
  if cfg.protectRuntimeSignals then polyDispatchRtSigprocmask cfg host how set oldset sigsetsize s
  else hostRtSigprocmask host how set oldset sigsetsize s

def guestVisibleMask (cfg : SignalConfig) (s : SignalSystem) : BitVec 64 :=
  if cfg.protectRuntimeSignals then
    if s.thread.sigmaskValid then s.thread.sigmask
    else polyGuestInitialSigmaskFromHost cfg s.hostMask
  else s.hostMask

/-! ## `rt_sigaction` -/

def setAction (signum : Nat) (action : Ksigaction) (t : SignalThread) : SignalThread :=
  { t with actions := fun n => if n = signum then (true, action) else t.actions n }

/-- `poly_store_guest_signal_action`. A bad pointer is only reported. -/
def polyStoreGuestSignalAction (host : SignalHost) (signum : Nat) (oldact : BitVec 64)
    (t : SignalThread) : SignalThread :=
  if oldact = 0 then t
  else
    let old : Ksigaction :=
      if signum < signalActionCount ∧ (t.actions signum).1 then (t.actions signum).2
      else ⟨sigDfl, 0, 0, 0⟩
    match polyGuestWriteKsigaction host t.mem oldact old with
    | none => t
    | some mem => { t with mem := mem }

def polyIsProtectedRuntimeSignal (cfg : SignalConfig) (signum : Nat) : Bool :=
  signum == sigurg ||
    cfg.protectRuntimeSignals && (signum == sigalrm || signum == sigusr1 || signum == sigusr2)

def isFaultSignal (signum : Nat) : Bool := signum == sigsegv || signum == sigbus || signum == sigill

def polySetHostSignalHandler (kernel : SignalKernel) (signum : Nat) (handler : HostHandler) :
    Option HostError :=
  kernel.sigaction signum ⟨handler, saOnstack, 0⟩

def polySetHostVirtualSignalHandler (kernel : SignalKernel) (signum : Nat) (action : Ksigaction) :
    Option HostError :=
  let flags :=
    if signum = sigchld then saOnstack ||| action.flags &&& (saNocldstop ||| saNocldwait)
    else saOnstack
  kernel.sigaction signum ⟨.virtual, flags, 0⟩

def diagnosticsSigaction : HostSigaction where
  handler := .diagnostics
  flags := saSiginfo ||| saOnstack
  mask := [sigsegv, sigbus, sigill, sigabrt].foldl polySigsetAddSignal 0

/-- `install_poly_signal_diagnostics`: its error, and `poly_runtime_signal_alt_stack_installed`. -/
def installPolySignalDiagnostics (kernel : SignalKernel) (installed : Bool) :
    Option HostError × Bool :=
  match if installed then none else kernel.sigaltstack with
  | some e => (some e, false)
  | none =>
    ([sigsegv, sigbus, sigill, sigabrt].findSome? (kernel.sigaction · diagnosticsSigaction), true)

def hostResult : Option HostError → BitVec 64
  | none => 0
  | some e => e.result

/-- The host handler for an action of the guest: the default one, none, or that of the runtime. -/
def setHostHandlerFor (kernel : SignalKernel) (signum : Nat) (action : Ksigaction) :
    Option HostError :=
  if action.handler = sigDfl ∨ action.handler = sigIgn then
    polySetHostSignalHandler kernel signum
      (if action.handler = sigIgn then .ignore else .default)
  else polySetHostVirtualSignalHandler kernel signum action

/-- `poly_dispatch_virtual_sigchld_action`: the host handler comes before the table. -/
def polyDispatchVirtualSigchldAction (kernel : SignalKernel) (act oldact : BitVec 64)
    (t : SignalThread) : BitVec 64 × SignalThread :=
  match readPointer (polyGuestReadKsigaction kernel.toSignalHost t.mem) act with
  | none => (errEfault, t)
  | some guestAct =>
    let t := polyStoreGuestSignalAction kernel.toSignalHost sigchld oldact t
    match guestAct with
    | none => (0, t)
    | some action =>
      match setHostHandlerFor kernel sigchld action with
      | some e => (e.result, t)
      | none => (0, setAction sigchld action t)

/-- `poly_dispatch_rt_sigaction` of `SIGSEGV`, `SIGBUS`, `SIGILL` and the protected signals: the
host handler of a protected signal comes before the table, the diagnostics after it. -/
def virtualSigaction (cfg : SignalConfig) (kernel : SignalKernel) (signum : Nat)
    (guestAct : Option Ksigaction) (oldact : BitVec 64) (s : SignalSystem) :
    BitVec 64 × SignalSystem :=
  let t := polyStoreGuestSignalAction kernel.toSignalHost signum oldact s.thread
  match guestAct.bind fun action =>
      if polyIsProtectedRuntimeSignal cfg signum then
        polySetHostVirtualSignalHandler kernel signum action
      else none with
  | some e => (e.result, { s with thread := t })
  | none =>
    let t := (guestAct.map (setAction signum · t)).getD t
    if isFaultSignal signum then
      let r := installPolySignalDiagnostics kernel s.altStackInstalled
      (hostResult r.1, { s with thread := t, altStackInstalled := r.2 })
    else (0, { s with thread := t })

/-- `poly_dispatch_rt_sigaction` of the other signals: the table comes first. A signal too large for
the pending mask has a host handler only for `SIG_DFL` and `SIG_IGN`. -/
def ordinarySigaction (kernel : SignalKernel) (signum : Nat) (guestAct : Option Ksigaction)
    (oldact : BitVec 64) (s : SignalSystem) : BitVec 64 × SignalSystem :=
  let t := polyStoreGuestSignalAction kernel.toSignalHost signum oldact s.thread
  match guestAct with
  | none => (0, { s with thread := t })
  | some action =>
    let e :=
      if action.handler = sigDfl ∨ action.handler = sigIgn ∨ signum < 32 then
        setHostHandlerFor kernel signum action
      else none
    (hostResult e, { s with thread := setAction signum action t })

/-- `poly_dispatch_rt_sigaction`: the result of the call, and the system after it. -/
def polyDispatchRtSigaction (cfg : SignalConfig) (kernel : SignalKernel)
    (mode signum act oldact sigsetsize : BitVec 64) (s : SignalSystem) :
    BitVec 64 × SignalSystem :=
  if !polyIsRawForeignMode mode then (errEnosys, s)
  else if sigsetsize ≠ 8 then (errEinval, s)
  else if signum = 0 ∨ signalActionCount ≤ signum.toNat then (errEinval, s)
  else if act ≠ 0 ∧ (signum.toNat = sigkill ∨ signum.toNat = sigstop) then (errEinval, s)
  else
    match readPointer (polyGuestReadKsigaction kernel.toSignalHost s.thread.mem) act with
    | none => (errEfault, s)
    | some guestAct =>
      if signum.toNat = sigchld ∧ cfg.virtualSigchld then
        let r := polyDispatchVirtualSigchldAction kernel act oldact s.thread
        (r.1, { s with thread := r.2 })
      else if isFaultSignal signum.toNat || polyIsProtectedRuntimeSignal cfg signum.toNat then
        virtualSigaction cfg kernel signum.toNat guestAct oldact s
      else ordinarySigaction kernel signum.toNat guestAct oldact s

/-! ## `sigaltstack` -/

inductive RawMode
  | aarch64
  | riscv
  deriving DecidableEq, Repr

def RawMode.signals (m : RawMode) (t : SignalThread) : ArchSignals :=
  match m with
  | .aarch64 => t.aarch64
  | .riscv => t.riscv

def RawMode.withAltStack (m : RawMode) (sp size : BitVec 64) (flags : BitVec 32)
    (t : SignalThread) : SignalThread :=
  match m with
  | .aarch64 =>
    { t with aarch64 := { t.aarch64 with altSp := sp, altSize := size, altFlags := flags } }
  | .riscv => { t with riscv := { t.riscv with altSp := sp, altSize := size, altFlags := flags } }

/-- The first part of `poly_dispatch_guest_sigaltstack`: the old stack is written. Nothing if it
cannot be. -/
def storeOldStack (host : SignalHost) (m : RawMode) (oldStackAddr : BitVec 64) (t : SignalThread) :
    Option SignalThread :=
  if oldStackAddr = 0 then some t
  else
    let a := m.signals t
    let flags :=
      if a.activeFrame ≠ 0 ∧ a.altFlags &&& ssDisable = 0 then a.altFlags ||| ssOnstack
      else a.altFlags
    (guestWrite linuxStackCodec host t.mem oldStackAddr ⟨a.altSp, flags, 0, a.altSize⟩).map
      fun mem => { t with mem := mem }

/-- The second part of `poly_dispatch_guest_sigaltstack`: a new stack, which may not be set in a
handler. -/
def setNewStack (host : SignalHost) (m : RawMode) (newStackAddr : BitVec 64) (t : SignalThread) :
    BitVec 64 × SignalThread :=
  if newStackAddr = 0 then (0, t)
  else if (m.signals t).activeFrame ≠ 0 then (errEperm, t)
  else
    match guestRead linuxStackCodec host t.mem newStackAddr with
    | none => (errEfault, t)
    | some stack =>
      if stack.flags &&& ~~~ssDisable ≠ 0 then (errEinval, t)
      else if stack.flags &&& ssDisable ≠ 0 then (0, m.withAltStack 0 0 ssDisable t)
      else if stack.size.toNat < aarch64Minsigstksz then (errEnomem, t)
      else if !polyGuestRangeIsMapped host.probe stack.sp stack.size.toNat true then (errEfault, t)
      else (0, m.withAltStack stack.sp stack.size 0 t)

def polyDispatchGuestSigaltstack (host : SignalHost) (m : RawMode)
    (newStackAddr oldStackAddr : BitVec 64) (t : SignalThread) : BitVec 64 × SignalThread :=
  match storeOldStack host m oldStackAddr t with
  | none => (errEfault, t)
  | some t => setNewStack host m newStackAddr t

/-! ## Operations in any order -/

def polyTryDeliverSignal (m : RawMode) (host : SignalHost) (forcedSignum : Nat)
    (faultAddress faultCode x86Rsp : BitVec 64) (t : SignalThread) : Bool × SignalThread :=
  match m with
  | .aarch64 => polyTryDeliverAarch64Signal host forcedSignum faultAddress faultCode x86Rsp t
  | .riscv => polyTryDeliverRiscvSignal host forcedSignum faultAddress faultCode x86Rsp t

def polyHandleRtSigreturn (m : RawMode) (host : SignalHost) (hasTrapState : Bool)
    (x86Rsp : BitVec 64) (t : SignalThread) : BitVec 64 × SignalThread :=
  match m with
  | .aarch64 => polyHandleAarch64RtSigreturn host hasTrapState x86Rsp t
  | .riscv => polyHandleRiscvRtSigreturn host hasTrapState x86Rsp t

def polyVirtualSignalHostHandler (signum : Nat) (t : SignalThread) : SignalThread :=
  if 0 < signum ∧ signum < 32 then { t with pending := t.pending ||| pendingBit signum } else t

inductive SignalOp
  | rtSigprocmask (how set oldset sigsetsize : BitVec 64)
  | rtSigaction (mode signum act oldact sigsetsize : BitVec 64)
  | sigaltstack (m : RawMode) (newStackAddr oldStackAddr : BitVec 64)
  | deliver (m : RawMode) (forcedSignum : Nat) (faultAddress faultCode x86Rsp : BitVec 64)
  | rtSigreturn (m : RawMode) (hasTrapState : Bool) (x86Rsp : BitVec 64)
  | hostSignal (signum : Nat)
  /-- The guest, or another part of the runtime, changes the state image and the memory. -/
  | guest (state : XsaveState) (mem : Memory)

def SignalOp.apply (cfg : SignalConfig) (kernel : SignalKernel) (s : SignalSystem) :
    SignalOp → SignalSystem
  | .rtSigprocmask how set oldset sigsetsize =>
    (guestRtSigprocmask cfg kernel.toSignalHost how set oldset sigsetsize s).2
  | .rtSigaction mode signum act oldact sigsetsize =>
    (polyDispatchRtSigaction cfg kernel mode signum act oldact sigsetsize s).2
  | .sigaltstack m newStackAddr oldStackAddr =>
    let r := polyDispatchGuestSigaltstack kernel.toSignalHost m newStackAddr oldStackAddr s.thread
    { s with thread := r.2 }
  | .deliver m forcedSignum faultAddress faultCode x86Rsp =>
    let r := polyTryDeliverSignal m kernel.toSignalHost forcedSignum faultAddress faultCode x86Rsp
      s.thread
    { s with thread := r.2 }
  | .rtSigreturn m hasTrapState x86Rsp =>
    { s with
      thread := (polyHandleRtSigreturn m kernel.toSignalHost hasTrapState x86Rsp s.thread).2 }
  | .hostSignal signum => { s with thread := polyVirtualSignalHostHandler signum s.thread }
  | .guest state mem => { s with thread := { s.thread with state := state, mem := mem } }

/-- The signal operations of a thread, each with what the host does. At the start no signal is
blocked or pending, and no action is set. -/
def signalMachine (cfg : SignalConfig) : Machine SignalSystem (SignalKernel × SignalOp) where
  reset s := s.hostMask = 0 ∧ s.thread.sigmaskValid = false ∧ s.thread.pending = 0 ∧
    (∀ n, (s.thread.actions n).1 = false) ∧ s.thread.aarch64.activeFrame = 0 ∧
    s.thread.riscv.activeFrame = 0
  step s e := e.2.apply cfg e.1 s

end Poly.Polyexec
