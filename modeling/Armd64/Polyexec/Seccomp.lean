import Mathlib.Algebra.Ring.Nat
import Armd64.Lib.Machine
import Armd64.Polyexec.Bpf
import Armd64.Polyexec.EventFrame

/-!
# Guest seccomp policy (`polyexec.c`)

The runtime keeps a seccomp mode and a list of programs for the guest. Each system call of the
guest is first checked against them; the system calls that change them are handled by the runtime
and never reach the host. What the trap vector does with the other system calls does not touch the
policy, so only its answers are in the model (`HostAnswers`).
-/

namespace Poly.Polyexec

def negErrno (errno : Nat) : BitVec 64 := -BitVec.ofNat 64 errno

def EPERM : Nat := 1
def ENOMEM : Nat := 12
def EFAULT : Nat := 14
def EINVAL : Nat := 22
def ENOSYS : Nat := 38
def EOPNOTSUPP : Nat := 95

/-! ## Guest memory -/

/-- The memory of the guest: the answer of the hardware's range probe, and the bytes. -/
structure GuestMemory where
  readable : BitVec 64 → Nat → Bool
  byte : BitVec 64 → BitVec 8

namespace GuestMemory

def rangeIsMapped (m : GuestMemory) (address : BitVec 64) (length : Nat) : Bool :=
  if length = 0 then true
  else if address = 0 ∨ 2 ^ 64 - 1 - length < address.toNat then false
  else m.readable address length

def read (m : GuestMemory) (address : BitVec 64) (n : Nat) : BitVec (8 * n) :=
  Hw.ofWords n fun i => m.byte (address + BitVec.ofNat 64 i)

def readInsn (m : GuestMemory) (address : BitVec 64) : BpfInsn where
  code := m.read address 2
  jt := m.read (address + 2) 1
  jf := m.read (address + 3) 1
  k := m.read (address + 4) 4

end GuestMemory

/-! ## The policy -/

inductive SeccompMode
  | disabled | strict | filter
  deriving DecidableEq, Repr

def SeccompMode.value : SeccompMode → BitVec 64
  | .disabled => 0
  | .strict => 1
  | .filter => 2

structure SeccompState where
  noNewPrivs : Bool := false
  mode : SeccompMode := .disabled
  filters : List SeccompProgram := []
  preflightCount : BitVec 64 := 0
  deniedCount : BitVec 64 := 0
  deriving DecidableEq, Repr

def seccompMaxFilters : Nat := 16

def retKillThread : BitVec 32 := 0x00000000#32
def retTrap : BitVec 32 := 0x00030000#32
def retErrno : BitVec 32 := 0x00050000#32
def retTrace : BitVec 32 := 0x7ff00000#32
def retLog : BitVec 32 := 0x7ffc0000#32
def retAllow : BitVec 32 := 0x7fff0000#32

def actionFull (action : BitVec 32) : BitVec 32 := action &&& 0xffff0000#32

def actionRank (action : BitVec 32) : Nat :=
  if actionFull action = retKillProcess then 8
  else if actionFull action = retKillThread then 7
  else if actionFull action = retTrap then 6
  else if actionFull action = retErrno then 5
  else if actionFull action = retTrace then 3
  else if actionFull action = retLog then 2
  else if actionFull action = retAllow then 1
  else 4

def actionSupported (action : BitVec 32) : Bool :=
  [retKillProcess, retKillThread, retTrap, retErrno, retTrace, retLog, retAllow].contains
    (actionFull action)

def archForMode (mode : BitVec 64) : BitVec 32 :=
  if mode = 1 then 0xc00000b7#32 else if mode = 2 then 0xc00000f3#32 else 0xc000003e#32

def seccompData (packet : RuntimeEventRecord) : SeccompData where
  nr := packet.number.setWidth 32
  arch := archForMode packet.mode
  instructionPointer := packet.pc
  args := .ofFn fun n => packet.args.get (n.castLE (by decide))

def strictAllows (packet : RuntimeEventRecord) : Bool :=
  packet.number == 63 || packet.number == 64 || packet.number == 93 || packet.number == 94 ||
    packet.number == 139

/-- The loop over the filters: the action of the highest rank, the first of them. -/
def selectAction (filters : List SeccompProgram) (data : SeccompData) : BitVec 32 :=
  filters.foldl (fun selected p =>
    let action := evalProgram p data
    if actionRank selected < actionRank action then action else selected) retAllow

/-- The answer to a denied system call, with `poly_seccomp_denied_count`. -/
def deny (result : BitVec 64) (s : SeccompState) : Option (BitVec 64) × SeccompState :=
  (some result, { s with deniedCount := s.deniedCount + 1 })

/-- `poly_seccomp_preflight_syscall`: the result of a system call that is denied. -/
def preflightSyscall (packet : RuntimeEventRecord) (s : SeccompState) :
    Option (BitVec 64) × SeccompState :=
  if (s.mode = .disabled ∨ s.filters = []) ∧ s.mode ≠ .strict then (none, s)
  else
    let s := { s with preflightCount := s.preflightCount + 1 }
    if s.mode = .strict ∧ !strictAllows packet then deny (negErrno EPERM) s
    else if s.filters = [] then (none, s)
    else
      let selected := selectAction s.filters (seccompData packet)
      if actionFull selected = retAllow ∨ actionFull selected = retLog then (none, s)
      else if actionFull selected = retErrno then
        let error := selected &&& 0x0000ffff#32
        deny (-(if error = 0 then BitVec.ofNat 64 EPERM else error.setWidth 64)) s
      else deny (negErrno EPERM) s

def installFilter (m : GuestMemory) (fprogAddr : BitVec 64) (s : SeccompState) :
    BitVec 64 × SeccompState :=
  if fprogAddr = 0 ∨ !m.rangeIsMapped fprogAddr 16 then (negErrno EFAULT, s)
  else
    let len := (m.read fprogAddr 2).toNat
    let filter : BitVec 64 := m.read (fprogAddr + 8) 8
    if len = 0 ∨ seccompMaxInsns < len ∨ filter = 0 then (negErrno EINVAL, s)
    else if !m.rangeIsMapped filter (len * 8) then (negErrno EFAULT, s)
    else
      let program : SeccompProgram :=
        ⟨(List.range len).map fun n => m.readInsn (filter + BitVec.ofNat 64 (8 * n))⟩
      if !validateProgram program then (negErrno EINVAL, s)
      else if seccompMaxFilters ≤ s.filters.length then (negErrno ENOMEM, s)
      else (0, { s with filters := s.filters ++ [program], mode := .filter })

/-! ## Dispatch -/

inductive X86Syscall
  | prctl | seccomp | bpf | execve | exit | exitGroup
  | other (number : BitVec 64)
  deriving DecidableEq, Repr

/-- The generic numbers that `poly_generic_linux_syscall_to_x86` translates, as intervals. -/
def genericSyscalls : List (Nat × Nat) :=
  [(5, 17), (19, 41), (43, 57), (59, 59), (61, 70), (72, 74), (78, 88), (90, 96), (98, 103),
    (107, 111), (113, 115), (118, 126), (129, 136), (140, 141), (143, 160), (163, 169), (172, 212),
    (214, 216), (220, 223), (226, 226), (228, 231), (233, 233), (236, 239), (242, 243), (260, 261),
    (269, 269), (276, 280), (282, 284), (286, 291), (293, 293), (424, 461)]

def genericLinuxSyscallToX86 (number : BitVec 64) : Option X86Syscall :=
  if number = 93 then some .exit
  else if number = 94 then some .exitGroup
  else if number = 167 then some .prctl
  else if number = 221 then some .execve
  else if number = 277 then some .seccomp
  else if number = 280 then some .bpf
  else if genericSyscalls.any fun i => decide (i.1 ≤ number.toNat ∧ number.toNat ≤ i.2) then
    some (.other number)
  else none

def dispatchPrctl (m : GuestMemory) (args : Vector (BitVec 64) 8) (s : SeccompState) :
    Option (BitVec 64) × SeccompState :=
  if args[0] = 38 then
    if args[1] ≠ 1 ∨ args[2] ≠ 0 ∨ args[3] ≠ 0 ∨ args[4] ≠ 0 then (some (negErrno EINVAL), s)
    else (some 0, { s with noNewPrivs := true })
  else if args[0] = 39 then (some (if s.noNewPrivs then 1 else 0), s)
  else if args[0] = 21 then (some s.mode.value, s)
  else if args[0] = 22 then
    if args[1] = SeccompMode.strict.value then (some 0, { s with mode := .strict })
    else if args[1] = SeccompMode.filter.value then
      ((installFilter m args[2] s).1, (installFilter m args[2] s).2)
    else (some (negErrno EINVAL), s)
  else (none, s)

def dispatchSeccomp (m : GuestMemory) (args : Vector (BitVec 64) 8) (s : SeccompState) :
    BitVec 64 × SeccompState :=
  let flags := args[1]
  let uargs := args[2]
  if args[0] = 0 then
    if flags ≠ 0 then (negErrno EINVAL, s) else (0, { s with mode := .strict })
  else if args[0] = 1 then
    if flags &&& ~~~7#64 ≠ 0 then (negErrno EINVAL, s) else installFilter m uargs s
  else if args[0] = 2 then
    if uargs = 0 ∨ !m.rangeIsMapped uargs 4 then (negErrno EFAULT, s)
    else (if actionSupported (m.read uargs 4) then 0 else negErrno EOPNOTSUPP, s)
  else (negErrno EINVAL, s)

/-- `poly_seccomp_dispatch_control`: the result of a system call that the runtime handles. -/
def dispatchControl (m : GuestMemory) (packet : RuntimeEventRecord) (call : X86Syscall)
    (s : SeccompState) : Option (BitVec 64) × SeccompState :=
  match call with
  | .bpf => (some (negErrno EPERM), s)
  | .prctl => dispatchPrctl m packet.args s
  | .seccomp => ((dispatchSeccomp m packet.args s).1, (dispatchSeccomp m packet.args s).2)
  | .execve | .exit | .exitGroup | .other _ => (none, s)

/-- What one dispatch meets outside the policy: the guest memory, and the results of the handlers
that took the event. -/
structure HostAnswers where
  memory : GuestMemory
  /-- `poly_handle_aarch64_rt_sigreturn` and `poly_handle_riscv_rt_sigreturn`. -/
  rtSigreturn : Option (BitVec 64)
  structured : Option (BitVec 64)
  rawExecve : Option (BitVec 64)
  /-- The part of the dispatch after the control calls, and the events that are no system calls. -/
  rest : BitVec 64

inductive Dispatched
  | result (value : BitVec 64)
  | exited
  deriving DecidableEq, Repr

def dispatchSyscall (host : HostAnswers) (packet : RuntimeEventRecord) (s : SeccompState) :
    Dispatched × SeccompState :=
  match if packet.number = 139 then host.rtSigreturn else none with
  | some result => (.result result, s)
  | none =>
    match host.structured, genericLinuxSyscallToX86 packet.number with
    | some result, _ => (.result result, s)
    | none, none => (.result (negErrno ENOSYS), s)
    | none, some call =>
      match if packet.mode = 1 ∧ call = .execve then host.rawExecve else none with
      | some result => (.result result, s)
      | none =>
        if call = .exit ∨ call = .exitGroup then (.exited, s)
        else
          match dispatchControl host.memory packet call s with
          | (some result, s') => (.result result, s')
          | (none, s') => (.result host.rest, s')

def trapVectorDispatch (host : HostAnswers) (packet : RuntimeEventRecord) (s : SeccompState) :
    Dispatched × SeccompState :=
  if !polyIsRawForeignMode packet.mode then (.result (negErrno ENOSYS), s)
  else if packet.reason = 1 then
    match preflightSyscall packet s with
    | (some result, s') => (.result result, s')
    | (none, s') => dispatchSyscall host packet s'
  else (.result host.rest, s)

def seccompMachine : Hw.Machine SeccompState (HostAnswers × RuntimeEventRecord) where
  reset s := s = {}
  step s e := (trapVectorDispatch e.1 e.2 s).2

end Poly.Polyexec
