import Armd64.Proofs.SignalSelection

/-!
# The guest mask and the host mask

`rt_sigprocmask` changes the mask of the thread in the host together with the mask that the guest
sees; a delivery and a return change only the latter. So the host can block a signal that the guest
has unblocked, but only after a return from a handler that has changed the mask. And nothing keeps
`SIGKILL` and `SIGSTOP` out of the mask that the guest sees.
-/

namespace Poly.Polyexec

open SignalArch

variable {cfg : SignalConfig} {kernel : SignalKernel} {host : SignalHost} {s : SignalSystem}
  {t : SignalThread}

/-! ## The signals of a mask -/

def Blocks (mask : BitVec 64) (signum : Nat) : Prop :=
  1 ≤ signum ∧ mask.getLsbD (signum - 1) = true
  deriving Decidable

section

variable {mask set : BitVec 64} {signum : Nat}

@[simp] theorem not_blocks_zero : ¬Blocks 0 signum := by
  simp [Blocks]

@[simp] theorem blocks_or :
    Blocks (mask ||| set) signum ↔ Blocks mask signum ∨ Blocks set signum := by
  simp only [Blocks, BitVec.getLsbD_or, Bool.or_eq_true]
  exact and_or_left

theorem blocks_and_not :
    Blocks (mask &&& ~~~set) signum ↔ Blocks mask signum ∧ ¬Blocks set signum := by
  simp only [Blocks, BitVec.getLsbD_and, BitVec.getLsbD_not, Bool.and_eq_true, Bool.not_eq_true',
    decide_eq_true_eq]
  constructor
  · rintro ⟨h1, hmask, -, hset⟩
    exact ⟨⟨h1, hmask⟩, fun h => Bool.false_ne_true (hset.symm.trans h.2)⟩
  · rintro ⟨⟨h1, hmask⟩, hset⟩
    have hlt := BitVec.lt_of_getLsbD hmask
    exact ⟨h1, hmask, hlt, by simpa [h1] using hset⟩

variable {n : Nat} {sig : SelectedSignal}

theorem blocks_bit (hn : 1 ≤ n) (h64 : n ≤ 64) : Blocks (1#64 <<< (n - 1)) signum ↔ signum = n := by
  have htwo : (1#64 <<< (n - 1)) = BitVec.twoPow 64 (n - 1) := rfl
  rw [Blocks, htwo, BitVec.getLsbD_twoPow]
  simp only [Bool.and_eq_true, decide_eq_true_eq]
  omega

theorem Blocks.bounds (h : Blocks mask signum) : 1 ≤ signum ∧ signum ≤ 64 := by
  have hlt := BitVec.lt_of_getLsbD h.2
  exact ⟨h.1, by omega⟩

@[simp] theorem blocks_clear :
    Blocks (polySigsetClearSignal mask n) signum ↔ Blocks mask signum ∧ signum ≠ n := by
  rw [polySigsetClearSignal]
  split
  · next hn =>
    refine (and_iff_left_of_imp fun h => ?_).symm
    have hbounds := h.bounds
    omega
  · next hn => rw [blocks_and_not, blocks_bit (by omega) (by omega)]

theorem blocks_add {n : Nat} (h : Blocks (polySigsetAddSignal mask n) signum) :
    Blocks mask signum ∨ signum = n := by
  rw [polySigsetAddSignal] at h
  split at h
  · exact .inl h
  · next hn =>
    rw [blocks_or, blocks_bit (by omega) (by omega)] at h
    exact h

theorem Blocks.add (h : Blocks mask signum) : Blocks (polySigsetAddSignal mask n) signum := by
  rw [polySigsetAddSignal]
  split
  · exact h
  · exact blocks_or.mpr (.inl h)

theorem blocks_handlerSigmask (h : Blocks (handlerSigmask mask sig) signum) :
    Blocks mask signum ∨ Blocks sig.action.mask signum ∨ signum = sig.signum := by
  have hor : Blocks (mask ||| sig.action.mask) signum →
      Blocks mask signum ∨ Blocks sig.action.mask signum ∨ signum = sig.signum :=
    fun h => (blocks_or.mp h).imp_right .inl
  rw [handlerSigmask] at h
  split at h
  · rcases blocks_add h with h | h
    · exact hor h
    · exact .inr (.inr h)
  · exact hor h

theorem handlerSigmask_blocks (h : Blocks mask signum ∨ Blocks sig.action.mask signum) :
    Blocks (handlerSigmask mask sig) signum := by
  rw [handlerSigmask]
  split
  · exact Blocks.add (blocks_or.mpr h)
  · exact blocks_or.mpr h

/-- The signals that the runtime takes out of the masks that it shows the guest of the host. -/
def IsVirtual (cfg : SignalConfig) (signum : Nat) : Prop :=
  signum = cfg.watchdogSignal ∨ signum = sigurg ∨
    (cfg.protectRuntimeSignals = true ∧
      (signum = sigalrm ∨ signum = sigusr1 ∨ signum = sigusr2)) ∨
    (cfg.virtualSigchld = true ∧ signum = sigchld)

def IsReserved (cfg : SignalConfig) (signum : Nat) : Prop :=
  signum = sigsegv ∨ signum = sigbus ∨ signum = sigill ∨ IsVirtual cfg signum

theorem blocks_hostVisible :
    Blocks (polyHostVisibleVirtualSignalMask cfg mask) signum ↔
      Blocks mask signum ∧ ¬IsVirtual cfg signum := by
  have hwatchdog : Blocks (if 0 < cfg.watchdogSignal then
      polySigsetClearSignal mask cfg.watchdogSignal else mask) signum ↔
        Blocks mask signum ∧ signum ≠ cfg.watchdogSignal := by
    split
    · exact blocks_clear
    · next h0 =>
      refine (and_iff_left_of_imp fun h => ?_).symm
      have hbounds := h.bounds
      omega
  unfold polyHostVisibleVirtualSignalMask IsVirtual
  cases cfg.protectRuntimeSignals <;> cases cfg.virtualSigchld <;>
    simp only [if_true, if_false, Bool.false_eq_true, blocks_clear, hwatchdog] <;> grind

theorem blocks_sanitize :
    Blocks (polySanitizeHostRuntimeSigset cfg mask) signum ↔
      Blocks mask signum ∧ ¬IsReserved cfg signum := by
  rw [polySanitizeHostRuntimeSigset, blocks_hostVisible, blocks_clear, blocks_clear, blocks_clear,
    IsReserved]
  grind

end

/-! ## Masks of the host -/

variable {how mask' : BitVec 64}

theorem hostSigprocmask_inv {set mask : BitVec 64}
    (h : hostSigprocmask how (some set) mask = some mask') :
    let set' := polySigsetClearSignal (polySigsetClearSignal set sigkill) sigstop
    (how = sigBlock ∧ mask' = mask ||| set') ∨ (how = sigUnblock ∧ mask' = mask &&& ~~~set') ∨
      (how = sigSetmask ∧ mask' = set') := by
  intro set'
  rw [hostSigprocmask] at h
  split at h
  · next hhow => exact .inl ⟨hhow, (Option.some.inj h).symm⟩
  · split at h
    · next hhow => exact .inr (.inl ⟨hhow, (Option.some.inj h).symm⟩)
    · split at h
      · next hhow => exact .inr (.inr ⟨hhow, (Option.some.inj h).symm⟩)
      · cases h

variable {mask : BitVec 64}

/-- What the host mask blocks after a call: what it blocked before, or what it is given but for
`SIGKILL` and `SIGSTOP`. -/
theorem hostSigprocmask_blocks {set : Option (BitVec 64)} {signum : Nat}
    (h : hostSigprocmask how set mask = some mask') (hb : Blocks mask' signum) :
    Blocks mask signum ∨
      ∃ set', set = some set' ∧ Blocks set' signum ∧ signum ≠ sigkill ∧ signum ≠ sigstop := by
  cases set with
  | none =>
    cases h
    exact .inl hb
  | some set =>
    rcases hostSigprocmask_inv h with ⟨-, rfl⟩ | ⟨-, rfl⟩ | ⟨-, rfl⟩
    · rw [blocks_or, blocks_clear, blocks_clear] at hb
      exact hb.imp_right fun h => ⟨set, rfl, h.1.1, h.1.2, h.2⟩
    · exact .inl (blocks_and_not.mp hb).1
    · rw [blocks_clear, blocks_clear] at hb
      exact .inr ⟨set, rfl, hb.1.1, hb.1.2, hb.2⟩

/-! ## What deliveries and returns do to the guest mask -/

def RawMode.entry (m : RawMode) (host : SignalHost) (forcedSignum : Nat) (t : SignalThread) :
    Option HandlerEntry :=
  match m with
  | .aarch64 => aarch64Signals.entry host forcedSignum t
  | .riscv => riscvSignals.entry host forcedSignum t

def RawMode.restoredMask (m : RawMode) (host : SignalHost) (hasTrapState : Bool)
    (t : SignalThread) : Option (BitVec 64) :=
  match m with
  | .aarch64 => aarch64Signals.restoredMask host hasTrapState t
  | .riscv => riscvSignals.restoredMask host hasTrapState t

/-- The guest masks of two threads are the same, and so are their action tables. -/
structure SameMasks (t t' : SignalThread) : Prop where
  sigmask : t'.sigmask = t.sigmask
  sigmaskValid : t'.sigmaskValid = t.sigmaskValid
  actions : t'.actions = t.actions

structure SetsMask (t : SignalThread) (mask : BitVec 64) (t' : SignalThread) : Prop where
  sigmask : t'.sigmask = mask
  sigmaskValid : t'.sigmaskValid = true
  actions : t'.actions = t.actions

namespace SignalArch

variable {μ σ : Type} {A : SignalArch μ σ} {forcedSignum : Nat}
  {faultAddress faultCode x86Rsp : BitVec 64}

theorem tryDeliver_sameMasks (hA : A.Marks) (h : A.entry host forcedSignum t = none) :
    SameMasks t (A.tryDeliver host forcedSignum faultAddress faultCode x86Rsp t).2 := by
  obtain ⟨pending, heq, -⟩ := tryDeliver_of_entry_none hA h
  rw [heq]
  exact ⟨rfl, rfl, rfl⟩

theorem tryDeliver_setsMask (hA : A.Frames) {e : HandlerEntry}
    (h : A.entry host forcedSignum t = some e) :
    SetsMask t (handlerSigmask (effectiveSigmask t) e.sig)
      (A.tryDeliver host forcedSignum faultAddress faultCode x86Rsp t).2 := by
  rw [tryDeliver_of_entry hA.toMarks h]
  obtain ⟨state, hs⟩ := deriveHandler_eq (handlerDescriptor A.mode e.sig e.signalSp)
  rw [hs]
  exact ⟨hA.active_sigmask .., hA.active_sigmaskValid .., hA.active_actions ..⟩

theorem rtSigreturn_setsMask (hA : A.Frames) {hasTrapState : Bool}
    (h : A.restoredMask host hasTrapState t = some mask) :
    SetsMask t mask (A.rtSigreturn host hasTrapState x86Rsp t).2 := by
  obtain ⟨state, state', heq⟩ := rtSigreturn_of_some h
  rw [heq]
  exact ⟨hA.active_sigmask .., hA.active_sigmaskValid .., hA.active_actions ..⟩

end SignalArch

section

variable {m : RawMode} {forcedSignum : Nat} {faultAddress faultCode x86Rsp : BitVec 64}
  {hasTrapState : Bool}

theorem deliver_sameMasks (h : m.entry host forcedSignum t = none) :
    SameMasks t (polyTryDeliverSignal m host forcedSignum faultAddress faultCode x86Rsp t).2 := by
  cases m with
  | aarch64 => exact tryDeliver_sameMasks aarch64Signals_marks h
  | riscv => exact tryDeliver_sameMasks riscvSignals_marks h

variable {e : HandlerEntry}

theorem deliver_setsMask (h : m.entry host forcedSignum t = some e) :
    SetsMask t (handlerSigmask (effectiveSigmask t) e.sig)
      (polyTryDeliverSignal m host forcedSignum faultAddress faultCode x86Rsp t).2 := by
  cases m with
  | aarch64 => exact tryDeliver_setsMask aarch64Signals_frames h
  | riscv => exact tryDeliver_setsMask riscvSignals_frames h

theorem sigreturn_same (h : m.restoredMask host hasTrapState t = none) :
    (polyHandleRtSigreturn m host hasTrapState x86Rsp t).2 = t := by
  cases m with
  | aarch64 => exact rtSigreturn_of_none h
  | riscv => exact rtSigreturn_of_none h

theorem sigreturn_setsMask (h : m.restoredMask host hasTrapState t = some mask) :
    SetsMask t mask (polyHandleRtSigreturn m host hasTrapState x86Rsp t).2 := by
  cases m with
  | aarch64 => exact rtSigreturn_setsMask aarch64Signals_frames h
  | riscv => exact rtSigreturn_setsMask riscvSignals_frames h

theorem entry_valid (h : m.entry host forcedSignum t = some e) :
    (t.actions e.sig.signum).1 := by
  cases m with
  | aarch64 => exact entry_valid h
  | riscv => exact entry_valid h

end

/-! ## What an operation does to the masks -/

structure SameSystemMasks (s s' : SignalSystem) : Prop where
  hostMask : s'.hostMask = s.hostMask
  sigmask : s'.thread.sigmask = s.thread.sigmask
  sigmaskValid : s'.thread.sigmaskValid = s.thread.sigmaskValid

def restores (c : SignalSystem × SignalKernel × SignalOp) : Option (BitVec 64) :=
  match c.2.2 with
  | .rtSigreturn m hasTrapState _ =>
    m.restoredMask c.2.1.toSignalHost hasTrapState c.1.thread
  | _ => none

/-- The mask that an operation takes from the guest: the set of `rt_sigprocmask`, the mask of the
action whose handler is entered, or that of a frame. -/
def supplies (c : SignalSystem × SignalKernel × SignalOp) : BitVec 64 :=
  match c.2.2 with
  | .rtSigprocmask how set _ sigsetsize =>
    if sigsetsize = 8 ∧ (how = sigBlock ∨ how = sigSetmask) then
      (readPointer (polyGuestReadU64 c.2.1.toSignalHost c.1.thread.mem) set).join.getD 0
    else 0
  | .deliver m forcedSignum _ _ _ =>
    ((m.entry c.2.1.toSignalHost forcedSignum c.1.thread).map (·.sig.action.mask)).getD 0
  | .rtSigreturn .. => (restores c).getD 0
  | _ => 0

def SetsAction (op : SignalOp) : Prop :=
  ∃ mode signum act oldact sigsetsize, op = .rtSigaction mode signum act oldact sigsetsize

/-- What an operation other than `rt_sigprocmask` does to the masks. -/
inductive MaskStep (kernel : SignalKernel) (s : SignalSystem) (op : SignalOp) :
    SignalSystem → Prop
  | same {s' : SignalSystem} (h : SameSystemMasks s s') (hr : restores (s, kernel, op) = none)
      (hs : supplies (s, kernel, op) = 0) (ha : SetsAction op ∨ s'.thread.actions = s.thread.actions) :
      MaskStep kernel s op s'
  | enter {m : RawMode} {forcedSignum : Nat} {e : HandlerEntry} {t' : SignalThread}
      (he : m.entry kernel.toSignalHost forcedSignum s.thread = some e)
      (h : SetsMask s.thread (handlerSigmask (effectiveSigmask s.thread) e.sig) t')
      (hr : restores (s, kernel, op) = none)
      (hs : supplies (s, kernel, op) = e.sig.action.mask) :
      MaskStep kernel s op { s with thread := t' }
  | restore {mask : BitVec 64} {t' : SignalThread} (h : SetsMask s.thread mask t')
      (hr : restores (s, kernel, op) = some mask) (hs : supplies (s, kernel, op) = mask) :
      MaskStep kernel s op { s with thread := t' }

theorem maskStep_deliver (m : RawMode) (forcedSignum : Nat)
    (faultAddress faultCode x86Rsp : BitVec 64) :
    let op : SignalOp := .deliver m forcedSignum faultAddress faultCode x86Rsp
    MaskStep kernel s op (op.apply cfg kernel s) := by
  intro op
  have hs : supplies (s, kernel, op) =
    ((m.entry kernel.toSignalHost forcedSignum s.thread).map (·.sig.action.mask)).getD 0 := rfl
  cases he : m.entry kernel.toSignalHost forcedSignum s.thread with
  | none =>
    have h : SameMasks s.thread (polyTryDeliverSignal m kernel.toSignalHost forcedSignum
      faultAddress faultCode x86Rsp s.thread).2 := deliver_sameMasks he
    rw [he] at hs
    exact .same ⟨rfl, h.sigmask, h.sigmaskValid⟩ rfl hs (.inr h.actions)
  | some e =>
    rw [he] at hs
    exact .enter he (deliver_setsMask he) rfl hs

theorem maskStep_rtSigreturn (m : RawMode) (hasTrapState : Bool) (x86Rsp : BitVec 64) :
    let op : SignalOp := .rtSigreturn m hasTrapState x86Rsp
    MaskStep kernel s op (op.apply cfg kernel s) := by
  intro op
  have hr : restores (s, kernel, op) =
    m.restoredMask kernel.toSignalHost hasTrapState s.thread := rfl
  have hs : supplies (s, kernel, op) = (restores (s, kernel, op)).getD 0 := rfl
  cases hm : m.restoredMask kernel.toSignalHost hasTrapState s.thread with
  | none =>
    rw [hm] at hr
    rw [hr] at hs
    rw [show op.apply cfg kernel s = { s with thread := _ } from rfl, sigreturn_same hm]
    exact .same ⟨rfl, rfl, rfl⟩ hr hs (.inr rfl)
  | some mask =>
    rw [hm] at hr
    rw [hr] at hs
    exact .restore (sigreturn_setsMask hm) hr hs

theorem apply_cases (op : SignalOp) :
    (∃ how set oldset sigsetsize, op = .rtSigprocmask how set oldset sigsetsize) ∨
      MaskStep kernel s op (op.apply cfg kernel s) := by
  cases op with
  | rtSigprocmask how set oldset sigsetsize => exact .inl ⟨how, set, oldset, sigsetsize, rfl⟩
  | rtSigaction mode signum act oldact sigsetsize =>
    obtain ⟨mem, actions, heq, -⟩ := rtSigaction_thread mode signum act oldact sigsetsize s
    refine .inr (.same ⟨rtSigaction_hostMask .., ?_, ?_⟩ rfl rfl (.inl ⟨_, _, _, _, _, rfl⟩))
    · rw [SignalOp.apply, heq]
    · rw [SignalOp.apply, heq]
  | sigaltstack m newStackAddr oldStackAddr =>
    obtain ⟨mem, aarch64, riscv, heq⟩ :=
      sigaltstack_frame kernel.toSignalHost m newStackAddr oldStackAddr s.thread
    rw [SignalOp.apply, heq]
    exact .inr (.same ⟨rfl, rfl, rfl⟩ rfl rfl (.inr rfl))
  | deliver m forcedSignum faultAddress faultCode x86Rsp => exact .inr (maskStep_deliver ..)
  | rtSigreturn m hasTrapState x86Rsp => exact .inr (maskStep_rtSigreturn ..)
  | hostSignal signum =>
    rw [SignalOp.apply, polyVirtualSignalHostHandler]
    split <;> exact .inr (.same ⟨rfl, rfl, rfl⟩ rfl rfl (.inr rfl))
  | guest state mem => exact .inr (.same ⟨rfl, rfl, rfl⟩ rfl rfl (.inr rfl))

theorem SameSystemMasks.visible {s' : SignalSystem} (h : SameSystemMasks s s') :
    guestVisibleMask cfg s' = guestVisibleMask cfg s := by
  rw [guestVisibleMask, guestVisibleMask, h.hostMask, h.sigmask, h.sigmaskValid]

section

variable (hprotect : cfg.protectRuntimeSignals)

include hprotect

theorem visible_of_valid
    (h : s.thread.sigmaskValid) : guestVisibleMask cfg s = s.thread.sigmask := by
  rw [guestVisibleMask, if_pos hprotect, if_pos h]

theorem SetsMask.visible {t' : SignalThread} (h : SetsMask s.thread mask t') :
    guestVisibleMask cfg { s with thread := t' } = mask :=
  (visible_of_valid hprotect h.sigmaskValid).trans h.sigmask

theorem guestRtSigprocmask_exit (host : SignalHost)
    (how set oldset sigsetsize : BitVec 64) (s : SignalSystem) :
    SigprocmaskExit cfg host how set oldset sigsetsize s
      (guestRtSigprocmask cfg host how set oldset sigsetsize s).2 := by
  rw [guestRtSigprocmask, if_pos hprotect]
  exact sigprocmask_exit

end

/-! ## Consistent masks -/

def Consistent (cfg : SignalConfig) (s : SignalSystem) : Prop :=
  ∀ signum, Blocks s.hostMask signum → Blocks (guestVisibleMask cfg s) signum

/-- What a runtime that protects its signals never blocks in the host; and the host blocks nothing
before the guest has a mask. -/
structure HostBound (cfg : SignalConfig) (s : SignalSystem) : Prop where
  unreserved : ∀ signum, Blocks s.hostMask signum →
    ¬IsReserved cfg signum ∧ signum ≠ sigkill ∧ signum ≠ sigstop
  empty : s.thread.sigmaskValid = false → s.hostMask = 0

section

variable (hprotect : cfg.protectRuntimeSignals = true)

include hprotect

section

variable (h : HostBound cfg s)

include h

theorem sigprocmask_hostBound (how set oldset sigsetsize : BitVec 64) :
    HostBound cfg (guestRtSigprocmask cfg host how set oldset sigsetsize s).2 := by
  have hexit := guestRtSigprocmask_exit hprotect host how set oldset sigsetsize s
  generalize (guestRtSigprocmask cfg host how set oldset sigsetsize s).2 = s' at hexit ⊢
  cases hexit with
  | rejected => exact h
  | changed _ hhost =>
    refine ⟨fun signum hb => ?_, fun h => nomatch h⟩
    rcases hostSigprocmask_blocks hhost hb with hb | ⟨set', hset, hb, hkill⟩
    · exact h.unreserved signum hb
    · obtain ⟨guest, -, rfl⟩ := Option.map_eq_some_iff.mp hset
      exact ⟨(blocks_sanitize.mp hb).2, hkill⟩

theorem apply_hostBound (op : SignalOp) : HostBound cfg (op.apply cfg kernel s) := by
  have hsets : ∀ {mask : BitVec 64} {t' : SignalThread}, SetsMask s.thread mask t' →
      HostBound cfg { s with thread := t' } := by
    intro mask t' hset
    refine ⟨h.unreserved, fun hvalid => ?_⟩
    cases hset.sigmaskValid.symm.trans hvalid
  rcases apply_cases op with ⟨how, set, oldset, sigsetsize, rfl⟩ | hstep
  · exact sigprocmask_hostBound hprotect h how set oldset sigsetsize
  · generalize op.apply cfg kernel s = s' at hstep
    cases hstep with
    | same hsame =>
      refine ⟨fun signum hb => h.unreserved signum (hsame.hostMask ▸ hb), fun hvalid => ?_⟩
      rw [hsame.hostMask]
      exact h.empty (hsame.sigmaskValid ▸ hvalid)
    | enter _ hset => exact hsets hset
    | restore hset => exact hsets hset

theorem blocks_sigmask (hc : Consistent cfg s) {signum : Nat} (hb : Blocks s.hostMask signum) :
    s.thread.sigmaskValid ∧ Blocks s.thread.sigmask signum := by
  cases hvalid : s.thread.sigmaskValid with
  | false =>
    rw [h.empty hvalid] at hb
    exact absurd hb not_blocks_zero
  | true =>
    have hvisible := hc signum hb
    rw [visible_of_valid hprotect hvalid] at hvisible
    exact ⟨rfl, hvisible⟩

theorem sigprocmask_consistent (hc : Consistent cfg s) (how set oldset sigsetsize : BitVec 64) :
    Consistent cfg (guestRtSigprocmask cfg host how set oldset sigsetsize s).2 := by
  have hexit := guestRtSigprocmask_exit hprotect host how set oldset sigsetsize s
  generalize (guestRtSigprocmask cfg host how set oldset sigsetsize s).2 = s' at hexit ⊢
  cases hexit with
  | rejected => exact hc
  | @changed guestSet hostMask mem hreads hhost =>
    intro signum hb
    rw [visible_of_valid hprotect rfl]
    have hold : Blocks s.hostMask signum →
        Blocks (guestOldset cfg guestSet oldset s) signum := fun hb => by
      obtain ⟨hvalid, hmask⟩ := blocks_sigmask hprotect h hc hb
      rw [guestOldset, if_pos hvalid]
      exact hmask
    cases guestSet with
    | none =>
      cases hhost
      exact hold hb
    | some set =>
      rcases hostSigprocmask_inv hhost with ⟨rfl, rfl⟩ | ⟨rfl, rfl⟩ | ⟨rfl, rfl⟩
      · rw [blocks_or, blocks_clear, blocks_clear, blocks_sanitize] at hb
        exact blocks_or.mpr (hb.imp hold fun h => h.1.1.1)
      · -- a signal that the guest unblocks and the host does not is one that the host never blocks
        rw [blocks_and_not, blocks_clear, blocks_clear, blocks_sanitize] at hb
        obtain ⟨hhostb, hset⟩ := hb
        obtain ⟨hres, hkill, hstop⟩ := h.unreserved signum hhostb
        exact blocks_and_not.mpr ⟨hold hhostb, fun hs => hset ⟨⟨⟨hs, hres⟩, hkill⟩, hstop⟩⟩
      · rw [blocks_clear, blocks_clear, blocks_sanitize] at hb
        exact hb.1.1.1

/-- Only a return can make the masks inconsistent: if it restores a mask that does not have all that
the host blocks. -/
theorem apply_consistent_iff (hc : Consistent cfg s) (op : SignalOp) :
    Consistent cfg (op.apply cfg kernel s) ↔
      ∀ mask, restores (s, kernel, op) = some mask →
        ∀ signum, Blocks s.hostMask signum → Blocks mask signum := by
  rcases apply_cases op with ⟨how, set, oldset, sigsetsize, rfl⟩ | hstep
  · refine iff_of_true ?_ fun _ hmask => nomatch hmask
    exact sigprocmask_consistent hprotect h hc how set oldset sigsetsize
  · generalize op.apply cfg kernel s = s' at hstep ⊢
    cases hstep with
    | same hsame hr =>
      rw [hr, Consistent, hsame.hostMask, hsame.visible]
      exact iff_of_true hc fun _ hmask => nomatch hmask
    | enter _ hset hr =>
      -- the thread that enters a handler blocks more than before
      rw [hr, Consistent, hset.visible hprotect]
      refine iff_of_true (fun signum hb => handlerSigmask_blocks (.inl ?_))
        fun _ hmask => nomatch hmask
      obtain ⟨hvalid, hmask⟩ := blocks_sigmask hprotect h hc hb
      rw [effectiveSigmask, if_pos hvalid]
      exact hmask
    | @restore mask _ hset hr =>
      rw [hr, Consistent, hset.visible hprotect]
      constructor
      · rintro hall _ ⟨⟩
        exact hall
      · exact fun hall => hall mask rfl

end

end

/-- The host blocks only what the guest sees as blocked, all through a run from an empty host mask,
exactly if every return restores a mask with all that the host blocks then. A runtime that does not
protect its signals shows the guest the mask of the host. -/
theorem masks_consistent_iff (cfg : SignalConfig) (s : SignalSystem) (hempty : s.hostMask = 0)
    (es : List (SignalKernel × SignalOp)) :
    (∀ js, js <+: es → Consistent cfg ((signalMachine cfg).run s js)) ↔
      ∀ c ∈ (signalMachine cfg).cycles s es, cfg.protectRuntimeSignals = true →
        ∀ mask, restores c = some mask →
          ∀ signum, Blocks c.1.hostMask signum → Blocks mask signum := by
  by_cases hprotect : cfg.protectRuntimeSignals = true
  · have hnone : ∀ signum, ¬Blocks s.hostMask signum := fun signum => by
      rw [hempty]
      exact not_blocks_zero
    refine (signalMachine cfg).throughout_iff (I := HostBound cfg) (P := Consistent cfg)
      (fun s e h => apply_hostBound hprotect h e.2) (fun s e h hc => ?_)
      ⟨fun signum hb => absurd hb (hnone signum), fun _ => hempty⟩
      (fun signum hb => absurd hb (hnone signum)) es
    exact (apply_consistent_iff hprotect h hc e.2).trans
      ⟨fun hall _ => hall, fun hall => hall hprotect⟩
  · refine iff_of_true (fun js _ signum hb => ?_) fun c _ h => absurd h hprotect
    rw [guestVisibleMask, if_neg hprotect]
    exact hb

/-- A guest at its start: an action with the handler `0x5000` at `0x1000`, and a set with `SIGINT`
and `SIGKILL` at `0x3000`. -/
def startSystem : SignalSystem where
  thread :=
    { usr1Thread modeRawAarch64 0x4000 with
      mem := Hw.store (Hw.store (fun _ => 0) 0x1000 (Hw.wordBytes [0x5000, 0, 0, 0])) 0x3000
        (Hw.wordBytes [0x102])
      pending := 0
      sigmask := 0
      sigmaskValid := false
      actions := fun _ => (false, ⟨0, 0, 0, 0⟩) }
  hostMask := 0
  altStackInstalled := false

theorem reset_startSystem (cfg : SignalConfig) : (signalMachine cfg).reset startSystem :=
  ⟨rfl, rfl, rfl, fun _ => rfl, rfl, rfl⟩

def openKernel : SignalKernel := refusingKernel fun _ => false

/-- `SIGUSR1` gets a handler, the guest changes its mask, and the signal is delivered. The handler
returns. -/
def maskBeforeHandler (how : BitVec 64) : List (SignalKernel × SignalOp) :=
  [(openKernel, .rtSigaction 1 10 0x1000 0 8), (openKernel, .rtSigprocmask how 0x3000 0 8),
    (openKernel, .hostSignal 10), (openKernel, .deliver .aarch64 0 0 0 0),
    (openKernel, .rtSigreturn .aarch64 true 0)]

/-- A run with a delivery and a return, in which `SIGINT` is blocked. -/
theorem masks_consistent_iff_return :
    let cfg : SignalConfig := ⟨0, true, false⟩
    let s := (signalMachine cfg).run startSystem (maskBeforeHandler sigBlock)
    Blocks s.hostMask 2 ∧ Consistent cfg s := by
  intro cfg s
  have hcycles : ((signalMachine cfg).cycles startSystem (maskBeforeHandler sigBlock)).map
      (fun c => (restores c, c.1.hostMask)) =
        [(none, 0), (none, 0), (none, 2), (none, 2), (some 0x102, 2)] := by decide +kernel
  refine ⟨by decide +kernel, ?_⟩
  refine (masks_consistent_iff cfg startSystem rfl _).mpr (fun c hc _ mask hmask signum hb => ?_) _
    List.prefix_rfl
  have hmem := List.mem_map_of_mem (f := fun c => (restores c, c.1.hostMask)) hc
  rw [hcycles, hmask] at hmem
  simp only [List.mem_cons, Prod.mk.injEq, reduceCtorEq, false_and, Option.some.injEq,
    List.not_mem_nil, or_false, false_or] at hmem
  rw [hmem.2] at hb
  rw [hmem.1, show (0x102 : BitVec 64) = 2 ||| 0x100 from rfl]
  exact blocks_or.mpr (.inl hb)

/-- `SIGUSR1` gets a handler, arrives and is delivered. The handler blocks the signals of its
`siginfo`, read as a set, and returns. -/
def maskInHandler : List (SignalKernel × SignalOp) :=
  [(openKernel, .rtSigaction 1 10 0x1000 0 8), (openKernel, .hostSignal 10),
    (openKernel, .deliver .aarch64 0 0 0 0), (openKernel, .rtSigprocmask sigBlock 0x1df88 0 8),
    (openKernel, .rtSigreturn .aarch64 true 0)]

theorem guestRtSigprocmask_mem (how set sigsetsize : BitVec 64) :
    (guestRtSigprocmask cfg host how set 0 sigsetsize s).2.thread.mem = s.thread.mem := by
  unfold guestRtSigprocmask polyDispatchRtSigprocmask hostRtSigprocmask
  repeat' split
  all_goals rfl

theorem visible_after_handler (hprotect : cfg.protectRuntimeSignals)
    (hdelivered : (polyTryDeliverAarch64Signal mappedHost 0 0 0 0 s.thread).1)
    (how set : BitVec 64) :
    guestVisibleMask cfg ((signalMachine cfg).run s
      [(openKernel, .deliver .aarch64 0 0 0 0), (openKernel, .rtSigprocmask how set 0 8),
        (openKernel, .rtSigreturn .aarch64 true 0)]) = effectiveSigmask s.thread := by
  let s₁ : SignalSystem :=
    { s with thread := (polyTryDeliverAarch64Signal mappedHost 0 0 0 0 s.thread).2 }
  let s₂ := (guestRtSigprocmask cfg mappedHost how set 0 8 s₁).2
  show guestVisibleMask cfg
    { s₂ with thread := (polyHandleRtSigreturn .aarch64 mappedHost true 0 s₂.thread).2 } = _
  have hframe : LeavesFrame mappedHost (sizeofCodec aarch64FrameCodec) s₁.thread.aarch64
      s₂.thread.aarch64 s₁.thread.mem s₂.thread.mem := by
    obtain ⟨hostMask, mem, sigmask, sigmaskValid, heq⟩ :
      ∃ hostMask mem sigmask sigmaskValid, s₂ =
        { s₁ with
          hostMask := hostMask
          thread :=
            { s₁.thread with mem := mem, sigmask := sigmask, sigmaskValid := sigmaskValid } } :=
      guestRtSigprocmask_frame
    have hmem : s₂.thread.mem = s₁.thread.mem := guestRtSigprocmask_mem how set 8
    exact ⟨by rw [heq], fun i _ => by rw [hmem], rfl⟩
  have hback : BackAt aarch64Live aarch64Signals.signals _ _ s.thread
      (aarch64Signals.rtSigreturn mappedHost true 0 s₂.thread).2 :=
    round_trip aarch64Signals_lawful mappedHost_derivesExactly
      mappedHost_derivesExactly.aarch64 hdelivered hframe
  cases hm : RawMode.restoredMask .aarch64 mappedHost true s₂.thread with
  | none =>
    -- the return finds the frame, so no frame is active after it
    obtain ⟨e, frame, hplaced⟩ := placed_of_tryDeliver aarch64Signals_lawful hdelivered
    have hinactive := hback.inactive
    rw [rtSigreturn_of_none hm] at hinactive
    exact absurd (hplaced.active.symm.trans (hframe.active.symm.trans hinactive))
      (frameSpOf_bounds hplaced.nonzero hplaced.fits).2.2
  | some mask =>
    have hset : SetsMask s₂.thread mask
        (polyHandleRtSigreturn .aarch64 mappedHost true 0 s₂.thread).2 := sigreturn_setsMask hm
    rw [hset.visible hprotect, ← hset.sigmask, ← hback.sigmask]
    exact (if_pos hset.sigmaskValid).symm

/-- After the return the guest sees no signal as blocked, but the host blocks `SIGINT`. -/
theorem handler_leaves_host_mask :
    let cfg : SignalConfig := ⟨0, true, false⟩
    let s := (signalMachine cfg).run startSystem maskInHandler
    (signalMachine cfg).reset startSystem ∧ Blocks s.hostMask 2 ∧
      ¬Blocks (guestVisibleMask cfg s) 2 ∧ ¬Consistent cfg s := by
  intro cfg s
  -- the guest has no mask when the signal is delivered
  let s₀ := (signalMachine cfg).run startSystem (maskInHandler.take 2)
  have hdelivered : (polyTryDeliverAarch64Signal mappedHost 0 0 0 0 s₀.thread).1 = true := by
    decide
  have hrun : s = (signalMachine cfg).run s₀ (maskInHandler.drop 2) := by
    rw [← (signalMachine cfg).run_append, List.take_append_drop]
  have hmask : guestVisibleMask cfg s = effectiveSigmask s₀.thread := by
    rw [hrun]
    exact visible_after_handler rfl hdelivered ..
  have hhost : Blocks s.hostMask 2 := by decide
  have hguest : ¬Blocks (guestVisibleMask cfg s) 2 := by
    rw [hmask, show effectiveSigmask s₀.thread = 0 from rfl]
    exact not_blocks_zero
  exact ⟨reset_startSystem cfg, hhost, hguest, fun hc => hguest (hc 2 hhost)⟩

/-! ## `SIGKILL` and `SIGSTOP` -/

def IsKillStop (signum : Nat) : Prop := signum = sigkill ∨ signum = sigstop

def NoKillStop (mask : BitVec 64) : Prop := ∀ signum, IsKillStop signum → ¬Blocks mask signum

theorem noKillStop_zero : NoKillStop 0 := fun _ _ => not_blocks_zero

theorem NoKillStop.or_iff {mask set : BitVec 64} (h : NoKillStop mask) :
    NoKillStop (mask ||| set) ↔ NoKillStop set := by
  constructor
  · exact fun hor signum hk hb => hor signum hk (blocks_or.mpr (.inr hb))
  · exact fun hset signum hk hb => (blocks_or.mp hb).elim (h signum hk) (hset signum hk)

theorem NoKillStop.initial (h : NoKillStop mask) :
    NoKillStop (polyGuestInitialSigmaskFromHost cfg mask) :=
  fun signum hk hb => h signum hk (blocks_hostVisible.mp hb).1

/-- The host blocks neither, and the action table has no entry for them. -/
structure KillStopBound (s : SignalSystem) : Prop where
  host : NoKillStop s.hostMask
  actions : ∀ signum, IsKillStop signum → (s.thread.actions signum).1 = false

theorem rtSigaction_killStop {mode signum act oldact sigsetsize : BitVec 64} {n : Nat}
    (hn : IsKillStop n) :
    (polyDispatchRtSigaction cfg kernel mode signum act oldact sigsetsize s).2.thread.actions n =
      s.thread.actions n := by
  obtain ⟨mem, actions, heq, hchange⟩ := rtSigaction_thread mode signum act oldact sigsetsize s
  rw [heq]
  by_contra hne
  obtain ⟨rfl, hsupplied⟩ := hchange n hne
  refine hsupplied (if_neg ?_)
  rintro ⟨-, -, -, -, -, hkill, hstop⟩
  exact hn.elim hkill hstop

theorem apply_actions (op : SignalOp) :
    SetsAction op ∨ (op.apply cfg kernel s).thread.actions = s.thread.actions := by
  rcases apply_cases op with ⟨how, set, oldset, sigsetsize, rfl⟩ | hstep
  · obtain ⟨hostMask, mem, sigmask, sigmaskValid, heq⟩ := guestRtSigprocmask_frame
    rw [SignalOp.apply, heq]
    exact .inr rfl
  · generalize op.apply cfg kernel s = s' at hstep ⊢
    cases hstep with
    | same _ _ _ ha => exact ha
    | enter _ hset => exact .inr hset.actions
    | restore hset => exact .inr hset.actions

theorem sigprocmask_killStop (h : NoKillStop s.hostMask) (how set oldset sigsetsize : BitVec 64) :
    NoKillStop (guestRtSigprocmask cfg host how set oldset sigsetsize s).2.hostMask := by
  have hmask : ∀ {set : Option (BitVec 64)} {mask : BitVec 64},
      hostSigprocmask how set s.hostMask = some mask → NoKillStop mask := by
    intro set mask hhost signum hk hb
    rcases hostSigprocmask_blocks hhost hb with hb | ⟨_, -, -, hkill, hstop⟩
    · exact h signum hk hb
    · exact hk.elim hkill hstop
  unfold guestRtSigprocmask
  split
  · have hexit : SigprocmaskExit cfg host how set oldset sigsetsize s _ := sigprocmask_exit
    generalize (polyDispatchRtSigprocmask cfg host how set oldset sigsetsize s).2 = s' at hexit ⊢
    cases hexit with
    | rejected => exact h
    | changed _ hhost => exact hmask hhost
  · rcases hostRtSigprocmask_cases with hsame | ⟨guestSet, hostMask, mem, hhost, heq⟩
    · rw [hsame]
      exact h
    · rw [heq]
      exact hmask hhost

theorem apply_killStopBound (h : KillStopBound s) (op : SignalOp) :
    KillStopBound (op.apply cfg kernel s) := by
  constructor
  · rcases apply_cases op with ⟨how, set, oldset, sigsetsize, rfl⟩ | hstep
    · exact sigprocmask_killStop h.host how set oldset sigsetsize
    · generalize op.apply cfg kernel s = s' at hstep
      cases hstep with
      | same hsame => exact hsame.hostMask.symm ▸ h.host
      | enter => exact h.host
      | restore => exact h.host
  · intro n hn
    rcases apply_actions op with ⟨mode, signum, act, oldact, sigsetsize, rfl⟩ | hactions
    · rw [SignalOp.apply, rtSigaction_killStop hn]
      exact h.actions n hn
    · rw [hactions]
      exact h.actions n hn

section

variable (hprotect : cfg.protectRuntimeSignals = true)

include hprotect

theorem noKillStop_guestOldset (h : KillStopBound s) (hc : NoKillStop (guestVisibleMask cfg s))
    (guestSet : Option (BitVec 64)) (oldset : BitVec 64) :
    NoKillStop (guestOldset cfg guestSet oldset s) := by
  unfold guestOldset
  split
  · next hvalid => exact visible_of_valid hprotect hvalid ▸ hc
  · split
    · exact h.host.initial
    · exact noKillStop_zero

theorem sigprocmask_killStop_iff (h : KillStopBound s) (hc : NoKillStop (guestVisibleMask cfg s))
    (how set oldset sigsetsize : BitVec 64) :
    NoKillStop (guestVisibleMask cfg
        (guestRtSigprocmask cfg kernel.toSignalHost how set oldset sigsetsize s).2) ↔
      NoKillStop (supplies (s, kernel, .rtSigprocmask how set oldset sigsetsize)) := by
  dsimp only [supplies]
  have hexit :=
    guestRtSigprocmask_exit hprotect kernel.toSignalHost how set oldset sigsetsize s
  generalize (guestRtSigprocmask cfg kernel.toSignalHost how set oldset sigsetsize s).2 = s'
    at hexit ⊢
  cases hexit with
  | rejected hreads =>
    refine iff_of_true hc ?_
    split
    · next hok =>
      cases hread : readPointer (polyGuestReadU64 kernel.toSignalHost s.thread.mem) set with
      | none => exact noKillStop_zero
      | some guestSet => exact absurd ⟨hok.1, hok.2.imp_right .inr, hread⟩ (hreads guestSet)
    · exact noKillStop_zero
  | @changed guestSet hostMask mem hreads hhost =>
    have hold := noKillStop_guestOldset hprotect h hc guestSet oldset
    rw [visible_of_valid hprotect rfl, hreads.set, Option.join_some]
    cases guestSet with
    | none =>
      refine iff_of_true hold ?_
      split <;> exact noKillStop_zero
    | some set =>
      rcases hreads.how with rfl | rfl | rfl
      · rw [if_pos ⟨hreads.size, .inl rfl⟩]
        exact hold.or_iff
      · have hunblock : ¬(sigUnblock = sigBlock ∨ sigUnblock = sigSetmask) := by decide
        rw [if_neg fun hok => hunblock hok.2]
        exact iff_of_true (fun signum hk hb => hold signum hk (blocks_and_not.mp hb).1)
          noKillStop_zero
      · rw [if_pos ⟨hreads.size, .inr rfl⟩]
        exact Iff.rfl

/-- The guest sees `SIGKILL` or `SIGSTOP` as blocked after an operation that takes a mask with one
of them from the guest. -/
theorem apply_killStop_iff (h : KillStopBound s) (hc : NoKillStop (guestVisibleMask cfg s))
    (op : SignalOp) :
    NoKillStop (guestVisibleMask cfg (op.apply cfg kernel s)) ↔
      NoKillStop (supplies (s, kernel, op)) := by
  rcases apply_cases op with ⟨how, set, oldset, sigsetsize, rfl⟩ | hstep
  · exact sigprocmask_killStop_iff hprotect h hc how set oldset sigsetsize
  · generalize op.apply cfg kernel s = s' at hstep ⊢
    cases hstep with
    | same hsame _ hs =>
      rw [hsame.visible, hs]
      exact iff_of_true hc noKillStop_zero
    | @enter m forcedSignum e t' he hset _ hs =>
      rw [hset.visible hprotect, hs]
      constructor
      · exact fun hall signum hk hb => hall signum hk (handlerSigmask_blocks (.inr hb))
      · intro haction signum hk hb
        rcases blocks_handlerSigmask hb with hb | hb | rfl
        · rw [effectiveSigmask] at hb
          split at hb
          · next hvalid => exact (visible_of_valid hprotect hvalid ▸ hc) signum hk hb
          · exact not_blocks_zero hb
        · exact haction signum hk hb
        · -- the signal has an action
          cases (h.actions _ hk).symm.trans (entry_valid he)
    | restore hset _ hs => rw [hset.visible hprotect, hs]

end

/-- A system whose masks block neither `SIGKILL` nor `SIGSTOP`, without actions for them. -/
structure NeverBlocked (s : SignalSystem) : Prop extends KillStopBound s where
  guest : s.thread.sigmaskValid = true → NoKillStop s.thread.sigmask

theorem NeverBlocked.visible (h : NeverBlocked s) : NoKillStop (guestVisibleMask cfg s) := by
  unfold guestVisibleMask
  split
  · split
    · next hvalid => exact h.guest hvalid
    · exact h.host.initial
  · exact h.host

/-- The guest sees `SIGKILL` and `SIGSTOP` as unblocked, all through a run, exactly if no operation
takes a mask with one of them from the guest, or the runtime does not protect its signals and shows
the mask of the host. -/
theorem kill_stop_unblocked_iff (cfg : SignalConfig) (s : SignalSystem) (h : NeverBlocked s)
    (es : List (SignalKernel × SignalOp)) :
    (∀ js, js <+: es → NoKillStop (guestVisibleMask cfg ((signalMachine cfg).run s js))) ↔
      ∀ c ∈ (signalMachine cfg).cycles s es, cfg.protectRuntimeSignals = true →
        NoKillStop (supplies c) := by
  refine (signalMachine cfg).throughout_iff (I := KillStopBound)
    (P := fun s => NoKillStop (guestVisibleMask cfg s)) (fun s e h => apply_killStopBound h e.2)
    (fun s e h hc => ?_) h.toKillStopBound h.visible es
  by_cases hprotect : cfg.protectRuntimeSignals = true
  · exact (apply_killStop_iff hprotect h hc e.2).trans
      ⟨fun hall _ => hall, fun hall => hall hprotect⟩
  · have hvisible : ∀ s, guestVisibleMask cfg s = s.hostMask := fun s => if_neg hprotect
    rw [hvisible]
    exact iff_of_true (apply_killStopBound h e.2).host fun hp => absurd hp hprotect

theorem neverBlocked_of_reset (h : (signalMachine cfg).reset s) : NeverBlocked s where
  host := by
    rw [h.1]
    exact noKillStop_zero
  actions signum _ := h.2.2.2.1 signum
  guest hvalid := by
    rw [h.2.1] at hvalid
    cases hvalid

/-- A run with a delivery and a return, in which the guest unblocks signals. -/
theorem kill_stop_unblocked_iff_return :
    let cfg : SignalConfig := ⟨0, true, false⟩
    let s := (signalMachine cfg).run startSystem (maskBeforeHandler sigUnblock)
    s.thread.sigmaskValid = true ∧ NoKillStop (guestVisibleMask cfg s) := by
  intro cfg s
  have hcycles : ((signalMachine cfg).cycles startSystem (maskBeforeHandler sigUnblock)).map
      supplies = [0, 0, 0, 0, 0] := by decide +kernel
  refine ⟨by decide +kernel, ?_⟩
  refine (kill_stop_unblocked_iff cfg startSystem (neverBlocked_of_reset (reset_startSystem cfg))
    _).mpr (fun c hc _ => ?_) _ List.prefix_rfl
  have hmem := List.mem_map_of_mem (f := supplies) hc
  rw [hcycles] at hmem
  rw [show supplies c = 0 by simpa using hmem]
  exact noKillStop_zero

/-- The guest blocks a set with `SIGKILL`, and reads its mask back. -/
theorem sigkill_blocked :
    let cfg : SignalConfig := ⟨0, true, false⟩
    let s := (signalMachine cfg).run startSystem
      [(openKernel, .rtSigprocmask sigBlock 0x3000 0 8),
        (openKernel, .rtSigprocmask sigBlock 0 0x2000 8)]
    (signalMachine cfg).reset startSystem ∧ Blocks (guestVisibleMask cfg s) sigkill ∧
      polyGuestReadU64 openKernel.toSignalHost s.thread.mem 0x2000 = some 0x102 :=
  ⟨reset_startSystem _, by decide, by decide⟩

end Poly.Polyexec
