import Armd64.Proofs.SignalCalls
import Armd64.Proofs.SignalFailure

/-!
# Which signal is delivered

The loop over the pending signals takes the lowest one that is not blocked and has a handler. It
drops the lower ones that are not blocked and have none, and it leaves the blocked ones. So a signal
that is blocked waits, whatever happens to the thread.
-/

namespace Poly.Polyexec

open SignalArch

variable {host : SignalHost} {t t' : SignalThread}

namespace SignalArch

variable {μ σ : Type} {A : SignalArch μ σ} {forcedSignum : Nat}
  {faultAddress faultCode x86Rsp : BitVec 64} {e : HandlerEntry}

/-- A delivery that enters no handler changes the pending mask only, and drops no blocked signal; a
forced one not even that. -/
theorem tryDeliver_of_entry_none (hA : A.Marks) (h : A.entry host forcedSignum t = none) :
    ∃ pending, A.tryDeliver host forcedSignum faultAddress faultCode x86Rsp t =
        (false, { t with pending := pending }) ∧
      (forcedSignum ≠ 0 → pending = t.pending) ∧
      ∀ signum, Pending t.pending signum → polyGuestSignalMaskBlocks t signum →
        Pending pending signum := by
  obtain ⟨t', heq, hexit⟩ := tryDeliver_noEntry hA h
  have hkeeps (signum) (hp : Pending t.pending signum) (hb : polyGuestSignalMaskBlocks t signum) :
      Pending (selectSignal host A.mode forcedSignum t).1 signum :=
    selectSignal_kept hp fun hun => by simp [hun.unblocked] at hb
  rw [heq]
  cases hexit with
  | active => exact ⟨t.pending, rfl, fun _ => rfl, fun _ hp _ => hp⟩
  | noStack => exact ⟨_, rfl, selectSignal_forced, hkeeps⟩
  | suppressed hidle hsel hs =>
    -- a suppressed signal was selected, so it is not blocked
    have hforced := forced_of_suppressed hs
    subst hforced
    have hw := selectSignal_selected hsel
    refine ⟨_, rfl, fun hne => absurd rfl hne, fun signum hp hb => ?_⟩
    refine (pending_clear_iff hw.pending.1).mpr ⟨hkeeps signum hp hb, ?_⟩
    rintro rfl
    simp [hw.unblocked] at hb

/-- What the rest of the thread needs of an architecture: the active frame is a member of its
own. -/
structure Frames (A : SignalArch μ σ) : Prop extends A.Marks where
  active_pending : ∀ a t, (A.withActiveFrame a t).pending = t.pending
  active_sigmask : ∀ a t, (A.withActiveFrame a t).sigmask = t.sigmask
  active_sigmaskValid : ∀ a t, (A.withActiveFrame a t).sigmaskValid = t.sigmaskValid
  active_actions : ∀ a t, (A.withActiveFrame a t).actions = t.actions

theorem entered_pending (hA : A.Frames) :
    (A.entered host forcedSignum faultAddress faultCode x86Rsp e t).pending =
      if forcedSignum = 0 then
        (selectSignal host A.mode forcedSignum t).1 &&& ~~~pendingBit e.sig.signum
      else (selectSignal host A.mode forcedSignum t).1 :=
  hA.active_pending ..

theorem deriveHandler_pending (desc : DeriveDescriptor) :
    (deriveHandler host desc t).2.pending = t.pending := by
  rw [deriveHandler]
  split <;> rfl

theorem tryDeliver_keeps_blocked (hA : A.Frames) {signum : Nat} (hp : Pending t.pending signum)
    (hb : polyGuestSignalMaskBlocks t signum) :
    Pending (A.tryDeliver host forcedSignum faultAddress faultCode x86Rsp t).2.pending signum := by
  cases he : A.entry host forcedSignum t with
  | none =>
    obtain ⟨pending, heq, -, hkeeps⟩ := tryDeliver_of_entry_none hA.toMarks he
    rw [heq]
    exact hkeeps signum hp hb
  | some e =>
    rw [tryDeliver_of_entry hA.toMarks he, deriveHandler_pending, entered_pending hA]
    have hkept : Pending (selectSignal host A.mode forcedSignum t).1 signum :=
      selectSignal_kept hp fun hun => by simp [hun.unblocked] at hb
    split
    · next hforced =>
      subst hforced
      have hw := selectSignal_selected (entry_inv he).2.1
      refine (pending_clear_iff hw.pending.1).mpr ⟨hkept, ?_⟩
      rintro rfl
      simp [hw.unblocked] at hb
    · exact hkept

theorem tryDeliver_forced_pending (hA : A.Frames) (hf : forcedSignum ≠ 0) :
    (A.tryDeliver host forcedSignum faultAddress faultCode x86Rsp t).2.pending = t.pending := by
  cases he : A.entry host forcedSignum t with
  | none =>
    obtain ⟨pending, heq, hsame, -⟩ := tryDeliver_of_entry_none hA.toMarks he
    rw [heq, hsame hf]
  | some e =>
    rw [tryDeliver_of_entry hA.toMarks he, deriveHandler_pending, entered_pending hA, if_neg hf,
      selectSignal_forced hf]

def Delivers (A : SignalArch μ σ) (host : SignalHost) (forcedSignum : Nat)
    (faultAddress faultCode x86Rsp : BitVec 64) (t : SignalThread) (sig : SelectedSignal)
    (t' : SignalThread) : Prop :=
  ∃ signalSp alt,
    deriveHandler host (handlerDescriptor A.mode sig signalSp)
      (A.entered host forcedSignum faultAddress faultCode x86Rsp ⟨sig, signalSp, alt⟩ t) =
        (true, t')

theorem delivers_of_tryDeliver (hA : A.Marks)
    (h : A.tryDeliver host forcedSignum faultAddress faultCode x86Rsp t = (true, t')) :
    ∃ sig, (selectSignal host A.mode forcedSignum t).2 = some sig ∧
      A.Delivers host forcedSignum faultAddress faultCode x86Rsp t sig t' := by
  cases he : A.entry host forcedSignum t with
  | none =>
    obtain ⟨pending, heq, -, -⟩ := tryDeliver_of_entry_none hA he
    cases h.symm.trans heq
  | some e =>
    rw [tryDeliver_of_entry hA he] at h
    exact ⟨e.sig, (entry_inv he).2.1, e.signalSp, e.alt, h⟩

/-- An asynchronous delivery of `sig`: it is the lowest that waits, and no longer pending, nor are
the lower ones that are not blocked and have no handler. -/
structure Takes (A : SignalArch μ σ) (host : SignalHost) (t : SignalThread) (sig : SelectedSignal)
    (t' : SignalThread) : Prop where
  waits : Waits host A.mode t t.pending sig.signum
  lowest : ∀ signum < sig.signum, ¬Waits host A.mode t t.pending signum
  pending : ∀ signum, Pending t'.pending signum ↔ Pending t.pending signum ∧
    signum ≠ sig.signum ∧ ¬(signum < sig.signum ∧ Unhandled host A.mode t signum)

theorem takes_of_tryDeliver (hA : A.Frames)
    (h : A.tryDeliver host 0 faultAddress faultCode x86Rsp t = (true, t')) :
    ∃ sig, A.Delivers host 0 faultAddress faultCode x86Rsp t sig t' ∧ A.Takes host t sig t' := by
  obtain ⟨sig, hsel, signalSp, alt, hd⟩ := delivers_of_tryDeliver hA.toMarks h
  have hw := selectSignal_selected hsel
  refine ⟨sig, ⟨signalSp, alt, hd⟩, hw, fun _ hlow => selectSignal_lowest hsel hlow, fun _ => ?_⟩
  have ht' : t' = (deriveHandler host (handlerDescriptor A.mode sig signalSp)
      (A.entered host 0 faultAddress faultCode x86Rsp ⟨sig, signalSp, alt⟩ t)).2 := by
    rw [hd]
  rw [ht', deriveHandler_pending, entered_pending hA, if_pos rfl, pending_clear_iff hw.pending.1,
    selectSignal_pending hsel]
  tauto

end SignalArch

theorem aarch64Signals_frames : aarch64Signals.Frames :=
  ⟨aarch64Signals_marks, fun _ _ => rfl, fun _ _ => rfl, fun _ _ => rfl, fun _ _ => rfl⟩

theorem riscvSignals_frames : riscvSignals.Frames :=
  ⟨riscvSignals_marks, fun _ _ => rfl, fun _ _ => rfl, fun _ _ => rfl, fun _ _ => rfl⟩

/-! ## Operations in any order -/

theorem SignalArch.rtSigreturn_pending {μ σ : Type} {A : SignalArch μ σ} (hA : A.Frames)
    (hasTrapState : Bool) (x86Rsp : BitVec 64) :
    (A.rtSigreturn host hasTrapState x86Rsp t).2.pending = t.pending := by
  cases hm : A.restoredMask host hasTrapState t with
  | none => rw [rtSigreturn_of_none hm]
  | some mask =>
    obtain ⟨state, state', heq⟩ := rtSigreturn_of_some hm
    rw [heq]
    exact hA.active_pending ..

section

variable {cfg : SignalConfig} {kernel : SignalKernel} {s : SignalSystem} {signum : Nat}

theorem apply_keeps_blocked (op : SignalOp) (hp : Pending s.thread.pending signum)
    (hb : polyGuestSignalMaskBlocks s.thread signum) :
    Pending (op.apply cfg kernel s).thread.pending signum := by
  cases op with
  | rtSigprocmask how set oldset sigsetsize =>
    obtain ⟨hostMask, mem, sigmask, sigmaskValid, heq⟩ := guestRtSigprocmask_frame
    rw [SignalOp.apply, heq]
    exact hp
  | rtSigaction mode n act oldact sigsetsize =>
    obtain ⟨mem, actions, heq, -⟩ := rtSigaction_thread mode n act oldact sigsetsize s
    rw [SignalOp.apply, heq]
    exact hp
  | sigaltstack m newStackAddr oldStackAddr =>
    obtain ⟨mem, aarch64, riscv, heq⟩ :=
      sigaltstack_frame kernel.toSignalHost m newStackAddr oldStackAddr s.thread
    rw [SignalOp.apply, heq]
    exact hp
  | deliver m forcedSignum faultAddress faultCode x86Rsp =>
    cases m with
    | aarch64 => exact tryDeliver_keeps_blocked aarch64Signals_frames hp hb
    | riscv => exact tryDeliver_keeps_blocked riscvSignals_frames hp hb
  | rtSigreturn m hasTrapState x86Rsp =>
    cases m with
    | aarch64 =>
      exact (rtSigreturn_pending aarch64Signals_frames hasTrapState x86Rsp).symm ▸ hp
    | riscv =>
      exact (rtSigreturn_pending riscvSignals_frames hasTrapState x86Rsp).symm ▸ hp
  | hostSignal n =>
    rw [SignalOp.apply, polyVirtualSignalHostHandler]
    split
    · refine ⟨hp.1, ?_⟩
      rw [BitVec.getLsbD_or, hp.2, Bool.true_or]
    · exact hp
  | guest state mem => exact hp

theorem run_keeps_blocked {es : List (SignalKernel × SignalOp)}
    (hp : Pending s.thread.pending signum)
    (hb : ∀ c ∈ (signalMachine cfg).cycles s es,
      polyGuestSignalMaskBlocks c.1.thread signum) :
    Pending ((signalMachine cfg).run s es).thread.pending signum :=
  (signalMachine cfg).run_induction (P := fun s => Pending s.thread.pending signum) hp
    fun c hc hp => apply_keeps_blocked c.2.2 hp (hb c hc)

end

/-- Which signal an asynchronous delivery takes and what it drops, on both architectures. It takes a
signal that is not blocked; a forced delivery takes none from the pending ones. No operation drops a
blocked signal: it stays pending through every run in which it is blocked before each operation. -/
theorem signal_selection (cfg : SignalConfig) (host : SignalHost) (forcedSignum : Nat)
    (faultAddress faultCode x86Rsp : BitVec 64) (t t' : SignalThread) :
    -- asynchronous deliveries
    (polyTryDeliverAarch64Signal host 0 faultAddress faultCode x86Rsp t = (true, t') →
      ∃ sig, aarch64Signals.Delivers host 0 faultAddress faultCode x86Rsp t sig t' ∧
        aarch64Signals.Takes host t sig t') ∧
    (polyTryDeliverRiscvSignal host 0 faultAddress faultCode x86Rsp t = (true, t') →
      ∃ sig, riscvSignals.Delivers host 0 faultAddress faultCode x86Rsp t sig t' ∧
        riscvSignals.Takes host t sig t') ∧
    -- every path of a delivery
    (∀ m, let r := polyTryDeliverSignal m host forcedSignum faultAddress faultCode x86Rsp t
      (forcedSignum ≠ 0 → r.2.pending = t.pending) ∧
      ∀ signum, Pending t.pending signum → polyGuestSignalMaskBlocks t signum = true →
        Pending r.2.pending signum) ∧
    -- every run
    (∀ (s : SignalSystem) (es : List (SignalKernel × SignalOp)) (signum : Nat),
      Pending s.thread.pending signum →
      (∀ c ∈ (signalMachine cfg).cycles s es,
        polyGuestSignalMaskBlocks c.1.thread signum = true) →
      Pending ((signalMachine cfg).run s es).thread.pending signum) := by
  refine ⟨takes_of_tryDeliver aarch64Signals_frames,
    takes_of_tryDeliver riscvSignals_frames, fun m => ?_,
    fun _ _ _ => run_keeps_blocked⟩
  cases m with
  | aarch64 =>
    exact ⟨tryDeliver_forced_pending aarch64Signals_frames,
      fun _ => tryDeliver_keeps_blocked aarch64Signals_frames⟩
  | riscv =>
    exact ⟨tryDeliver_forced_pending riscvSignals_frames,
      fun _ => tryDeliver_keeps_blocked riscvSignals_frames⟩

/-- `SIGUSR1` is delivered with `SIGHUP` blocked and pending below it: `SIGHUP` stays. -/
theorem signal_selection_usr1 :
    let t := { usr1Thread modeRawAarch64 0x4000 with pending := 0x201 }
    let r := polyTryDeliverAarch64Signal mappedHost 0 0 0 0 t
    r.1 = true ∧ (∃ sig, aarch64Signals.Takes mappedHost t sig r.2) ∧ Pending r.2.pending 1 ∧
      ¬Pending r.2.pending 10 := by
  intro t r
  have hr : r.1 = true := by decide
  have hall := signal_selection ⟨0, false, false⟩ mappedHost 0 0 0 0 t r.2
  obtain ⟨sig, -, htakes⟩ := hall.1 (Prod.ext hr rfl)
  have hblocked : Pending r.2.pending 1 := (hall.2.2.1 .aarch64).2 1 (by decide) (by decide)
  exact ⟨hr, ⟨sig, htakes⟩, hblocked, by decide⟩

end Poly.Polyexec
