import Armd64.Proofs.Signals

/-!
# What a failed delivery leaves

A delivery can fail before it selects a signal, for want of a stack, or at the end, when
`PDERIVE_STATE` rejects the state of the handler. It drops the pending signals that have no handler
on its way. Two of its exits do more than that: it drops a `SIGCHLD` that asks for an alternate
stack that there is none of, and at the end the thread is already in the handler.
-/

namespace Poly.Polyexec

variable {host : SignalHost} {t t' : SignalThread}

/-- The signal that a delivery is for, and its action: the forced signal, or the lowest one of those
that wait. -/
inductive Due (host : SignalHost) (mode : BitVec 32) (t : SignalThread) :
    Nat → SelectedSignal → Prop
  | forced {sig : SelectedSignal} (hne : sig.signum ≠ 0) (hmode : t.state.currentMode = mode)
      (haction : polyGuestSignalActionDeliverable host mode t sig.signum = some sig.action) :
      Due host mode t sig.signum sig
  | waiting {sig : SelectedSignal} (hmode : t.state.eventRecord.sourceMode = mode)
      (hle : sig.signum ≤ 31) (hw : Waits host mode t t.pending sig.signum)
      (hlowest : ∀ signum < sig.signum, ¬Waits host mode t t.pending signum)
      (haction : polyGuestSignalActionDeliverable host mode t sig.signum = some sig.action) :
      Due host mode t 0 sig

section

variable {mode : BitVec 32} {forcedSignum : Nat} {sig : SelectedSignal}

theorem due_of_selectSignal (h : (selectSignal host mode forcedSignum t).2 = some sig) :
    Due host mode t forcedSignum sig := by
  by_cases hf : forcedSignum = 0
  · subst hf
    have hs := selectSignal_selects h
    have hmode : t.state.eventRecord.sourceMode = mode := by
      by_contra hne
      rw [selectSignal, if_neg (fun h => h rfl), if_pos (.inr hne)] at h
      cases h
    exact .waiting hmode (mem_candidates.mp (hs.waits sig h).1).2 (selectSignal_selected h)
      (fun _ => selectSignal_lowest h) (hs.action sig h)
  · rw [selectSignal, if_pos hf] at h
    split at h
    · cases h
    · next hmode =>
      obtain ⟨action, haction, rfl⟩ := Option.map_eq_some_iff.mp h
      exact @Due.forced host mode t ⟨forcedSignum, action⟩ hf (not_not.mp hmode) haction

theorem selectSignal_eq_some_iff :
    (selectSignal host mode forcedSignum t).2 = some sig ↔ Due host mode t forcedSignum sig := by
  refine ⟨due_of_selectSignal, fun h => ?_⟩
  cases h with
  | forced hne hmode haction =>
    rw [selectSignal, if_pos hne, if_neg (not_not.mpr hmode), haction]
    rfl
  | waiting hmode hle hw hlowest haction =>
    have hpending : t.pending ≠ 0 := by
      intro hzero
      have hbit := hw.pending.2
      rw [hzero] at hbit
      simp at hbit
    rw [selectSignal, if_neg (fun h => h rfl), if_neg (not_or.mpr ⟨hpending, not_not.mpr hmode⟩)]
    exact (candidates_select t.pending).eq_some (mem_candidates.mpr ⟨hw.pending.1, hle⟩) hw hlowest
      haction

end

namespace SignalArch

variable {μ σ : Type} {A : SignalArch μ σ} {forcedSignum : Nat}

variable {faultAddress faultCode x86Rsp : BitVec 64}

/-- A frame of `size` bytes at the top of a stack is mapped, if need be after the stack has grown. -/
def FrameMapped (host : SignalHost) (size : Nat) (top : BitVec 64) : Prop :=
  let signalSp := (top - BitVec.ofNat 64 size) &&& ~~~0xf#64
  polyGuestRangeIsMapped host.probe signalSp size true = true ∨
    polyGuestRangeIsMapped host.probeAfterPrefault signalSp size true = true

/-- There is no room for the frame: on the alternate stack, where the action asks for one that can be
used, or else on the stack of the thread. A `SIGCHLD` that asks for an alternate stack has no claim
to the stack of the thread. -/
def NoStack (A : SignalArch μ σ) (host : SignalHost) (forcedSignum : Nat) (t : SignalThread)
    (sig : SelectedSignal) : Prop :=
  let a := A.signals t
  let size := signalTotalSize A.frameSize
  let sp := A.sp (A.saved t.state).gpr
  vsigStackSize ≤ size ∨
    if useAltstack host a sig.action.flags size then ¬FrameMapped host size (a.altSp + a.altSize)
    else
      ¬(sig.signum = sigchld ∧ forcedSignum = 0 ∧ sig.action.flags &&& saOnstack ≠ 0) ∧
        (sp.toNat < size ∨ ¬FrameMapped host size sp)

theorem stackFor_eq_unavailable_iff {sig : SelectedSignal} :
    A.stackFor host forcedSignum t sig = .unavailable ↔ A.NoStack host forcedSignum t sig := by
  unfold stackFor signalStack NoStack FrameMapped
  dsimp only
  by_cases hsize : vsigStackSize ≤ signalTotalSize A.frameSize
  · simp [hsize]
  rw [if_neg hsize, or_iff_right hsize]
  cases useAltstack host (A.signals t) sig.action.flags (signalTotalSize A.frameSize) with
  | true => simp
  | false =>
    simp only [Bool.not_false, Bool.false_eq_true, and_true, true_and, if_false]
    split_ifs <;> simp_all

/-- No effect on registers, native-return stack, mask and active frame, and every signal that waits
is still pending. -/
structure NoEffect (A : SignalArch μ σ) (host : SignalHost) (t t' : SignalThread) : Prop where
  state : t'.state = t.state
  sigmask : t'.sigmask = t.sigmask
  sigmaskValid : t'.sigmaskValid = t.sigmaskValid
  activeFrame : (A.signals t').activeFrame = (A.signals t).activeFrame
  pending : ∀ signum, Waits host A.mode t t.pending signum → Pending t'.pending signum

theorem noEffect_select (hA : A.Marks) :
    A.NoEffect host t { t with pending := (selectSignal host A.mode forcedSignum t).1 } where
  state := rfl
  sigmask := rfl
  sigmaskValid := rfl
  activeFrame := by rw [hA.pending]
  pending _ hw := selectSignal_kept hw.pending fun hun => by
    simpa [hun.undeliverable] using hw.deliverable

/-- A failed delivery has no effect exactly when a frame is active, no signal is due, or there is no
stack for the one that is. -/
theorem failed_iff (hA : A.Marks)
    (h : (A.tryDeliver host forcedSignum faultAddress faultCode x86Rsp t).1 = false) :
    A.NoEffect host t (A.tryDeliver host forcedSignum faultAddress faultCode x86Rsp t).2 ↔
      (A.signals t).activeFrame ≠ 0 ∨
        ∀ sig, Due host A.mode t forcedSignum sig → A.NoStack host forcedSignum t sig := by
  simp only [← selectSignal_eq_some_iff, ← stackFor_eq_unavailable_iff]
  cases he : A.entry host forcedSignum t with
  | none =>
    obtain ⟨t', heq, hexit⟩ := tryDeliver_noEntry hA he
    rw [heq]
    cases hexit with
    | active hactive =>
      exact iff_of_true ⟨rfl, rfl, rfl, rfl, fun _ hw => hw.pending⟩ (.inl hactive)
    | noStack hnone => exact iff_of_true (noEffect_select hA) (.inr hnone)
    | @suppressed sig hidle hsel hs =>
      -- the signal waited, and is not pending any more
      have hforced := forced_of_suppressed hs
      subst hforced
      have hw := selectSignal_selected hsel
      refine iff_of_false (fun hno => ?_) ?_
      · exact ((pending_clear_iff hw.pending.1).mp (hno.pending _ hw)).2 rfl
      · rintro (hactive | hall)
        · exact hactive hidle
        · cases hs.symm.trans (hall sig hsel)
  | some e =>
    -- the frame of the handler is active
    obtain ⟨hidle, hsel, hs⟩ := entry_inv he
    rw [tryDeliver_of_entry hA he, deriveHandler] at h ⊢
    split at h
    · refine iff_of_false (fun hno => ?_) ?_
      · have hactive := hno.activeFrame
        obtain ⟨hnonzero, hfits⟩ := signalStack_bounds (signalTotalSize_ne_zero _) hs
        dsimp only at hactive
        rw [entered, enterHandler, hA.active, hidle] at hactive
        exact (frameSpOf_bounds hnonzero hfits).2.2 hactive
      · rintro (hactive | hall)
        · exact hactive hidle
        · cases hs.symm.trans (hall _ hsel)
    · cases h

end SignalArch

/-- The failed deliveries without effect: a frame is active, no signal is due, or there is no stack
for the one that is. The others drop a `SIGCHLD` that waits, or leave the thread in the handler. -/
theorem failed_delivery_iff (host : SignalHost) (forcedSignum : Nat)
    (faultAddress faultCode x86Rsp : BitVec 64) (t : SignalThread) :
    ((polyTryDeliverAarch64Signal host forcedSignum faultAddress faultCode x86Rsp t).1 = false →
      (aarch64Signals.NoEffect host t
          (polyTryDeliverAarch64Signal host forcedSignum faultAddress faultCode x86Rsp t).2 ↔
        t.aarch64.activeFrame ≠ 0 ∨
          ∀ sig, Due host modeRawAarch64 t forcedSignum sig →
            aarch64Signals.NoStack host forcedSignum t sig)) ∧
    ((polyTryDeliverRiscvSignal host forcedSignum faultAddress faultCode x86Rsp t).1 = false →
      (riscvSignals.NoEffect host t
          (polyTryDeliverRiscvSignal host forcedSignum faultAddress faultCode x86Rsp t).2 ↔
        t.riscv.activeFrame ≠ 0 ∨
          ∀ sig, Due host modeRawRiscv t forcedSignum sig →
            riscvSignals.NoStack host forcedSignum t sig)) :=
  ⟨SignalArch.failed_iff aarch64Signals_marks, SignalArch.failed_iff riscvSignals_marks⟩

/-- A thread whose stack has no room for the frame of `SIGUSR1`, and which has no alternate stack. -/
theorem failed_delivery_iff_noStack :
    let t := usr1Thread modeRawAarch64 0x4000
    let t := { t with state := { t.state with aarch64Gpr := .replicate 32 0x100 } }
    let r := polyTryDeliverAarch64Signal mappedHost 0 0 0 0 t
    r.1 = false ∧ t.aarch64.activeFrame = 0 ∧ Waits mappedHost modeRawAarch64 t t.pending 10 ∧
      aarch64Signals.NoEffect mappedHost t r.2 := by
  intro t₀ t r
  have hfails : r.1 = false := by decide
  refine ⟨hfails, by decide, ⟨by decide, by decide, by decide⟩,
    ((failed_delivery_iff mappedHost 0 0 0 0 t).1 hfails).mpr (.inr fun sig hdue => ?_)⟩
  have hsel : (selectSignal mappedHost modeRawAarch64 0 t).2 =
      some ⟨10, ⟨0x5000, 0x7000, 0, 0⟩⟩ := by decide
  rw [← Option.some.inj (hsel.symm.trans (selectSignal_eq_some_iff.mpr hdue))]
  exact SignalArch.stackFor_eq_unavailable_iff.mp (by decide)

/-- A host with all memory mapped, whose `PDERIVE_STATE` rejects every descriptor. -/
def rejectingHost : SignalHost := { mappedHost with derive := fun _ _ => none }

/-- `PDERIVE_STATE` rejects the handler of `SIGUSR1`: the signal is no longer pending, and the
thread has mask, active frame and stack pointer of the handler. -/
theorem rejected_delivery :
    let t := usr1Thread modeRawAarch64 0x4000
    let r := polyTryDeliverAarch64Signal rejectingHost 0 0 0 0 t
    r.1 = false ∧ Waits rejectingHost modeRawAarch64 t t.pending 10 ∧ ¬Pending r.2.pending 10 ∧
      r.2.sigmask = 0x201 ∧ t.aarch64.activeFrame = 0 ∧ r.2.aarch64.activeFrame ≠ 0 ∧
      r.2.state.foreignPc = 0x5000 ∧ ¬aarch64Signals.NoEffect rejectingHost t r.2 := by
  intro t r
  have hwaits : Waits rejectingHost modeRawAarch64 t t.pending 10 := ⟨by decide, by decide, by decide⟩
  have hgone : ¬Pending r.2.pending 10 := by decide
  exact ⟨by decide, hwaits, hgone, by decide, by decide, by decide, by decide,
    fun h => hgone (h.pending 10 hwaits)⟩

end Poly.Polyexec
