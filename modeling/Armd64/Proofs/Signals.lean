import Armd64.Proofs.SignalDelivery

/-!
# A signal handler returns to where it interrupted

A delivery writes the interrupted context to a frame, and `rt_sigreturn` reads it back. What the
handler does between the two does not matter, as long as it leaves the frame.
-/

namespace Poly.Polyexec

open Hw

variable {host host' : SignalHost} {t t' : SignalThread}

/-! ## The parts of a delivery -/

variable {pc alt signalSp faultAddress faultCode x86Rsp : BitVec 64} {mode : BitVec 32}
  {forcedSignum n : Nat} {sig : SelectedSignal}

theorem fallback_eq_zero (h : (if pc = 0 ∧ alt ≠ 0 then alt else pc) = 0) : pc = 0 ∧ alt = 0 := by
  split at h
  · next hc => exact absurd h hc.2
  · next hc => exact ⟨h, not_not.mp fun ha => hc ⟨h, ha⟩⟩

theorem guarded_fallback_eq_zero {p : Prop} [Decidable p]
    (h : (if pc = 0 ∧ alt ≠ 0 ∧ p then alt else pc) = 0) : pc = 0 := by
  split at h
  · next hc => exact absurd h hc.2.1
  · exact h

theorem interruptedPc_eq_zero {link : BitVec 64} {s : XsaveState}
    (h : interruptedPc host mode forcedSignum link s = 0) :
    s.eventRecord.resumePc = 0 ∧ s.eventRecord.trapPc = 0 := by
  obtain ⟨hpc, htrap⟩ := fallback_eq_zero (guarded_fallback_eq_zero h)
  exact ⟨(fallback_eq_zero hpc).2, htrap⟩

theorem interruptedPc_restored (mode : BitVec 32) (forcedSignum : Nat) (link : BitVec 64)
    (s : XsaveState) :
    restoredPc (interruptedPc host mode forcedSignum link s) s.eventRecord =
      interruptedPc host mode forcedSignum link s := by
  unfold restoredPc
  split
  · next h =>
    obtain ⟨hresume, htrap⟩ := interruptedPc_eq_zero h
    rw [hresume, htrap, if_neg (not_not.mpr rfl), if_neg (not_not.mpr rfl)]
  · rfl

theorem mapped_bounds {probe : BitVec 64 → Nat → Bool → Bool} {a : BitVec 64} {w : Bool}
    (hn : n ≠ 0) (h : polyGuestRangeIsMapped probe a n w) :
    a ≠ 0 ∧ a.toNat ≤ 2 ^ 64 - 1 - n := by
  rw [polyGuestRangeIsMapped, if_neg hn] at h
  split at h
  · exact absurd h Bool.false_ne_true
  · next hne => exact ⟨fun ha => hne (.inl ha), by omega⟩

theorem signalStack_bounds {a : ArchSignals} {sp : BitVec 64} {alt : Bool} (hn : n ≠ 0)
    (h : signalStack host a sig forcedSignum sp n = .at signalSp alt) :
    signalSp ≠ 0 ∧ signalSp.toNat ≤ 2 ^ 64 - 1 - n := by
  unfold signalStack at h
  dsimp only at h
  generalize (if useAltstack host a sig.action.flags n = true then a.altSp + a.altSize else sp) =
    top at h
  split at h
  · exact nomatch h
  · split at h
    · exact nomatch h
    · split at h
      · exact nomatch h
      · split at h
        · next hm =>
          injection h with hsp
          subst hsp
          rw [Bool.or_eq_true] at hm
          exact hm.elim (mapped_bounds hn) (mapped_bounds hn)
        · exact nomatch h

/-! ## Frames in memory -/

/-- The handler leaves the frame of `size` bytes as it is, and the return can read it. -/
structure LeavesFrame (host : SignalHost) (size : Nat) (a a' : ArchSignals)
    (mem mem' : Memory) : Prop where
  active : a'.activeFrame = a.activeFrame
  bytes : ∀ i < size,
    mem' (a.activeFrame + BitVec.ofNat 64 i) = mem (a.activeFrame + BitVec.ofNat 64 i)
  probe : host.probe a.activeFrame size false = true

theorem frameSpOf_bounds (h0 : signalSp ≠ 0)
    (h : signalSp.toNat ≤ 2 ^ 64 - 1 - signalTotalSize n) :
    (frameSpOf signalSp).toNat = signalSp.toNat + callAreaSize ∧
      signalSp.toNat + callAreaSize + n < 2 ^ 64 ∧ frameSpOf signalSp ≠ 0 := by
  have htotal : callAreaSize + n ≤ signalTotalSize n := by
    unfold signalTotalSize
    omega
  have hcall : callAreaSize = 32 := rfl
  have hpos : 0 < signalSp.toNat := Nat.pos_of_ne_zero fun hz => h0 (BitVec.eq_of_toNat_eq hz)
  have hsum : (frameSpOf signalSp).toNat = signalSp.toNat + callAreaSize := by
    rw [frameSpOf, BitVec.toNat_add, BitVec.toNat_ofNat, hcall]
    omega
  refine ⟨hsum, by omega, fun hz => ?_⟩
  rw [hz] at hsum
  simp [hcall] at hsum

theorem read_of_bytes {α : Type} {codec : Codec α} {x : α} {addr : BitVec 64} {mem mem' : Memory}
    (h : Holds mem addr (wordBytes (codec.enc x)))
    (hb : ∀ i < sizeofCodec codec, mem' (addr + BitVec.ofNat 64 i) =
      mem (addr + BitVec.ofNat 64 i)) :
    codec.read mem' addr = x := by
  refine codec.read_of_holds fun i b hbyte => ?_
  have hi := (List.getElem?_eq_some_iff.mp hbyte).1
  rw [length_wordBytes, codec.length_enc] at hi
  rw [hb i hi]
  exact h i b hbyte

/-! ## Delivery -/

theorem frameRejected_signalFrame {μ σ : Type} {A : SignalArch μ σ} {alt : Bool}
    (h1 : 1 ≤ sig.signum) (hlt : sig.signum < signalActionCount) :
    frameRejected A.magic A.frameSize
      (A.signalFrame host forcedSignum faultAddress faultCode x86Rsp sig signalSp alt t) =
        false := by
  have hcount : signalActionCount = 65 := rfl
  have hsig : (BitVec.ofNat 64 sig.signum).toNat = sig.signum := by
    rw [BitVec.toNat_ofNat]
    omega
  have h0 : (BitVec.ofNat 64 sig.signum == 0) = false := by
    rw [beq_eq_false_iff_ne, ← BitVec.toNat_ne_iff_ne, hsig]
    exact Nat.one_le_iff_ne_zero.mp h1
  show (A.magic != A.magic || BitVec.ofNat 64 A.frameSize != BitVec.ofNat 64 A.frameSize ||
    BitVec.ofNat 64 sig.signum == 0 ||
    decide (signalActionCount ≤ (BitVec.ofNat 64 sig.signum).toNat)) = false
  rw [bne_self_eq_false, bne_self_eq_false, h0, hsig, decide_eq_false (Nat.not_le.mpr hlt)]
  rfl

namespace SignalArch

/-- What the round trip needs of an architecture with the live registers `live`, whose
`PDERIVE_STATE` stores a return value and a stack pointer by `withResult`. -/
structure Lawful {μ σ : Type} (A : SignalArch μ σ) (live : XsaveState → SignalContext σ)
    (withResult : Gprs → BitVec 64 → BitVec 64 → Gprs) : Prop extends A.Marks where
  size : A.frameSize < vsigStackSize
  active_state : ∀ a t, (A.withActiveFrame a t).state = t.state
  active_mem : ∀ a t, (A.withActiveFrame a t).mem = t.mem
  active_sigmask : ∀ a t, effectiveSigmask (A.withActiveFrame a t) = effectiveSigmask t
  signals_state : ∀ t s, A.signals { t with state := s } = A.signals t
  frameAddr : ∀ t, (A.signals t).activeFrame ≠ 0 → A.frameAddr t = (A.signals t).activeFrame
  mcontextPc : ∀ faultAddress pc saved, A.mcontextPc (A.mcontext faultAddress pc saved) = pc
  restore_pc : ∀ frame sp s, (A.restore frame sp s).foreignPc = s.foreignPc
  restore_event : ∀ frame sp s, (A.restore frame sp s).eventRecord = s.eventRecord
  restore_nativeReturn : ∀ frame sp s, (A.restore frame sp s).nativeReturn = s.nativeReturn
  /-- The registers that a frame gives back are those that it keeps. -/
  restore_live : ∀ {faultAddress pc saved frame} sp s,
    frame.ucontext.mcontext = A.mcontext faultAddress pc saved →
    ⟨frame.gpr, frame.fp, frame.status⟩ = A.framed saved →
    let ctx := live (A.restore frame sp s)
    let m := frame.ucontext.mcontext
    { ctx with gpr := withResult ctx.gpr (A.mcontextResult m) (A.mcontextSp m) } = A.framed saved

variable {μ σ : Type} {A : SignalArch μ σ} {live : XsaveState → SignalContext σ}
  {withResult : Gprs → BitVec 64 → BitVec 64 → Gprs} {e : HandlerEntry} {frame : SignalFrame μ σ}
  {t₁ : SignalThread}

/-- A frame of the registers of `t` and of a pc that a return restores. -/
structure SavesAt (A : SignalArch μ σ) (pc : BitVec 64) (t : SignalThread)
    (frame : SignalFrame μ σ) : Prop where
  accepted : frameRejected A.magic A.frameSize frame = false
  mcontext : ∃ faultAddress,
    frame.ucontext.mcontext = A.mcontext faultAddress pc (A.saved t.state)
  context : ⟨frame.gpr, frame.fp, frame.status⟩ = A.framed (A.saved t.state)
  pc : restoredPc pc frame.savedEventRecord = pc
  nativeReturn : frame.savedNativeReturn = t.state.nativeReturn
  sigmask : frame.guestSigmask = effectiveSigmask t

/-- A delivery to `t` has entered a handler and put its frame above the call area, in `t₁`. -/
structure Placed (A : SignalArch μ σ) (host : SignalHost) (forcedSignum : Nat) (t : SignalThread)
    (e : HandlerEntry) (frame : SignalFrame μ σ) (t₁ : SignalThread) : Prop where
  signum : e.sig.signum < signalActionCount
  nonzero : e.signalSp ≠ 0
  fits : e.signalSp.toNat ≤ 2 ^ 64 - 1 - signalTotalSize A.frameSize
  saves : A.SavesAt (A.interruptedPc host forcedSignum t) t frame
  args : frame.handlerArgs = frameHandlerArgs e.sig (frameSpOf e.signalSp)
  active : (A.signals t₁).activeFrame = frameSpOf e.signalSp
  mem : t₁.mem = A.codec.write (writeCallArea t.mem e.signalSp frame.handlerArgs)
    (frameSpOf e.signalSp) frame
  derived : ∃ s, host.derive s (handlerDescriptor A.mode e.sig e.signalSp) = some t₁.state

theorem signalTotalSize_ne_zero (n : Nat) : signalTotalSize n ≠ 0 := by
  rw [signalTotalSize, callAreaSize]
  omega

theorem savesAt_signalFrame {pending : BitVec 32} (h1 : 1 ≤ e.sig.signum)
    (hlt : e.sig.signum < signalActionCount) :
    A.SavesAt (A.interruptedPc host forcedSignum t) t
      (A.signalFrame host forcedSignum faultAddress faultCode x86Rsp e.sig e.signalSp e.alt
        { t with pending := pending }) where
  accepted := frameRejected_signalFrame h1 hlt
  mcontext := ⟨faultAddress, rfl⟩
  context := rfl
  pc := interruptedPc_restored ..
  nativeReturn := rfl
  sigmask := rfl

theorem placed_of_tryDeliver (hA : A.Lawful live withResult)
    (h : (A.tryDeliver host forcedSignum faultAddress faultCode x86Rsp t).1) :
    ∃ e frame, A.Placed host forcedSignum t e frame
      (A.tryDeliver host forcedSignum faultAddress faultCode x86Rsp t).2 := by
  cases he : A.entry host forcedSignum t with
  | none =>
    obtain ⟨t', heq, -⟩ := tryDeliver_noEntry hA.toMarks he
    rw [heq] at h
    cases h
  | some e =>
    obtain ⟨h1, hlt⟩ := entry_signum he
    obtain ⟨hnonzero, hfits⟩ := signalStack_bounds (signalTotalSize_ne_zero _) (entry_inv he).2.2
    rw [tryDeliver_of_entry hA.toMarks he, deriveHandler] at h ⊢
    split at h
    · cases h
    · next state hstate =>
      refine ⟨e, A.signalFrame host forcedSignum faultAddress faultCode x86Rsp e.sig e.signalSp
        e.alt { t with pending := (selectSignal host A.mode forcedSignum t).1 }, hlt, hnonzero,
        hfits, savesAt_signalFrame h1 hlt, rfl, ?_, ?_, _, hstate⟩
      · show (A.signals { A.withActiveFrame _ _ with state := state }).activeFrame = _
        rw [hA.signals_state, hA.active]
      · exact hA.active_mem ..

end SignalArch

/-! ## Return -/

/-- `PDERIVE_STATE` succeeds, and stores pc, stack pointer and return value. It may also store the
pc in the event record. -/
structure DerivesExactly (host : SignalHost) : Prop where
  succeeds : ∀ s d, ∃ s', host.derive s d = some s'
  pc : ∀ {s d s'}, host.derive s d = some s' → s'.foreignPc = d.childPc
  resumePc : ∀ {s d s'}, host.derive s d = some s' →
    s'.eventRecord.resumePc = s.eventRecord.resumePc ∨ s'.eventRecord.resumePc = d.childPc
  nativeReturn : ∀ {s d s'}, host.derive s d = some s' → s'.nativeReturn = s.nativeReturn
  aarch64 : ∀ {s d s'}, host.derive s d = some s' → d.frontend = modeRawAarch64 →
    aarch64Live s' =
      { aarch64Live s with gpr := aarch64WithResult s.aarch64Gpr d.childReturnValue d.childSp }
  riscv : ∀ {s d s'}, host.derive s d = some s' → d.frontend = modeRawRiscv →
    riscvLive s' =
      { riscvLive s with gpr := riscvWithResult s.riscvGpr d.childReturnValue d.childSp }

/-- The thread `t'` is where `t` was interrupted: its registers are `ctx`, and it goes on at
`pc`. -/
structure BackAt {σ : Type} (live : XsaveState → SignalContext σ)
    (arch : SignalThread → ArchSignals) (ctx : SignalContext σ) (pc : BitVec 64)
    (t t' : SignalThread) : Prop where
  context : live t'.state = ctx
  foreignPc : t'.state.foreignPc = pc
  resumePc : t'.state.eventRecord.resumePc = pc
  nativeReturn : t'.state.nativeReturn = t.state.nativeReturn
  sigmask : effectiveSigmask t' = effectiveSigmask t
  inactive : (arch t').activeFrame = 0

theorem resumedEvent_resumePc (mode : BitVec 32) (pc : BitVec 64) (saved : EventRecord) :
    (resumedEvent mode pc saved).resumePc = pc := by
  rw [resumedEvent]
  split <;> rfl

theorem deriveResumed_backAt {σ : Type} {live : XsaveState → SignalContext σ}
    {arch : SignalThread → ArchSignals} {ctx : SignalContext σ} {t r : SignalThread}
    {desc : DeriveDescriptor} (hd : DerivesExactly host)
    (hctx : ∀ {s}, host.derive r.state desc = some s → live s = ctx) (hpc : desc.childPc = pc)
    (hresume : r.state.eventRecord.resumePc = pc)
    (hnative : r.state.nativeReturn = t.state.nativeReturn)
    (hmask : effectiveSigmask r = effectiveSigmask t)
    (hactive : ∀ s, (arch { r with state := s }).activeFrame = 0) :
    BackAt live arch ctx pc t (deriveResumed host desc r).2 := by
  obtain ⟨s, hs⟩ := hd.succeeds r.state desc
  rw [deriveResumed, hs]
  refine ⟨hctx hs, (hd.pc hs).trans hpc, ?_, (hd.nativeReturn hs).trans hnative, hmask, hactive s⟩
  exact (hd.resumePc hs).elim (·.trans hresume) (·.trans hpc)

namespace SignalArch

variable {μ σ : Type} {A : SignalArch μ σ} {live : XsaveState → SignalContext σ}
  {withResult : Gprs → BitVec 64 → BitVec 64 → Gprs} {frame : SignalFrame μ σ}

variable {x86Rsp : BitVec 64}

theorem returned_of_read (hA : A.Lawful live withResult) (hd : DerivesExactly host')
    (hlive : ∀ {s d s'}, host'.derive s d = some s' → d.frontend = A.mode → live s' =
      { live s with gpr := withResult (live s).gpr d.childReturnValue d.childSp })
    {pc : BitVec 64} (hs : A.SavesAt pc t frame)
    (hmapped : polyGuestRangeIsMapped host'.probe (A.frameAddr t') A.frameSize false)
    (hread : A.codec.read t'.mem (A.frameAddr t') = frame) :
    BackAt live A.signals (A.framed (A.saved t.state)) pc t
      (A.rtSigreturn host' true x86Rsp t').2 := by
  obtain ⟨faultAddress, hm⟩ := hs.mcontext
  have hpc : restoredPc (A.mcontextPc frame.ucontext.mcontext) frame.savedEventRecord = pc := by
    rw [hm, hA.mcontextPc]
    exact hs.pc
  unfold rtSigreturn
  simp only [Bool.not_true, Bool.false_eq_true, if_false, hmapped, hread, hs.accepted]
  refine deriveResumed_backAt hd (fun hder => ?_) ?_ ?_ ?_ ?_ fun s => ?_
  · rw [hA.active_state] at hder
    rw [hlive hder rfl]
    exact hA.restore_live _ _ hm hs.context
  · exact (hA.restore_pc ..).trans hpc
  · rw [hA.active_state, hA.restore_event]
    exact (resumedEvent_resumePc ..).trans hpc
  · rw [hA.active_state, hA.restore_nativeReturn]
    exact hs.nativeReturn
  · rw [hA.active_sigmask]
    exact hs.sigmask
  · rw [hA.signals_state, hA.active]

theorem found (hA : A.Lawful live withResult) (hd : DerivesExactly host')
    (hlive : ∀ {s d s'}, host'.derive s d = some s' → d.frontend = A.mode → live s' =
      { live s with gpr := withResult (live s).gpr d.childReturnValue d.childSp })
    (h : A.Placed host forcedSignum t e frame t₁) (haddr : A.frameAddr t' = frameSpOf e.signalSp)
    (hbytes : ∀ i < A.frameSize, t'.mem (frameSpOf e.signalSp + BitVec.ofNat 64 i) =
      t₁.mem (frameSpOf e.signalSp + BitVec.ofNat 64 i))
    (hprobe : host'.probe (frameSpOf e.signalSp) A.frameSize false) :
    BackAt live A.signals (A.framed (A.saved t.state)) (A.interruptedPc host forcedSignum t) t
      (A.rtSigreturn host' true x86Rsp t').2 := by
  obtain ⟨hsp, hlt, hne⟩ := frameSpOf_bounds h.nonzero h.fits
  have hsize := hA.size
  have hstack : vsigStackSize = 65536 := rfl
  refine returned_of_read hA hd hlive h.saves ?_ ?_
  · rw [haddr, polyGuestRangeIsMapped]
    split
    · rfl
    · rw [if_neg, hprobe]
      rintro (h0 | h0)
      · exact hne h0
      · omega
  · rw [haddr]
    refine read_of_bytes ?_ hbytes
    rw [h.mem]
    refine holds_store ?_
    rw [length_wordBytes, A.codec.length_enc]
    show A.frameSize ≤ _
    omega

end SignalArch

/-! ## The round trip -/

theorem SignalArch.round_trip {μ σ : Type} {A : SignalArch μ σ}
    {live : XsaveState → SignalContext σ} {withResult : Gprs → BitVec 64 → BitVec 64 → Gprs}
    (hA : A.Lawful live withResult) (hd : DerivesExactly host')
    (hlive : ∀ {s d s'}, host'.derive s d = some s' → d.frontend = A.mode → live s' =
      { live s with gpr := withResult (live s).gpr d.childReturnValue d.childSp })
    {x86Rsp' : BitVec 64} (h : (A.tryDeliver host 0 faultAddress faultCode x86Rsp t).1)
    (hl : let t₁ := (A.tryDeliver host 0 faultAddress faultCode x86Rsp t).2
      LeavesFrame host' A.frameSize (A.signals t₁) (A.signals t') t₁.mem t'.mem) :
    BackAt live A.signals (A.framed (A.saved t.state)) (A.interruptedPc host 0 t) t
      (A.rtSigreturn host' true x86Rsp' t').2 := by
  obtain ⟨e, frame, hplaced⟩ := placed_of_tryDeliver hA h
  have hactive := hl.active.trans hplaced.active
  refine found hA hd hlive hplaced ?_ (hplaced.active ▸ hl.bytes) (hplaced.active ▸ hl.probe)
  have hne := (frameSpOf_bounds hplaced.nonzero hplaced.fits).2.2
  rw [hA.frameAddr t' fun h0 => hne (hactive.symm.trans h0), hactive]

def aarch64Interrupted (host : SignalHost) (t : SignalThread) :
    SignalContext Aarch64Status × BitVec 64 :=
  (aarch64Saved t.state,
    interruptedPc host modeRawAarch64 0 (aarch64Link t.state.aarch64Gpr) t.state)

/-- The RISC-V context that a delivery interrupts, as far as `fcsr` has bits. -/
def riscvInterrupted (host : SignalHost) (t : SignalThread) :
    SignalContext (BitVec 64) × BitVec 64 :=
  let saved := riscvSaved t.state
  ({ saved with status := saved.status &&& riscvFcsrMask },
    interruptedPc host modeRawRiscv 0 (riscvRa t.state.riscvGpr) t.state)

theorem aarch64WithResult_mcontext (faultAddress pc : BitVec 64)
    (saved : SignalContext Aarch64Status) :
    let m := aarch64Mcontext faultAddress pc saved
    aarch64WithResult (m.regs.push m.sp) m.x0 m.sp = saved.gpr := by
  have hgpr : (saved.gpr.pop.push (aarch64Sp saved.gpr) : Gprs) = saved.gpr :=
    Vector.push_pop_back saved.gpr
  show aarch64WithResult (saved.gpr.pop.push (aarch64Sp saved.gpr)) _ _ = _
  rw [hgpr, Aarch64Sigcontext.x0, aarch64WithResult, aarch64Mcontext, Vector.getElem_pop,
    Vector.set_getElem_self]
  exact Vector.set_getElem_self _

theorem aarch64Signals_lawful : aarch64Signals.Lawful aarch64Live aarch64WithResult where
  toMarks := aarch64Signals_marks
  size := by decide
  active_state _ _ := rfl
  active_mem _ _ := rfl
  active_sigmask _ _ := rfl
  signals_state _ _ := rfl
  frameAddr _ h := if_neg h
  mcontextPc _ _ _ := rfl
  restore_pc _ _ _ := rfl
  restore_event _ _ _ := rfl
  restore_nativeReturn _ _ _ := rfl
  restore_live := by
    intro faultAddress pc saved frame sp s hm hc
    have hfp : frame.fp = saved.fp := congrArg SignalContext.fp hc
    have hstatus : frame.status = saved.status := congrArg SignalContext.status hc
    show SignalContext.mk (aarch64WithResult (frame.ucontext.mcontext.regs.push _) _ _) frame.fp
      frame.status = saved
    rw [hm, hfp, hstatus]
    exact congrArg (SignalContext.mk · _ _) (aarch64WithResult_mcontext faultAddress pc saved)

theorem riscvZeroed_riscvZeroed (gpr : Gprs) : riscvZeroed (riscvZeroed gpr) = riscvZeroed gpr :=
  Vector.set_set ..

theorem riscvWithResult_self (gpr : Gprs) :
    riscvWithResult gpr (riscvA0 gpr) (riscvSp gpr) = gpr := by
  rw [riscvWithResult, riscvA0, Vector.set_getElem_self]
  exact Vector.set_getElem_self _

theorem riscvSignals_lawful : riscvSignals.Lawful riscvLive riscvWithResult where
  toMarks := riscvSignals_marks
  size := by decide
  active_state _ _ := rfl
  active_mem _ _ := rfl
  active_sigmask _ _ := rfl
  signals_state _ _ := rfl
  frameAddr _ h := if_neg fun h0 => h h0.1
  mcontextPc _ _ _ := rfl
  restore_pc _ _ _ := rfl
  restore_event _ _ _ := rfl
  restore_nativeReturn _ _ _ := rfl
  restore_live := by
    intro faultAddress pc saved frame sp s hm hc
    have hfp : frame.fp = saved.fp := congrArg SignalContext.fp hc
    have hgpr : riscvWithResult (riscvZeroed (riscvZeroed saved.gpr))
        (riscvA0 (riscvZeroed saved.gpr)) (riscvSp (riscvZeroed saved.gpr)) =
          riscvZeroed saved.gpr := by
      rw [riscvZeroed_riscvZeroed, riscvWithResult_self]
    have hfcsr : saved.status &&& riscvFcsrMask &&& riscvFcsrMask =
        saved.status &&& riscvFcsrMask := by
      rw [BitVec.and_assoc, BitVec.and_self]
    show SignalContext.mk (riscvWithResult (riscvZeroed frame.ucontext.mcontext.regs) _ _) frame.fp
      (frame.ucontext.mcontext.fcsr &&& riscvFcsrMask) = _
    rw [hm, hfp]
    exact congrArg₂ (SignalContext.mk · saved.fp ·) hgpr hfcsr

theorem aarch64Interrupted_eq (host : SignalHost) (t : SignalThread) :
    aarch64Interrupted host t =
      (aarch64Signals.framed (aarch64Signals.saved t.state),
        aarch64Signals.interruptedPc host 0 t) := rfl

theorem riscvInterrupted_eq (host : SignalHost) (t : SignalThread) :
    riscvInterrupted host t =
      (riscvSignals.framed (riscvSignals.saved t.state), riscvSignals.interruptedPc host 0 t) :=
  congrArg (fun gpr => (SignalContext.mk gpr _ _, _)) (riscvZeroed_riscvZeroed _).symm

/-- A handler that leaves its frame returns to the interrupted context: registers, pc, native-return
stack and signal mask, with no frame active. Delivery and return may find other mappings and another
monitor stack. -/
theorem signal_round_trip (host host' : SignalHost) (hd : DerivesExactly host')
    (faultAddress faultCode x86Rsp x86Rsp' : BitVec 64) (t t' : SignalThread) :
    let a := polyTryDeliverAarch64Signal host 0 faultAddress faultCode x86Rsp t
    let r := polyTryDeliverRiscvSignal host 0 faultAddress faultCode x86Rsp t
    (a.1 = true →
      LeavesFrame host' (sizeofCodec aarch64FrameCodec) a.2.aarch64 t'.aarch64 a.2.mem t'.mem →
      BackAt aarch64Live (·.aarch64) (aarch64Interrupted host t).1 (aarch64Interrupted host t).2 t
        (polyHandleAarch64RtSigreturn host' true x86Rsp' t').2) ∧
    (r.1 = true →
      LeavesFrame host' (sizeofCodec riscvFrameCodec) r.2.riscv t'.riscv r.2.mem t'.mem →
      BackAt riscvLive (·.riscv) (riscvInterrupted host t).1 (riscvInterrupted host t).2 t
        (polyHandleRiscvRtSigreturn host' true x86Rsp' t').2) := by
  intro a r
  refine ⟨fun h hl => ?_, fun h hl => ?_⟩
  · simp only [aarch64Interrupted_eq]
    exact SignalArch.round_trip aarch64Signals_lawful hd hd.aarch64 h hl
  · simp only [riscvInterrupted_eq]
    exact SignalArch.round_trip riscvSignals_lawful hd hd.riscv h hl

def mappedHost : SignalHost where
  probe _ _ _ := true
  probeAfterPrefault _ _ _ := true
  vdsoRtSigreturn := 0x7000
  derive s d := some
    { s with
      foreignPc := d.childPc
      aarch64Gpr :=
        if d.frontend = modeRawAarch64 then
          aarch64WithResult s.aarch64Gpr d.childReturnValue d.childSp
        else s.aarch64Gpr
      riscvGpr :=
        if d.frontend = modeRawRiscv then
          riscvWithResult s.riscvGpr d.childReturnValue d.childSp
        else s.riscvGpr }

theorem mappedHost_derivesExactly : DerivesExactly mappedHost where
  succeeds _ _ := ⟨_, rfl⟩
  pc h := by
    obtain rfl := Option.some.inj h
    rfl
  resumePc h := by
    obtain rfl := Option.some.inj h
    exact .inl rfl
  nativeReturn h := by
    obtain rfl := Option.some.inj h
    rfl
  aarch64 h hf := by
    obtain rfl := Option.some.inj h
    exact congrArg (SignalContext.mk · _ _) (if_pos hf)
  riscv h hf := by
    obtain rfl := Option.some.inj h
    exact congrArg (SignalContext.mk · _ _) (if_pos hf)

/-- A thread of a frontend with `SIGUSR1` pending: it is at `pc`, and its stack pointers are high
enough for a frame. -/
def usr1Thread (mode : BitVec 32) (pc : BitVec 64) : SignalThread where
  state :=
    { currentMode := mode
      foreignPc := pc
      eventRecord := { sourceMode := mode }
      eventArgs := .replicate 8 0
      transition := .replicate 8 0
      aarch64Gpr := .replicate 32 0x20000
      aarch64Fp := .replicate 32 0
      aarch64Nzcv := 4
      aarch64Fpcr := 0
      aarch64Fpsr := 0
      riscvGpr := .replicate 32 0x20000
      riscvFp := .replicate 32 0
      riscvFcsr := 0x101
      importReturn := .replicate 160 0
      crossReturn := .replicate 36 0
      trapRestore := {}
      nativeReturn := emptyNativeReturn.set 0 5 }
  mem := fun _ => 0
  pending := 0x200
  sigmask := 1
  sigmaskValid := true
  actions := fun _ => (true, ⟨0x5000, 0, 0x6000, 0⟩)
  aarch64 := ⟨0, 0, 0, ssDisable⟩
  riscv := ⟨0, 0, 0, ssDisable⟩

theorem signal_round_trip_usr1 :
    let a := usr1Thread modeRawAarch64 0x4000
    let r := usr1Thread modeRawRiscv 0x4002
    let a' := (polyTryDeliverAarch64Signal mappedHost 0 0 0 0 a).2
    let r' := (polyTryDeliverRiscvSignal mappedHost 0 0 0 0 r).2
    a'.state.foreignPc = 0x5000 ∧ r'.state.foreignPc = 0x5000 ∧
      BackAt aarch64Live (·.aarch64) (aarch64Live a.state) 0x4000 a
        (polyHandleAarch64RtSigreturn mappedHost true 0 a').2 ∧
      BackAt riscvLive (·.riscv) (riscvInterrupted mappedHost r).1 0x4002 r
        (polyHandleRiscvRtSigreturn mappedHost true 0 r').2 :=
  ⟨by decide, by decide,
    (signal_round_trip mappedHost _ mappedHost_derivesExactly 0 0 0 0
      (usr1Thread modeRawAarch64 0x4000) _).1 (by decide) ⟨rfl, fun _ _ => rfl, rfl⟩,
    (signal_round_trip mappedHost _ mappedHost_derivesExactly 0 0 0 0
      (usr1Thread modeRawRiscv 0x4002) _).2 (by decide) ⟨rfl, fun _ _ => rfl, rfl⟩⟩

end Poly.Polyexec
