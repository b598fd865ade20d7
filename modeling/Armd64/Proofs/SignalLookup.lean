import Armd64.Proofs.Signals

/-!
# Signal frames that are found from the stack pointer

A return without an active frame looks for the frame from the stack pointer. The handler was
entered with the stack pointer below a call area, and the frame is above it. The RISC-V return skips
the call area; the AArch64 return does not, so it never finds a frame.
-/

namespace Poly.Polyexec

open Hw

variable {host host' : SignalHost} {t t' t₁ : SignalThread}

def LeavesBytes (addr : BitVec 64) (size : Nat) (mem mem' : Memory) : Prop :=
  ∀ i < size, mem' (addr + BitVec.ofNat 64 i) = mem (addr + BitVec.ofNat 64 i)

namespace SignalArch

variable {μ σ : Type} {A : SignalArch μ σ} {live : XsaveState → SignalContext σ}
  {withResult : Gprs → BitVec 64 → BitVec 64 → Gprs} {forcedSignum : Nat}
  {faultAddress faultCode x86Rsp : BitVec 64} {e : HandlerEntry} {frame : SignalFrame μ σ}

theorem rtSigreturn_unmapped
    (h : polyGuestRangeIsMapped host.probe (A.frameAddr t) A.frameSize false = false) :
    A.rtSigreturn host true x86Rsp t = (errEfault, t) := by
  unfold rtSigreturn
  rw [h]
  rfl

theorem rtSigreturn_rejected
    (h : polyGuestRangeIsMapped host.probe (A.frameAddr t) A.frameSize false)
    (hr : frameRejected A.magic A.frameSize (A.codec.read t.mem (A.frameAddr t))) :
    A.rtSigreturn host true x86Rsp t = (errEinval, t) := by
  unfold rtSigreturn
  rw [h]
  dsimp only
  rw [hr]
  rfl

end SignalArch

/-! ## RISC-V -/

theorem riscvSp_withResult (gpr : Gprs) (result sp : BitVec 64) :
    riscvSp (riscvWithResult gpr result sp) = sp :=
  Vector.getElem_set_self _

theorem riscvSp_entry (hd : DerivesExactly host) {forcedSignum : Nat} {e : HandlerEntry}
    {frame : RiscvFrame} (h : riscvSignals.Placed host forcedSignum t e frame t₁) :
    riscvSp t₁.state.riscvGpr = e.signalSp := by
  obtain ⟨s, hs⟩ := h.derived
  have hlive := hd.riscv hs rfl
  have hgpr : t₁.state.riscvGpr = riscvWithResult s.riscvGpr _ _ := congrArg SignalContext.gpr hlive
  rw [hgpr, riscvSp_withResult]
  rfl

/-! ## AArch64 -/

theorem aarch64Sp_withResult (gpr : Gprs) (result sp : BitVec 64) :
    aarch64Sp (aarch64WithResult gpr result sp) = sp :=
  Vector.getElem_set_self _

theorem aarch64Sp_entry (hd : DerivesExactly host) {forcedSignum : Nat} {e : HandlerEntry}
    {frame : Aarch64Frame} (h : aarch64Signals.Placed host forcedSignum t e frame t₁) :
    aarch64Sp t₁.state.aarch64Gpr = e.signalSp := by
  obtain ⟨s, hs⟩ := h.derived
  have hlive := hd.aarch64 hs rfl
  have hgpr : t₁.state.aarch64Gpr = aarch64WithResult s.aarch64Gpr _ _ :=
    congrArg SignalContext.gpr hlive
  rw [hgpr, aarch64Sp_withResult]
  rfl

section

variable {μ σ : Type} (mcontext : Codec μ) (status : Codec σ)

theorem signalFrameCodec_size : ∃ n, (signalFrameCodec mcontext status).size = 1 + (1 + n) :=
  ⟨_, rfl⟩

theorem dec_signalFrame_size (ws : List (BitVec 64)) :
    ((signalFrameCodec mcontext status).dec ws).size = (ws.drop 1).headD 0 := rfl

theorem read_signalFrame_size (mem : Memory) (a : BitVec 64) :
    ((signalFrameCodec mcontext status).read mem a).size = fetch 8 mem (a + 8) := by
  obtain ⟨n, hn⟩ := signalFrameCodec_size mcontext status
  rw [Codec.read, dec_signalFrame_size, hn, fetchWords_second]

end

theorem callArea_below {signalSp : BitVec 64} {i n : Nat} (hi : i < 24) (hn : n < vsigStackSize) :
    n ≤ (signalSp + 8 + BitVec.ofNat 64 i - frameSpOf signalSp).toNat := by
  have hstack : vsigStackSize = 65536 := rfl
  have hcall : callAreaSize = 32 := rfl
  rw [frameSpOf, hcall]
  have hsub : signalSp + 8 + BitVec.ofNat 64 i - (signalSp + BitVec.ofNat 64 32) =
      BitVec.ofNat 64 i - 24#64 := by
    bv_omega
  rw [hsub, BitVec.toNat_sub, BitVec.toNat_ofNat, BitVec.toNat_ofNat]
  omega

section

variable {forcedSignum : Nat} {e : HandlerEntry} {frame : Aarch64Frame}
  (h : aarch64Signals.Placed host forcedSignum t e frame t₁)

include h

theorem fetch_callArea (hbytes : LeavesBytes e.signalSp callAreaSize t₁.mem t'.mem) :
    fetch 8 t'.mem (e.signalSp + 8) = BitVec.ofNat 64 e.sig.signum := by
  have hargs : frame.handlerArgs.toList.drop 1 =
      [BitVec.ofNat 64 e.sig.signum, frameSpOf e.signalSp + BitVec.ofNat 64 siginfoOffset,
        frameSpOf e.signalSp + BitVec.ofNat 64 ucontextOffset] := by
    rw [h.args]
    rfl
  -- the frame is written after the call area, and above it
  have hholds : Holds t₁.mem (e.signalSp + 8)
      (wordBytes (frame.handlerArgs.toList.drop 1)) := by
    rw [h.mem]
    refine (holds_store ?_).store fun i hi => ?_
    · rw [length_wordBytes, hargs]
      show 8 * 3 ≤ 2 ^ 64
      decide
    · rw [length_wordBytes, hargs] at hi
      rw [length_wordBytes, aarch64Signals.codec.length_enc]
      exact callArea_below hi aarch64Signals_lawful.size
  rw [hargs, wordBytes, List.flatMap_cons, holds_append] at hholds
  refine fetch_of_holds fun i b hb => ?_
  have hi := (List.getElem?_eq_some_iff.mp hb).1
  rw [length_toBytes] at hi
  have haddr : e.signalSp + 8 + BitVec.ofNat 64 i = e.signalSp + BitVec.ofNat 64 (8 + i) := by
    rw [BitVec.add_assoc]
    exact congrArg (e.signalSp + ·) (BitVec.ofNat_add_ofNat ..)
  have hlt : 8 + i < callAreaSize := by
    have hcall : callAreaSize = 32 := rfl
    omega
  rw [haddr, hbytes _ hlt, ← haddr]
  exact hholds.1 i b hb

theorem aarch64_not_found (hbytes : LeavesBytes e.signalSp callAreaSize t₁.mem t'.mem) :
    frameRejected aarch64Signals.magic aarch64Signals.frameSize
      (aarch64FrameCodec.read t'.mem e.signalSp) := by
  have hsize : (aarch64FrameCodec.read t'.mem e.signalSp).size = BitVec.ofNat 64 e.sig.signum :=
    (read_signalFrame_size ..).trans (fetch_callArea h hbytes)
  have hne : (BitVec.ofNat 64 e.sig.signum != BitVec.ofNat 64 aarch64Signals.frameSize) := by
    have hlt := h.signum
    have hcount : signalActionCount = 65 := rfl
    have hframe : aarch64Signals.frameSize = 8368 := rfl
    rw [hframe, bne_iff_ne, ← BitVec.toNat_ne_iff_ne, BitVec.toNat_ofNat, BitVec.toNat_ofNat]
    omega
  rw [frameRejected, hsize, hne, Bool.or_true, Bool.true_or, Bool.true_or]

end

theorem aarch64_lookup (hd : DerivesExactly host) {forcedSignum : Nat}
    {faultAddress faultCode x86Rsp x86Rsp' : BitVec 64}
    (h : (polyTryDeliverAarch64Signal host forcedSignum faultAddress faultCode x86Rsp t).1)
    (hactive : t'.aarch64.activeFrame = 0) :
    let t₁ := (polyTryDeliverAarch64Signal host forcedSignum faultAddress faultCode x86Rsp t).2
    let sp := aarch64Sp t₁.state.aarch64Gpr
    aarch64Sp t'.state.aarch64Gpr = sp →
      LeavesBytes sp (callAreaSize + sizeofCodec aarch64FrameCodec) t₁.mem t'.mem →
      polyHandleAarch64RtSigreturn host' true x86Rsp' t' =
        (if polyGuestRangeIsMapped host'.probe sp (sizeofCodec aarch64FrameCodec) false then
          errEinval
        else errEfault, t') := by
  intro t₁ sp hsp hbytes
  obtain ⟨e, frame, hplaced⟩ := SignalArch.placed_of_tryDeliver aarch64Signals_lawful h
  have hentry : sp = e.signalSp := aarch64Sp_entry hd hplaced
  rw [hentry] at hbytes hsp ⊢
  have haddr : aarch64Signals.frameAddr t' = e.signalSp := by
    show (if _ then _ else _) = _
    rw [if_pos hactive, hsp]
  have hrejected := aarch64_not_found hplaced fun i hi =>
    hbytes i (Nat.lt_of_lt_of_le hi (Nat.le_add_right _ _))
  cases hmapped : polyGuestRangeIsMapped host'.probe e.signalSp (sizeofCodec aarch64FrameCodec)
      false with
  | false => exact SignalArch.rtSigreturn_unmapped (haddr.symm ▸ hmapped)
  | true => exact SignalArch.rtSigreturn_rejected (haddr.symm ▸ hmapped) (haddr.symm ▸ hrejected)

/-! ## Both architectures -/

/-- A return with no frame active, and with the stack pointer that the handler was entered with. On
RISC-V it finds the frame of every delivery, and is back at the interrupted context. On AArch64 it
finds none: it fails, and changes nothing. -/
theorem frame_lookup (host host' : SignalHost) (hd : DerivesExactly host)
    (hd' : DerivesExactly host') (forcedSignum : Nat)
    (faultAddress faultCode x86Rsp x86Rsp' : BitVec 64) (t t' : SignalThread) :
    let a := polyTryDeliverAarch64Signal host forcedSignum faultAddress faultCode x86Rsp t
    let r := polyTryDeliverRiscvSignal host forcedSignum faultAddress faultCode x86Rsp t
    (r.1 = true → t'.riscv.activeFrame = 0 →
      riscvSp t'.state.riscvGpr = riscvSp r.2.state.riscvGpr →
      LeavesBytes r.2.riscv.activeFrame (sizeofCodec riscvFrameCodec) r.2.mem t'.mem →
      host'.probe r.2.riscv.activeFrame (sizeofCodec riscvFrameCodec) false = true →
      BackAt riscvLive (·.riscv) (riscvSignals.framed (riscvSaved t.state))
        (interruptedPc host modeRawRiscv forcedSignum (riscvRa t.state.riscvGpr) t.state) t
        (polyHandleRiscvRtSigreturn host' true x86Rsp' t').2) ∧
    (a.1 = true → t'.aarch64.activeFrame = 0 →
      aarch64Sp t'.state.aarch64Gpr = aarch64Sp a.2.state.aarch64Gpr →
      LeavesBytes (aarch64Sp a.2.state.aarch64Gpr) (callAreaSize + sizeofCodec aarch64FrameCodec)
        a.2.mem t'.mem →
      polyHandleAarch64RtSigreturn host' true x86Rsp' t' =
        (if polyGuestRangeIsMapped host'.probe (aarch64Sp a.2.state.aarch64Gpr)
            (sizeofCodec aarch64FrameCodec) false then errEinval
        else errEfault, t')) := by
  intro a r
  refine ⟨fun hr hactive hsp hbytes hprobe => ?_, fun ha hactive => aarch64_lookup hd ha hactive⟩
  obtain ⟨e, frame, hplaced⟩ := SignalArch.placed_of_tryDeliver riscvSignals_lawful hr
  have hframe : r.2.riscv.activeFrame = frameSpOf e.signalSp := hplaced.active
  have hentry : riscvSp t'.state.riscvGpr = e.signalSp := hsp.trans (riscvSp_entry hd hplaced)
  rw [hframe] at hbytes hprobe
  refine SignalArch.found riscvSignals_lawful hd' hd'.riscv hplaced ?_ hbytes hprobe
  show (if _ then _ else _) = _
  rw [hentry, if_pos ⟨hactive, hplaced.nonzero⟩]

/-- A RISC-V handler of `SIGUSR1` on a thread without the mark of the active frame. -/
theorem frame_lookup_riscv :
    let t := usr1Thread modeRawRiscv 0x4002
    let r := polyTryDeliverRiscvSignal mappedHost 0 0 0 0 t
    let t' := { r.2 with riscv := { r.2.riscv with activeFrame := 0 } }
    r.1 = true ∧ r.2.riscv.activeFrame ≠ 0 ∧
      BackAt riscvLive (·.riscv) (riscvSignals.framed (riscvSaved t.state)) 0x4002 t
        (polyHandleRiscvRtSigreturn mappedHost true 0 t').2 :=
  ⟨by decide, by decide,
    (frame_lookup mappedHost _ mappedHost_derivesExactly mappedHost_derivesExactly 0 0 0 0 0
      (usr1Thread modeRawRiscv 0x4002) _).1 (by decide) rfl rfl (fun _ _ => rfl) rfl⟩

theorem aarch64_lookup_unmarked (t : SignalThread)
    (h : (polyTryDeliverAarch64Signal mappedHost 0 0 0 0 t).1) :
    let t₁ := (polyTryDeliverAarch64Signal mappedHost 0 0 0 0 t).2
    let t' := { t₁ with aarch64 := { t₁.aarch64 with activeFrame := 0 } }
    polyHandleAarch64RtSigreturn mappedHost true 0 t' =
      (if polyGuestRangeIsMapped mappedHost.probe (aarch64Sp t₁.state.aarch64Gpr)
          (sizeofCodec aarch64FrameCodec) false then errEinval
      else errEfault, t') :=
  aarch64_lookup mappedHost_derivesExactly h rfl rfl fun _ _ => rfl

/-- An AArch64 handler of `SIGUSR1` without the mark of the active frame: the return fails, and the
thread is still in the handler. -/
theorem aarch64_frame_lost :
    let t := usr1Thread modeRawAarch64 0x4000
    let a := polyTryDeliverAarch64Signal mappedHost 0 0 0 0 t
    let t' := { a.2 with aarch64 := { a.2.aarch64 with activeFrame := 0 } }
    let r := polyHandleAarch64RtSigreturn mappedHost true 0 t'
    a.1 = true ∧ aarch64Sp t'.state.aarch64Gpr = aarch64Sp a.2.state.aarch64Gpr ∧
      r.1 = errEinval ∧ t.state.foreignPc = 0x4000 ∧ r.2.state.foreignPc = 0x5000 := by
  intro t a t' r
  have ha : a.1 = true := by decide
  have hmapped : polyGuestRangeIsMapped mappedHost.probe (aarch64Sp a.2.state.aarch64Gpr)
      (sizeofCodec aarch64FrameCodec) false = true := by
    decide
  have hr : r = (errEinval, t') := by
    rw [show r = _ from aarch64_lookup_unmarked t ha, if_pos hmapped]
  have hpc : t'.state.foreignPc = 0x5000 := by decide
  exact ⟨ha, rfl, by rw [hr], rfl, by rw [hr]; exact hpc⟩

end Poly.Polyexec
