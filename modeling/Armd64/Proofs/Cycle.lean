import Armd64.Proofs.Invariant
import Armd64.Proofs.Pipeline

/-!
# One cycle of the core in terms of its inputs

Under the invariant each wire that decides what a cycle does is one of the pure conditions on the
registers and the inputs.
-/

namespace Poly

open FrontendCore
open EventFrameEncode

variable {s : State} {i : Inputs}

/-! ## Return cookie -/

theorem returnPopRaw_eq (h : Inv s) :
    (cycle s i).core.returnPopRaw =
      (i.returnRecoverValid && i.returnTargetPc == returnCookie &&
        !s.regs.transitionStack.empty) := by
  have hinv : (cycle s i).core.returnCookieRecover.invalidFrontend = false :=
    returnRecoverInvalidFrontend_eq_false h
  have hhit : (cycle s i).core.returnCookieRecover.cookieHit =
      (i.returnRecoverValid && i.returnTargetPc == returnCookie) := rfl
  have hemp : (cycle s i).core.returnCookieRecover.transitionEmpty =
      !!s.regs.transitionStack.empty := rfl
  rw [returnPopRaw, ReturnCookieRecover.popTransition, ReturnCookieRecover.error, hinv,
    ReturnCookieRecover.missingTransition, hhit, hemp]
  cases i.returnRecoverValid && i.returnTargetPc == returnCookie <;> simp

theorem returnRecoverPop_eq (h : Inv s) :
    (cycle s i).core.returnRecoverPop = cookieReturn s i := by
  rw [returnRecoverPop, returnPopRaw_eq h]
  rfl

theorem returnResume_eq (h : Inv s) : (cycle s i).core.returnResume = cookieReturn s i :=
  returnRecoverPop_eq h

theorem resumeFrame_eq (h : Inv s) (hc : cookieReturn s i) :
    (⟨(cycle s i).core.returnResumeFrontend, (cycle s i).core.returnResumePc,
      (cycle s i).core.returnResumeSp, (cycle s i).core.returnResumeFlags⟩ : Frame) =
      topFrame s := by
  have hr : (cycle s i).core.returnResume := (returnResume_eq h).trans hc
  have hraw : (cycle s i).core.returnCookieRecover.resume := by
    rw [returnResume, Bool.and_eq_true] at hr
    exact hr.1
  simp only [returnResumeFrontend, returnResumePc, returnResumeSp, returnResumeFlags, hr, if_true,
    ReturnCookieRecover.resumeFrontend, ReturnCookieRecover.resumePc,
    ReturnCookieRecover.resumeSp, ReturnCookieRecover.resumeFlags, hraw]
  rfl

theorem returnLoc_eq (h : Inv s) (hc : cookieReturn s i) :
    (⟨(cycle s i).core.returnResumeFrontend, (cycle s i).core.returnResumePc⟩ : Loc) =
      (topFrame s).loc :=
  congrArg Frame.loc (resumeFrame_eq h hc)

theorem stackPopRequest_eq (h : Inv s) :
    (cycle s i).core.stackPopRequest = (i.transitionPop || cookieReturn s i) := by
  rw [← returnRecoverPop_eq h]
  rfl

/-! ## Event frames -/

theorem EventFrameEncode.error_eq (e : EventFrameEncode) (hv : e.valid) :
    e.error = !(e.eventEnabled && canonical64 e.eventFrameAddr && canonical64 e.frameLastAddr &&
      e.eventFrameAddr &&& 63#64 == 0#64 && !e.rangeWrap &&
      (e.eventKind == 1#32 || e.eventKind == 2#32 || e.eventKind == 3#32 || e.eventKind == 4#32) &&
      (e.sourceFrontend == 1#32 || e.sourceFrontend == 2#32)) := by
  cases he : e.eventEnabled
  · simp [error, eventDisabled, hv, he]
  · simp [error, eventDisabled,
      noncanonicalFrame, frameAlignFault,
      frameRangeFault, invalidEventKind,
      invalidSourceFrontend, hv, he, bne, Bool.and_assoc, Bool.or_assoc]

theorem encodeError_eq :
    (cycle s i).core.eventFrameStage.frameEncode.error =
      (i.trapValid && !frameOk i.toCoreInputs) := by
  cases hv : i.trapValid
  · have hv' : (cycle s i).core.eventFrameStage.frameEncode.valid = false := hv
    simp [error, eventDisabled,
      noncanonicalFrame, frameAlignFault,
      frameRangeFault, invalidEventKind,
      invalidSourceFrontend, hv']
  · exact error_eq _ hv

theorem frameValid_eq :
    (cycle s i).core.eventFrameStage.frameEncode.frameValid =
      (i.trapValid && frameOk i.toCoreInputs) := by
  rw [frameValid, encodeError_eq]
  show (i.trapValid && !(i.trapValid && !frameOk i.toCoreInputs)) = _
  cases i.trapValid <;> simp

theorem trapWaitResponse_eq :
    (cycle s i).core.trapWaitResponse = framePending i.toCoreInputs := by
  rw [trapWaitResponse, EventFrameStage.waitResponse, frameValid_eq]
  rfl

theorem trapEventFrameDelivered_eq :
    (cycle s i).core.trapEventFrameDelivered = frameDelivered i.toCoreInputs := by
  rw [trapEventFrameDelivered, EventFrameStage.frameDelivered, frameValid_eq]
  rfl

theorem trapFault_eq : (cycle s i).core.trapFault = frameFails i.toCoreInputs := by
  rw [trapFault, EventFrameStage.fault, EventFrameStage.encodeError,
    EventFrameStage.frameMemFault, encodeError_eq, frameValid_eq, frameFails]
  show (i.trapValid && !frameOk i.toCoreInputs ||
    i.trapValid && frameOk i.toCoreInputs && i.trapMemWriteRespValid && i.trapMemWriteFault) = _
  cases i.trapValid <;> cases frameOk i.toCoreInputs <;> simp

theorem frameFails_of_delivered (h : frameDelivered i.toCoreInputs) :
    frameFails i.toCoreInputs = false := by
  simp only [frameDelivered, Bool.and_eq_true, Bool.not_eq_true'] at h
  simp [frameFails, h]

theorem trapVectorApply_eq :
    (cycle s i).core.trapVectorApply = vectorRedirect i.toCoreInputs := by
  rw [trapVectorApply, trapEventFrameDelivered_eq, trapFault_eq, vectorRedirect]
  show (frameDelivered i.toCoreInputs && i.trapVectorValid && _) = _
  cases hd : frameDelivered i.toCoreInputs
  · rfl
  · simp [frameFails_of_delivered hd]

theorem trapVectorLoc_eq (h : vectorRedirect i.toCoreInputs) :
    (cycle s i).core.trapVectorLoc = vectorLoc i.toCoreInputs := by
  have ha : (cycle s i).core.trapVectorApply := trapVectorApply_eq.trans h
  rw [trapVectorLoc, if_pos ha, if_pos ha]
  rfl

theorem blockRetire_eq (h : Inv s) :
    (cycle s i).core.gate.blockRetire =
      (interruptTaken s i || restoreTaken s i || framePending i.toCoreInputs ||
        frameDelivered i.toCoreInputs) := by
  show (cycle s i).core.blockRetire = _
  rw [blockRetire, interruptEnterX86_eq h, interruptRestoreRaw_eq h,
    trapWaitResponse_eq, trapEventFrameDelivered_eq]

/-! ## The arrived instruction -/

theorem pipeline_live (h : Inv s) (hv : i.valid) : (cycle s i).core.pipeline.Live :=
  ⟨hv, h.frontend, h.aligned⟩

theorem pipeline_decodeValid (h : Inv s) (hv : i.valid) :
    (cycle s i).core.pipeline.decodeValid = arrived s i :=
  FrontendFetchDecodePipeline.decodeValid_eq (pipeline_live h hv)

theorem ctrlDecode_eq (h : Inv s) (hv : i.valid) (ha : arrived s i) :
    (cycle s i).core.pipeline.decodeDispatch.ctrlDecode = ctrlWord s i :=
  FrontendFetchDecodePipeline.ctrlDecode_eq (pipeline_live h hv) ha

theorem rawInsnDecode_eq (h : Inv s) (hv : i.valid) (ha : arrived s i) :
    (cycle s i).core.pipeline.decodeDispatch.rawInsnDecode = rawWord s i :=
  FrontendFetchDecodePipeline.rawInsnDecode_eq (pipeline_live h hv) ha

theorem sideband_eq (h : Inv s) (hv : i.valid) (out : RawInsnDecode → Bool) :
    ((cycle s i).core.pipeline.decodeValid &&
        out (cycle s i).core.pipeline.decodeDispatch.rawInsnDecode) =
      (arrived s i && out (rawWord s i)) := by
  rw [pipeline_decodeValid h hv]
  cases ha : arrived s i
  · rfl
  · rw [rawInsnDecode_eq h hv ha]

/-- The sidebands of the core are those of the arrived instruction. -/
structure Sidebands (s : State) (i : Inputs) : Prop where
  rawInsn : (cycle s i).core.rawInsnValid = (arrived s i && (rawWord s i).rawInsnValid)
  load : (cycle s i).core.rawMemoryLoad = (arrived s i && (rawWord s i).memoryLoad)
  store : (cycle s i).core.rawMemoryStore = (arrived s i && (rawWord s i).memoryStore)
  atomic : (cycle s i).core.rawMemoryAtomic = (arrived s i && (rawWord s i).memoryAtomic)
  barrier : (cycle s i).core.rawMemoryBarrier = (arrived s i && (rawWord s i).memoryBarrier)
  order : (cycle s i).core.rawMemoryOrderValid = (arrived s i && (rawWord s i).memoryOrderValid)
  branch : (cycle s i).core.rawBranch = (arrived s i && (rawWord s i).branch)
  target : (cycle s i).core.rawBranchTargetValid = (arrived s i && (rawWord s i).branchTargetValid)

theorem sidebands (h : Inv s) (hv : i.valid) : Sidebands s i where
  rawInsn := sideband_eq h hv _
  load := sideband_eq h hv _
  store := sideband_eq h hv _
  atomic := sideband_eq h hv _
  barrier := sideband_eq h hv _
  order := sideband_eq h hv _
  branch := sideband_eq h hv _
  target := sideband_eq h hv _

/-! ## Faults -/

theorem RawInsnDecode.memoryOrderValid_eq (d : RawInsnDecode) :
    d.memoryOrderValid = (d.memoryLoad || d.memoryStore || d.memoryAtomic || d.memoryBarrier) := by
  cases ha : d.aarch64Valid <;> cases hr : d.riscvValid <;>
    simp [memoryOrderValid, rawInsnValid, memoryLoad, memoryStore, memoryAtomic, memoryBarrier,
      ha, hr]

section

variable (h : Inv s)

include h

theorem memoryFault_eq (hv : i.valid) : (cycle s i).core.memoryFault = memoryOrderFails s i := by
  have hside := sidebands h hv
  have hf : frontendValid (cycle s i).core.memoryOrder.frontend := h.frontend
  have hop : (cycle s i).core.memoryOrder.opPresent =
      (i.memoryLoad || i.memoryStore || i.memoryAtomic || i.memoryBarrier ||
        (arrived s i && (rawWord s i).memoryOrderValid)) := by
    rw [RawInsnDecode.memoryOrderValid_eq]
    show (i.memoryLoad || (cycle s i).core.rawMemoryLoad ||
      (i.memoryStore || (cycle s i).core.rawMemoryStore) ||
      (i.memoryAtomic || (cycle s i).core.rawMemoryAtomic) ||
      (i.memoryBarrier || (cycle s i).core.rawMemoryBarrier)) = _
    rw [hside.load, hside.store, hside.atomic, hside.barrier]
    cases arrived s i with
    | false => simp
    | true =>
      ac_rfl
  have hval : (cycle s i).core.memoryOrder.valid =
      (i.memoryOrderValid || (arrived s i && (rawWord s i).memoryOrderValid)) := by
    rw [← hside.order]
    rfl
  rw [memoryFault, MemoryOrder.fault, MemoryOrder.invalidFrontend, hf,
    MemoryOrder.invalidOp, hop, hval, memoryOrderFails]
  cases arrived s i && (rawWord s i).memoryOrderValid <;> simp

theorem rawUnresolvedBranch_eq (hv : i.valid) : (cycle s i).core.rawUnresolvedBranch =
      (arrived s i && (rawWord s i).branch && !(rawWord s i).branchTargetValid &&
        !cookieReturn s i) := by
  rw [rawUnresolvedBranch, (sidebands h hv).branch, (sidebands h hv).target,
    returnRecoverPop_eq h]
  cases arrived s i <;> simp

theorem rawResolvedBranchTargetInvalid_eq (hv : i.valid) :
    (cycle s i).core.rawResolvedBranchTargetInvalid = branchFails s i := by
  rw [rawResolvedBranchTargetInvalid, rawResolvedBranchTargetValid,
    rawUnresolvedBranch_eq h hv, branchFails, Bool.not_and]
  rfl

theorem rawMemoryAccess_eq (hv : i.valid) : (cycle s i).core.rawMemoryAccess =
      (arrived s i &&
        ((rawWord s i).memoryLoad || (rawWord s i).memoryStore || (rawWord s i).memoryAtomic)) := by
  have hside := sidebands h hv
  rw [rawMemoryAccess, hside.load, hside.store, hside.atomic, hside.order,
    RawInsnDecode.memoryOrderValid_eq]
  grind

theorem rawMemoryExecuteFault_eq (hv : i.valid) :
    (cycle s i).core.rawMemoryExecuteFault = dataFails s i := by
  rw [rawMemoryExecuteFault, rawMemoryAccess_eq h hv]
  rfl

theorem pending_eq (hv : i.valid) : (cycle s i).core.gate.pending = faultPending s i := by
  have hf : (cycle s i).core.pipeline.fetchFault = fetchFails s i :=
    FrontendFetchDecodePipeline.fetchFault_eq (pipeline_live h hv)
  show (i.olderFaultI || (cycle s i).core.pipeline.fetchFault || (cycle s i).core.executeFault) = _
  rw [executeFault, hf, memoryFault_eq h hv, interruptError_eq_false h, trapFault_eq,
    rawResolvedBranchTargetInvalid_eq h hv, rawMemoryExecuteFault_eq h hv, faultPending]
  show (i.olderFaultI || fetchFails s i || (i.executeFaultI || _ || _ || _ || _ || _)) = _
  simp [Bool.or_assoc]

end

end Poly
