import Armd64.Proofs.Cycle

/-!
# What a retired instruction is

An instruction that retires has arrived, in a cycle with no pending fault and no redirect of an
interrupt or an event frame. When it retires, and where it goes next, is decided by the arrived word,
the registers and the ports alone.
-/

namespace Poly

open FrontendPredecodedRetire

variable {s : State} {i : Inputs}

/-! ## Retirement -/

structure Retired (s : State) (i : Inputs) : Prop where
  valid : i.valid = true
  arrived : arrived s i = true
  noFault : faultPending s i = false
  noInterrupt : interruptTaken s i = false
  noRestore : restoreTaken s i = false
  noPending : framePending i.toCoreInputs = false
  noDelivery : frameDelivered i.toCoreInputs = false
  handoff : (cycle s i).core.gate.frontendHandoff.error = false

theorem steps_of_retire (hr : (cycle s i).core.retire) : (cycle s i).core.gate.Steps :=
  (retire_iff.mp hr).1

theorem retired (h : Inv s) (hr : (cycle s i).core.retire) : Retired s i := by
  obtain ⟨hs, he⟩ := retire_iff.mp hr
  have hv : i.valid := hs.valid
  have hb := hs.unblocked
  rw [blockRetire_eq h] at hb
  simp only [Bool.or_eq_false_iff] at hb
  exact
    { valid := hv
      arrived := (pipeline_decodeValid h hv).symm.trans hs.decodeValid
      noFault := (pending_eq h hv).symm.trans hs.noFault
      noInterrupt := hb.1.1.1
      noRestore := hb.1.1.2
      noPending := hb.1.2
      noDelivery := hb.2
      handoff := he }

theorem quiet_of_retire (hr : (cycle s i).core.retire) :
    (cycle s i).core.fault = false ∧ (cycle s i).stateStall = false := by
  have hs := steps_of_retire hr
  refine ⟨fault_of_retire hr, ?_⟩
  rw [StatefulCore.stateStall, FrontendCore.waitFetch, FrontendCore.waitExecute, hs.waitFetch,
    hs.waitExecute]
  rfl

theorem Retired.noVector (h : Retired s i) : vectorRedirect i.toCoreInputs = false := by
  rw [vectorRedirect, h.noDelivery, Bool.false_and]

/-! ## Control words -/

section

variable (h : Inv s) (hv : i.valid = true) (ha : arrived s i = true)

include h hv ha

theorem polyCtrlI_eq : (cycle s i).core.gate.polyCtrlI = (ctrlWord s i).polyCtrl :=
  congrArg CtrlDecode.polyCtrl (ctrlDecode_eq h hv ha)

theorem subopI_eq : (cycle s i).core.gate.subopI = (ctrlWord s i).subop :=
  congrArg CtrlDecode.subop (ctrlDecode_eq h hv ha)

theorem callSigImm_eq : (cycle s i).core.gate.callSigImm = (ctrlWord s i).callSigImm :=
  congrArg CtrlDecode.callSigImm (ctrlDecode_eq h hv ha)

theorem fallthroughPc_eq : (cycle s i).core.gate.fallthroughPc = fallthrough s i :=
  FrontendFetchDecodePipeline.fetchFallthroughPc_eq (pipeline_live h hv) ha

end

theorem handoff_live (h : Inv s) (hs : (cycle s i).core.gate.Steps)
    (hp : (ctrlWord s i).polyCtrl) :
    (cycle s i).core.gate.frontendHandoff.Live (ctrlOpOf s i) := by
  have hv : i.valid := hs.valid
  have ha : arrived s i := (pipeline_decodeValid h hv).symm.trans hs.decodeValid
  have hd : (cycle s i).core.gate.frontendHandoff.decodes := by
    have hsv : (cycle s i).core.gate.frontendHandoff.valid :=
      stepValid_iff.mpr hs
    have hpc : (cycle s i).core.gate.frontendHandoff.polyCtrl :=
      (polyCtrlI_eq h hv ha).trans hp
    have hfv : (cycle s i).core.gate.frontendHandoff.currentFrontendValid := h.frontend
    rw [FrontendHandoff.decodes, hsv, hpc, hfv]
    rfl
  have hsub : (cycle s i).core.gate.frontendHandoff.subop = (ctrlWord s i).subop :=
    subopI_eq h hv ha
  have hsig : (cycle s i).core.gate.frontendHandoff.callSigImm =
      sigImmOp s.loc.frontend (cycle s i).core.gate.frontendHandoff.subop := by
    rw [hsub]
    exact (callSigImm_eq h hv ha).trans (CtrlDecode.callSigImm_eq hp)
  have hops := FrontendHandoff.ops_eq hd hsig
  rw [hsub] at hops
  exact ⟨hd, hops⟩

section

variable (h : Inv s) (hv : i.valid = true) (ha : arrived s i = true)

include h hv ha

theorem executeReady_eq (hf : memoryOrderFails s i = false) :
    (cycle s i).core.executeReady = (!memoryWaits s i && !branchWaits s i && !dataWaits s i) := by
  have hside := sidebands h hv
  have hs := hside.store
  have hat := hside.atomic
  have ho := hside.order
  rw [ha, Bool.true_and] at hs hat ho
  have hval : (cycle s i).core.effectiveMemoryOrderValid =
      (i.memoryOrderValid || (rawWord s i).memoryOrderValid) :=
    congrArg (i.memoryOrderValid || ·) ho
  have hfault : (cycle s i).core.memoryOrder.fault = false := (memoryFault_eq h hv).trans hf
  have hallow : (!(cycle s i).core.effectiveMemoryOrderValid ||
      (cycle s i).core.memoryRetireAllowed) = !memoryWaits s i := by
    have hmv : (cycle s i).core.memoryOrder.valid = (cycle s i).core.effectiveMemoryOrderValid := rfl
    have hms : (cycle s i).core.memoryOrder.store = (i.memoryStore || (rawWord s i).memoryStore) :=
      congrArg (i.memoryStore || ·) hs
    have hma : (cycle s i).core.memoryOrder.atomic =
        (i.memoryAtomic || (rawWord s i).memoryAtomic) := congrArg (i.memoryAtomic || ·) hat
    have hsb : (cycle s i).core.memoryOrder.storeBufferFull = i.storeBufferFull := rfl
    have hop : (cycle s i).core.memoryOrder.olderStorePending = i.olderStorePending := rfl
    rw [FrontendCore.memoryRetireAllowed, MemoryOrder.retireAllowed, MemoryOrder.waitStoreBuffer,
      MemoryOrder.waitAtomicOrder, hfault, hmv, hms, hma, hsb, hop, hval, memoryWaits]
    cases i.memoryOrderValid || (rawWord s i).memoryOrderValid <;> simp
  have hbranch : (cycle s i).core.rawUnresolvedBranchWait = branchWaits s i := by
    rw [FrontendCore.rawUnresolvedBranchWait, rawUnresolvedBranch_eq h hv, ha, Bool.true_and]
    rfl
  have hdata : (cycle s i).core.rawMemoryExecuteWait = dataWaits s i := by
    rw [FrontendCore.rawMemoryExecuteWait, rawMemoryAccess_eq h hv, ha, Bool.true_and]
    rfl
  rw [FrontendCore.executeReady, hallow, hbranch, hdata]

theorem trapReturnDecode_eq :
    (cycle s i).core.gate.trapReturnDecode =
      ((ctrlWord s i).polyCtrl && decide (ctrlOpOf s i = some .trapReturn)) := by
  have hval : (cycle s i).core.gate.valid := hv
  have hdec : (cycle s i).core.gate.decodeValid := (pipeline_decodeValid h hv).trans ha
  have hfet : (cycle s i).core.gate.fetchValid :=
    (FrontendFetchDecodePipeline.fetchValid_eq (pipeline_live h hv)).trans ha
  rw [trapReturnDecode, hval, hdec, hfet, polyCtrlI_eq h hv ha,
    subopI_eq h hv ha]
  exact congrArg _ (isTrapReturn_eq h.frontend _)

end

section

variable (h : Inv s) (hr : (cycle s i).core.retire = true)

include h hr

theorem polyCtrl_eq : (cycle s i).core.polyCtrl = (ctrlWord s i).polyCtrl := by
  have ht := retired h hr
  rw [FrontendCore.polyCtrl, polyCtrl,
    stepValid_iff.mpr (steps_of_retire hr), Bool.true_and,
    polyCtrlI_eq h ht.valid ht.arrived]

theorem handoff_of_raw (hp : (ctrlWord s i).polyCtrl = false) :
    (cycle s i).core.gate.frontendHandoff.transition = false ∧
      (cycle s i).core.gate.frontendHandoff.trapReturn = false ∧
      (cycle s i).core.gate.frontendHandoff.pushTransition = false := by
  have ht := retired h hr
  have hpc : (cycle s i).core.gate.frontendHandoff.polyCtrl = false :=
    (polyCtrlI_eq h ht.valid ht.arrived).trans hp
  simp [FrontendHandoff.transition, FrontendHandoff.trapReturn, FrontendHandoff.decodes,
    FrontendHandoff.pushTransition, hpc]

theorem trapReturnRestore_eq :
    (cycle s i).core.trapReturnRestore =
      ((ctrlWord s i).polyCtrl && decide (ctrlOpOf s i = some .trapReturn)) := by
  have ht := retired h hr
  have hs := steps_of_retire hr
  have hret : (cycle s i).core.gate.retire := hr
  rw [FrontendCore.trapReturnRestore, FrontendCore.trapReturnRetire,
    trapReturnRetire, hret, Bool.true_and]
  cases hp : (ctrlWord s i).polyCtrl
  · rw [(handoff_of_raw h hr hp).2.1]
    rfl
  · rw [(handoff_live h hs hp).ops.trapReturn, Bool.true_and]
    by_cases ho : ctrlOpOf s i = some .trapReturn
    · -- The gate only lets a trap return step when its location is supplied.
      have hdec : (cycle s i).core.gate.trapReturnDecode := by
        rw [trapReturnDecode_eq h ht.valid ht.arrived, hp, decide_eq_true ho, Bool.and_true]
      have hval : (cycle s i).core.trapReturnRestoreValid := hs.trapReturn hdec
      rw [hval, Bool.and_true]
    · rw [decide_eq_false ho, Bool.false_and]

omit h in
theorem commitLoc_eq :
    (cycle s i).core.commitLoc =
      ⟨(cycle s i).core.gate.frontendHandoff.nextFrontend,
        (cycle s i).core.gate.frontendHandoff.nextPc⟩ := by
  have hret : (cycle s i).core.gate.retire := hr
  rw [FrontendCore.commitLoc, commitFrontend, if_pos hret,
    commitPc, if_pos hret]

theorem commitLoc_of_stay
    (ht : (cycle s i).core.gate.frontendHandoff.transition = false) :
    (cycle s i).core.commitLoc = ⟨s.loc.frontend, fallthrough s i⟩ := by
  have hd := retired h hr
  rw [commitLoc_eq hr, FrontendHandoff.nextFrontend, ht, FrontendHandoff.nextPc, ht]
  exact congrArg (Loc.mk s.loc.frontend) (fallthroughPc_eq h hd.valid hd.arrived)

omit h in
theorem commitLoc_of_transition
    (ht : (cycle s i).core.gate.frontendHandoff.transition) :
    (cycle s i).core.commitLoc =
      ⟨(cycle s i).core.gate.frontendHandoff.effectiveTargetFrontend, i.targetPc⟩ := by
  rw [commitLoc_eq hr, FrontendHandoff.nextFrontend, ht, FrontendHandoff.nextPc, ht]
  rfl

theorem rawBranchTargetValidO_eq (hc : cookieReturn s i = false) :
    (cycle s i).core.rawBranchTargetValidO =
      (((rawWord s i).branchTargetValid ||
          ((rawWord s i).branch && i.rawBranchResolved && i.rawBranchTaken)) &&
        !(ctrlWord s i).polyCtrl) := by
  have ht := retired h hr
  rw [FrontendCore.rawBranchTargetValidO, hr, polyCtrl_eq h hr,
    FrontendCore.rawCommitBranchTargetValid, FrontendCore.rawResolvedBranchTargetValid,
    rawUnresolvedBranch_eq h ht.valid, (sidebands h ht.valid).target, ht.arrived, hc]
  show (true && (true && _ || true && _ && !_ && !false && i.rawBranchResolved &&
    i.rawBranchTaken) && _) = _
  cases (rawWord s i).branchTargetValid <;> simp

theorem rawCommitBranchTarget_eq :
    (cycle s i).core.rawCommitBranchTarget =
      if (rawWord s i).branchTargetValid then (rawWord s i).branchTarget else i.rawBranchTargetI := by
  have ht := retired h hr
  have hb := (sidebands h ht.valid).target
  rw [ht.arrived, Bool.true_and] at hb
  rw [FrontendCore.rawCommitBranchTarget, hb]
  cases hv : (rawWord s i).branchTargetValid
  · rfl
  · rw [if_pos rfl, if_pos rfl, FrontendCore.rawBranchTarget, FrontendMemoryRetire.rawBranchTarget,
      if_pos (show FrontendMemoryRetire.rawBranchTargetValid _ = true from hb.trans hv)]
    exact congrArg RawInsnDecode.branchTarget (rawInsnDecode_eq h ht.valid ht.arrived)

theorem commit_eq_successor (hc : cookieReturn s i = false) :
    (if (cycle s i).core.trapReturnRestore then (cycle s i).core.trapReturnRestoreLoc
      else (cycle s i).stateCommitLoc) = successor s i := by
  have ht := retired h hr
  have hs := steps_of_retire hr
  have hbr := rawBranchTargetValidO_eq h hr hc
  have htr := trapReturnRestore_eq h hr
  unfold successor
  cases hp : (ctrlWord s i).polyCtrl
  · -- A raw or x86 instruction: a taken branch, or the next instruction.
    rw [hp] at hbr htr
    have hstay := commitLoc_of_stay h hr (handoff_of_raw h hr hp).1
    rw [htr, StatefulCore.stateCommitLoc, FrontendCore.rawBranchTargetO, hbr, hstay,
      rawCommitBranchTarget_eq h hr]
    cases (rawWord s i).branchTargetValid <;>
      cases (rawWord s i).branch && i.rawBranchResolved && i.rawBranchTaken <;> rfl
  · -- A control word: the operation decides.
    rw [hp] at hbr htr
    simp only [Bool.not_true, Bool.and_false, Bool.true_and] at hbr htr
    have hl := handoff_live h hs hp
    have htrans := hl.transition_eq ht.handoff
    have hesc := hl.ops.escape
    have hrec := hl.recognized ht.handoff
    rw [htr, StatefulCore.stateCommitLoc, hbr, if_pos rfl]
    cases ho : ctrlOpOf s i with
    | none => exact absurd ho hrec
    | some op =>
      rw [ho] at htrans hesc htr
      cases op with
      | trapReturn =>
        have htr' : (cycle s i).core.trapReturnRestore := htr.trans (by decide)
        rw [FrontendCore.trapReturnRestoreLoc, htr']
        rfl
      | landing => exact commitLoc_of_stay h hr (htrans.trans (by decide))
      | switch | call | escape =>
        refine (commitLoc_of_transition hr (htrans.trans (by decide))).trans ?_
        rw [FrontendHandoff.effectiveTargetFrontend, hesc]
        rfl

end

/-! ## When an instruction retires -/

theorem memoryOrderFails_eq_false (hf : faultPending s i = false) :
    memoryOrderFails s i = false := by
  simp only [faultPending, Bool.or_eq_false_iff] at hf
  exact hf.1.1.1.2

theorem handoff_target_eq (o : Option CtrlOp)
    (hesc : (cycle s i).core.gate.frontendHandoff.targetIsX86Escape = decide (o = some .escape)) :
    (cycle s i).core.gate.frontendHandoff.target =
      ⟨if o = some .escape then frontendX86 else i.targetFrontend, i.targetPc⟩ := by
  rw [FrontendHandoff.target, FrontendHandoff.effectiveTargetFrontend, hesc]
  by_cases ho : o = some .escape
  · rw [decide_eq_true ho, if_pos rfl, if_pos ho]
    rfl
  · rw [decide_eq_false ho, if_neg (by decide), if_neg ho]
    rfl

theorem handoff_error_eq (h : Inv s) (hs : (cycle s i).core.gate.Steps) :
    (cycle s i).core.gate.frontendHandoff.error =
      ((ctrlWord s i).polyCtrl && !ctrlAccepted s i) := by
  have hv : i.valid := hs.valid
  have ha : arrived s i := (pipeline_decodeValid h hv).symm.trans hs.decodeValid
  cases hp : (ctrlWord s i).polyCtrl
  · have hpc : (cycle s i).core.gate.frontendHandoff.polyCtrl = false :=
      (polyCtrlI_eq h hv ha).trans hp
    simp [FrontendHandoff.error, FrontendHandoff.invalidFrontend, FrontendHandoff.invalidSubop,
      FrontendHandoff.noncanonicalTarget, FrontendHandoff.targetAlignFault,
      FrontendHandoff.invalidSignatureSlot, FrontendHandoff.transitionStackFull, hpc]
  · have hl := handoff_live h hs hp
    have htarget := handoff_target_eq _ hl.ops.escape
    rw [hl.error_eq, Bool.true_and, ctrlAccepted]
    cases ho : ctrlOpOf s i with
    | none => rfl
    | some op =>
      rw [ho] at htarget
      cases op with
      | trapReturn =>
        have hr : i.trapReturnRestoreValid := hs.trapReturn (by
          rw [trapReturnDecode_eq h hv ha, hp, ho]
          decide)
        simp [FrontendHandoff.accepts, hr]
      | switch | escape | landing =>
        rw [FrontendHandoff.accepts, htarget]
        rfl
      | call =>
        have hsub : (cycle s i).core.gate.frontendHandoff.subop = (ctrlWord s i).subop :=
          subopI_eq h hv ha
        have hfull : (cycle s i).core.gate.frontendHandoff.transitionStackFullI =
            (s.regs.transitionStack.full || i.transitionPop || cookieReturn s i) := by
          show ((cycle s i).core.stackFull || (cycle s i).core.stackPopRequest) = _
          rw [stackPopRequest_eq h, Bool.or_assoc]
          rfl
        rw [FrontendHandoff.accepts, htarget, hsub, hfull]
        rfl

/-- Nothing stands before the arrived instruction: no pending fault, no interrupt or event frame, no
wait. -/
structure Ready (s : State) (i : Inputs) : Prop where
  valid : i.valid = true
  arrived : arrived s i = true
  noFault : faultPending s i = false
  unheld : (interruptTaken s i || restoreTaken s i || framePending i.toCoreInputs ||
    frameDelivered i.toCoreInputs) = false
  noMemoryWait : memoryWaits s i = false
  noBranchWait : branchWaits s i = false
  noDataWait : dataWaits s i = false

/-- The arrived instruction reaches the handoff: it is ready, and a trap return has its location. -/
structure Stepping (s : State) (i : Inputs) : Prop where
  ready : Ready s i
  trapReturn : (ctrlWord s i).polyCtrl = true → ctrlOpOf s i = some .trapReturn →
    i.trapReturnRestoreValid = true

theorem steps_iff (h : Inv s) : (cycle s i).core.gate.Steps ↔ Stepping s i := by
  constructor
  · intro hs
    have hv : i.valid := hs.valid
    have ha : arrived s i := (pipeline_decodeValid h hv).symm.trans hs.decodeValid
    have hf : faultPending s i = false := (pending_eq h hv).symm.trans hs.noFault
    have hready : (cycle s i).core.executeReady := hs.executeReady
    rw [executeReady_eq h hv ha (memoryOrderFails_eq_false hf)] at hready
    simp only [Bool.and_eq_true, Bool.not_eq_true'] at hready
    refine ⟨⟨hv, ha, hf, (blockRetire_eq h).symm.trans hs.unblocked, hready.1.1, hready.1.2,
      hready.2⟩, fun hp ho => hs.trapReturn ?_⟩
    rw [trapReturnDecode_eq h hv ha, hp, decide_eq_true ho]
    rfl
  · rintro ⟨hr, htr⟩
    have hready : (cycle s i).core.executeReady := by
      rw [executeReady_eq h hr.valid hr.arrived (memoryOrderFails_eq_false hr.noFault),
        hr.noMemoryWait, hr.noBranchWait, hr.noDataWait]
      rfl
    exact
      { valid := hr.valid
        fetchValid :=
          (FrontendFetchDecodePipeline.fetchValid_eq (pipeline_live h hr.valid)).trans hr.arrived
        decodeValid := (pipeline_decodeValid h hr.valid).trans hr.arrived
        executeReady := hready
        trapReturn := fun hd => by
          rw [trapReturnDecode_eq h hr.valid hr.arrived, Bool.and_eq_true, decide_eq_true_eq] at hd
          exact htr hd.1 hd.2
        unblocked := (blockRetire_eq h).trans hr.unheld
        noFault := (pending_eq h hr.valid).trans hr.noFault }

theorem retireReady_iff :
    retireReady s i ↔
      Ready s i ∧ ((ctrlWord s i).polyCtrl → ctrlAccepted s i) := by
  rw [retireReady]
  simp only [Bool.and_eq_true, Bool.not_eq_true', Bool.or_eq_true]
  constructor
  · rintro ⟨⟨⟨⟨⟨⟨⟨hv, ha⟩, hf⟩, hb⟩, hm⟩, hbr⟩, hd⟩, hc⟩
    exact ⟨⟨hv, ha, hf, hb, hm, hbr, hd⟩, fun hp => hc.resolve_left (by simp [hp])⟩
  · rintro ⟨⟨hv, ha, hf, hb, hm, hbr, hd⟩, hc⟩
    refine ⟨⟨⟨⟨⟨⟨⟨hv, ha⟩, hf⟩, hb⟩, hm⟩, hbr⟩, hd⟩, ?_⟩
    cases hp : (ctrlWord s i).polyCtrl with
    | false => exact .inl rfl
    | true => exact .inr (hc hp)

/-- The arrived instruction retires exactly when the cycle is valid, nothing stands before it, and
the handoff accepts it if it is a control word. -/
theorem retire_eq (h : Inv s) : (cycle s i).core.retire = retireReady s i := by
  rw [Bool.eq_iff_iff, retireReady_iff]
  constructor
  · intro hr
    obtain ⟨hs, herr⟩ := retire_iff.mp hr
    rw [handoff_error_eq h hs] at herr
    refine ⟨((steps_iff h).mp hs).ready, fun hp => ?_⟩
    rw [hp, Bool.true_and, Bool.not_eq_false'] at herr
    exact herr
  · rintro ⟨hready, hacc⟩
    have hs : (cycle s i).core.gate.Steps := by
      refine (steps_iff h).mpr ⟨hready, fun hp ho => ?_⟩
      have ha := hacc hp
      rwa [ctrlAccepted, ho] at ha
    refine retire_iff.mpr ⟨hs, ?_⟩
    rw [handoff_error_eq h hs]
    cases hp : (ctrlWord s i).polyCtrl with
    | false => rfl
    | true => rw [hacc hp]; rfl

end Poly
