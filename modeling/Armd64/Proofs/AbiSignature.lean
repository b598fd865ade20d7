import Armd64.Proofs.Gate
import Armd64.Proofs.Pipeline

/-!
# Selection of an ABI signature

An immediate-signature call names one of 13 slots in its encoding, and the core reports the
signature that the slot holds when the call pushes its caller frame. The slot number goes through
the control decoder, the handoff and a truncation to four bits; the register map is reported as
seven bits and a flag, which lose nothing of a map that the set check accepts.
-/

namespace Poly

open AbiSignatureSlots

/-! ## The slots -/

/-- The signature that an edge writes to a slot: that of a set which names the slot and has a valid
kind and map. -/
def AbiSignatureSet.accepted (r : AbiSignatureSet) (slot : Fin 13) : Option AbiSlot :=
  if r.set && r.setSlot.toNat == slot && validKind r.setKind &&
      validMap r.setMap then
    some ⟨r.setKind, r.setMap⟩
  else none

def AbiSlot.Ok (x : AbiSlot) : Prop :=
  validKind x.kind = true ∧ validMap x.map = true

instance (x : AbiSlot) : Decidable x.Ok := inferInstanceAs (Decidable (_ ∧ _))

namespace AbiSignatureSlots

def rejects (r : AbiSignatureSet) : Bool :=
  r.set && (!validSlot r.setSlot || !validKind r.setKind || !validMap r.setMap)

theorem validSlot_iff {slot : BitVec 4} : validSlot slot ↔ slot.toNat < 13 := by
  simp [validSlot, BitVec.ult]

theorem step_slot (a : AbiSignatureSlots) (r : AbiSignatureSet) (slot : Fin 13) :
    (a.step r).slots[slot] = (r.accepted slot).getD a.slots[slot] := by
  rw [step, AbiSignatureSet.accepted]
  cases hset : r.set with
  | false => simp
  | true =>
    cases hbad : !validSlot r.setSlot || !validKind r.setKind || !validMap r.setMap with
    | false =>
      simp only [Bool.or_eq_false_iff, Bool.not_eq_false'] at hbad
      by_cases hslot : r.setSlot.toNat = slot.val
      · simp [hbad, hslot]
      · simp [hbad, hslot, Vector.getElem_setIfInBounds_ne]
    | true =>
      have hno : ¬(r.setSlot.toNat = slot.val ∧ validKind r.setKind = true ∧
          validMap r.setMap = true) := by
        rintro ⟨hs, hk, hm⟩
        have hslot : validSlot r.setSlot := validSlot_iff.mpr (hs ▸ slot.isLt)
        rw [hslot, hk, hm] at hbad
        cases hbad
      simp [and_assoc, hno]

theorem slots_of_rejects {a : AbiSignatureSlots} {r : AbiSignatureSet} (h : rejects r) :
    (a.step r).slots = a.slots := by
  rw [rejects, Bool.and_eq_true] at h
  rw [step, if_pos h.1, if_pos h.2]

theorem ok_of_accepted {r : AbiSignatureSet} {slot : Fin 13} {x : AbiSlot}
    (h : r.accepted slot = some x) : x.Ok := by
  rw [AbiSignatureSet.accepted] at h
  split at h
  · rename_i hacc
    simp only [Bool.and_eq_true] at hacc
    obtain rfl := Option.some.inj h
    exact ⟨hacc.1.2, hacc.2⟩
  · cases h

theorem ok_resetSlots (slot : Fin 13) : resetSlots[slot].Ok := by
  revert slot
  decide

theorem map_of_validMap {m : BitVec 32} (h : validMap m) :
    BitVec.ofBool (m &&& registerMapFlagTlsBase != 0#32) ++ 0#24 ++ m.extractLsb' 0 7 = m := by
  have htls : registerMapFlagTlsBase = BitVec.twoPow 32 31 := by decide
  have hflag : (m &&& registerMapFlagTlsBase != 0#32) = m.getLsbD 31 := by
    rw [htls, BitVec.and_twoPow]
    cases m.getLsbD 31 <;> decide
  rw [validMap, Bool.and_eq_true, beq_iff_eq, htls] at h
  apply BitVec.eq_of_getLsbD_eq
  intro k hk
  rw [hflag, BitVec.getLsbD_append, BitVec.getLsbD_append]
  rcases Nat.lt_or_ge k 7 with hlow | hhigh
  · simp [hlow]
  · rcases Nat.lt_or_ge k 31 with hmid | htop
    · -- The check leaves no bit between the map and the flag.
      have hbit := congrArg (·.getLsbD (k - 7)) h.1
      simp only [BitVec.getLsbD_extractLsb', show k - 7 < 25 by omega,
        show 7 + (k - 7) = k by omega, BitVec.getLsbD_and, BitVec.getLsbD_not,
        BitVec.getLsbD_twoPow, hk, show ¬31 = k by omega] at hbit
      simp at hbit
      simp [show ¬k < 7 by omega, show k - 7 < 24 by omega, hbit]
    · obtain rfl : k = 31 := by omega
      simp

end AbiSignatureSlots

/-! ## The encoded slot number -/

/-- The call of a slot: the fourth byte of the x86 instruction, the immediate of an AArch64 hint, or
the `funct7` of a RISC-V custom instruction. -/
def pcallSigImm (f : BitVec 2) (slot : Fin 13) : BitVec 32 :=
  let n := BitVec.ofNat 32 slot
  if f = frontendX86 then 0x00fc3a0f#32 ||| ((0x30#32 + n) <<< 24)
  else if f = frontendAarch64 then 0xd503201f#32 ||| ((0x50#32 + n) <<< 5)
  else 0x0000700b#32 ||| ((0x20#32 + n) <<< 25)

theorem CtrlDecode.signatureSlot_pcallSigImm {f : BitVec 2} (hf : frontendValid f)
    (slot : Fin 13) :
    (CtrlDecode.mk true f (pcallSigImm f slot)).callSigImm ∧
      (CtrlDecode.mk true f (pcallSigImm f slot)).signatureSlot = BitVec.ofNat 7 slot := by
  revert slot
  rcases frontendValid_iff.mp hf with rfl | rfl | rfl <;> decide

theorem FrontendHandoff.call_of_push {h : FrontendHandoff} (hp : h.pushTransition) :
    h.decodes ∧ frontendValid h.currentFrontend := by
  rw [pushTransition, Bool.and_eq_true] at hp
  have hcall := hp.2
  rw [call, Bool.and_eq_true] at hcall
  have hd := hcall.1
  refine ⟨hd, ?_⟩
  rw [decodes, Bool.and_eq_true] at hd
  exact hd.2

theorem FrontendHandoff.selectedSlot_of_imm {h : FrontendHandoff} (hd : h.decodes)
    (hf : frontendValid h.currentFrontend) (hi : h.callSigImm) :
    h.selectedSignatureSlot = h.signatureSlot := by
  have hreq : h.signatureRequired := by
    rcases frontendValid_iff.mp hf with hf | hf | hf <;>
      simp [signatureRequired, hd, hi, hf, frontendX86, frontendAarch64, frontendRiscv]
  rw [selectedSignatureSlot, if_pos hreq]

namespace FrontendCore

variable {c : FrontendCore} {slot : Fin 13}

theorem commitSignatureSlot_of_push (hp : c.commitPushTransition)
    (hw : c.insn c.frontend = pcallSigImm c.frontend slot) :
    c.commitSignatureSlot = BitVec.ofNat 7 slot := by
  rw [commitPushTransition, FrontendPredecodedRetire.commitPushTransition, Bool.and_eq_true] at hp
  obtain ⟨hr, hpush⟩ := hp
  have hsteps := (FrontendPredecodedRetire.retire_iff.mp hr).1
  obtain ⟨hd, hf⟩ := FrontendHandoff.call_of_push hpush
  have hf' : frontendValid c.pipeline.frontend := hf
  have hlive : c.pipeline.Live :=
    FrontendFetchDecodePipeline.live_of_decodeValid hsteps.valid hf' hsteps.decodeValid
  have harr : c.pipeline.arrived :=
    (FrontendFetchDecodePipeline.decodeValid_eq hlive).symm.trans hsteps.decodeValid
  -- The control decoder sees the word of the call.
  have hctrl : c.pipeline.decodeDispatch.ctrlDecode =
      ⟨true, c.frontend, pcallSigImm c.frontend slot⟩ := by
    rw [FrontendFetchDecodePipeline.ctrlDecode_eq hlive harr, ← hw]
    rfl
  obtain ⟨himm, hslot⟩ := CtrlDecode.signatureSlot_pcallSigImm hf' slot
  have hi : c.gate.frontendHandoff.callSigImm := by
    show c.pipeline.decodeDispatch.ctrlDecode.callSigImm = true
    rw [hctrl]
    exact himm
  rw [commitSignatureSlot, FrontendPredecodedRetire.commitSignatureSlot, if_pos hr,
    FrontendHandoff.selectedSlot_of_imm hd hf hi]
  show c.pipeline.decodeDispatch.ctrlDecode.signatureSlot = _
  rw [hctrl]
  exact hslot

theorem signature_of_push (hp : c.commitPushTransition)
    (hw : c.insn c.frontend = pcallSigImm c.frontend slot) :
    c.abiSignatureValid ∧ c.abiSignatureKind = c.regs.abiSignatureSlots.slots[slot].kind ∧
      c.abiSignatureMap = c.regs.abiSignatureSlots.slots[slot].map.extractLsb' 0 7 ∧
      c.abiSignatureTlsBase =
        (c.regs.abiSignatureSlots.slots[slot].map &&& registerMapFlagTlsBase !=
          0#32) := by
  have hsel : c.abiSelectSlot.toNat = slot.val := by
    rw [abiSelectSlot, commitSignatureSlot_of_push hp hw, BitVec.extractLsb'_toNat,
      BitVec.toNat_ofNat]
    omega
  have hok : validSlot c.abiSelectSlot :=
    validSlot_iff.mpr (hsel ▸ slot.isLt)
  have hslot : c.regs.abiSignatureSlots.selected c.abiSelectSlot =
      c.regs.abiSignatureSlots.slots[slot] := by
    simp [selected, hsel]
  have hv : c.abiSignatureValid := by
    rw [abiSignatureValid, hp, selectValid, hok]
    rfl
  simp [hv, abiSignatureKind, abiSignatureMap, abiSignatureTlsBase, selectKind,
    selectMap, selectTlsBase, hok, hslot]

end FrontendCore

/-! ## Runs -/

def acceptedSet (slot : Fin 13) (i : CoreInputs × Loc) : Option AbiSlot :=
  AbiSignatureSet.accepted
    ⟨i.1.abiSignatureSet, i.1.abiSignatureSetSlot, i.1.abiSignatureSetKind, i.1.abiSignatureSetMap⟩
    slot

def lastSignature (slot : Fin 13) (is : List (CoreInputs × Loc)) : AbiSlot :=
  (is.reverse.findSome? (acceptedSet slot)).getD resetSlots[slot]

theorem slot_run {r : CoreRegs} (hr : r.IsReset) (is : List (CoreInputs × Loc)) (slot : Fin 13) :
    (coreMachine.run r is).abiSignatureSlots.slots[slot] = lastSignature slot is := by
  have h := coreMachine.run_eq_lastWrite (fun r => r.abiSignatureSlots.slots[slot])
    (acceptedSet slot) (fun r i => step_slot _ _ slot) r is
  rw [h, hr.abiSignatureSlots]
  rfl

theorem lastSignature_ok (slot : Fin 13) (is : List (CoreInputs × Loc)) :
    (lastSignature slot is).Ok := by
  rw [lastSignature]
  cases h : is.reverse.findSome? (acceptedSet slot) with
  | none => exact ok_resetSlots slot
  | some x =>
    obtain ⟨i, -, hi⟩ := List.exists_of_findSome?_eq_some h
    exact ok_of_accepted hi

/-- In every run from reset, an immediate-signature call that pushes reports the signature of the
last accepted set of its slot, or that of the reset, with the map split into seven bits and the
flag. A rejected set changes no slot, and every slot holds what a set may write. -/
theorem signature_selected (r : CoreRegs) (hr : r.IsReset) (is : List (CoreInputs × Loc))
    (i : CoreInputs × Loc) :
    let c := coreCycle (coreMachine.run r is) i
    (∀ slot, c.commitPushTransition = true →
      c.insn c.frontend = pcallSigImm c.frontend slot →
        c.abiSignatureValid = true ∧ c.abiSignatureKind = (lastSignature slot is).kind ∧
          BitVec.ofBool c.abiSignatureTlsBase ++ 0#24 ++ c.abiSignatureMap =
            (lastSignature slot is).map) ∧
      (rejects c.abiSignatureSetReq = true →
        c.nextRegs.abiSignatureSlots.slots = c.regs.abiSignatureSlots.slots) ∧
      ∀ slot : Fin 13, c.regs.abiSignatureSlots.slots[slot].Ok := by
  intro c
  have hslot (slot : Fin 13) : c.regs.abiSignatureSlots.slots[slot] = lastSignature slot is :=
    slot_run hr is slot
  refine ⟨fun slot hp hw => ?_, slots_of_rejects, fun slot => ?_⟩
  · obtain ⟨hv, hk, hm, ht⟩ := FrontendCore.signature_of_push hp hw
    rw [hv, hk, hm, ht, hslot]
    exact ⟨rfl, rfl, map_of_validMap (lastSignature_ok slot is).2⟩
  · rw [hslot]
    exact lastSignature_ok slot is

/-- A set of slot 3 with the flag, and then a call that AArch64 code makes with this slot. -/
def setThenCall : (CoreInputs × Loc) × (CoreInputs × Loc) :=
  (({ abiSignatureSet := true
      abiSignatureSetSlot := 3
      abiSignatureSetKind := 20
      abiSignatureSetMap := 0x80000005 }, ⟨frontendAarch64, 0x4000⟩),
    ({ valid := true
       rawMemRespValid := true
       rawMemRespWord := pcallSigImm frontendAarch64 3
       targetFrontend := frontendRiscv
       targetPc := 0x8000
       signatureSlotValid := true }, ⟨frontendAarch64, 0x4000⟩))

theorem signature_selected_set :
    let c := coreCycle (coreMachine.run State.reset.regs [setThenCall.1]) setThenCall.2
    c.commitPushTransition = true ∧ lastSignature 3 [setThenCall.1] = ⟨20, 0x80000005⟩ ∧
      c.abiSignatureValid = true ∧ c.abiSignatureKind = (lastSignature 3 [setThenCall.1]).kind ∧
      BitVec.ofBool c.abiSignatureTlsBase ++ 0#24 ++ c.abiSignatureMap =
        (lastSignature 3 [setThenCall.1]).map :=
  have h :=
    signature_selected State.reset.regs State.reset_isReset.regs [setThenCall.1] setThenCall.2
  ⟨by decide, by decide, h.1 3 (by decide) (by decide)⟩

end Poly
