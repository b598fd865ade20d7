import Armd64.Rtl.Decode
import Armd64.Rtl.Handoff

/-!
# The control operations of the three frontends

The sub-operation codes mean different things in different frontends. `ctrlOp` is the one table of
what a control word asks for; `FrontendHandoff` decodes exactly this table.
-/

namespace Poly

inductive CtrlOp
  | switch
  | escape
  | call
  | trapReturn
  | landing
  deriving DecidableEq, Repr

/-- The sub-operation is one of the 13 immediate-signature calls of the frontend. -/
def sigImmOp (f : BitVec 2) (op : BitVec 7) : Bool :=
  if f = frontendX86 then (0x30#7).ule op && op.ult 0x3d#7
  else if f = frontendAarch64 then (0x50#7).ule op && op.ult 0x5d#7
  else if f = frontendRiscv then (0x20#7).ule op && op.ult 0x2d#7
  else false

def ctrlOp (f : BitVec 2) (op : BitVec 7) : Option CtrlOp :=
  if sigImmOp f op then some .call
  else if f = frontendX86 then
    match op with
    | 0x03#7 | 0x04#7 => some .switch
    | 0x2d#7 => some .call
    | 0x62#7 => some .trapReturn
    | 0x05#7 => some .landing
    | _ => none
  else if f = frontendAarch64 then
    match op with
    | 0x70#7 => some .escape
    | 0x78#7 => some .switch
    | 0x79#7 | 0x7a#7 => some .call
    | 0x76#7 => some .trapReturn
    | 0x7b#7 => some .landing
    | _ => none
  else if f = frontendRiscv then
    match op with
    | 0x00#7 => some .escape
    | 0x08#7 => some .switch
    | 0x09#7 | 0x0a#7 => some .call
    | 0x06#7 => some .trapReturn
    | 0x0b#7 => some .landing
    | _ => none
  else none

def plainCall (f : BitVec 2) (op : BitVec 7) : Bool :=
  (f == frontendAarch64 && op == 0x79#7) || (f == frontendRiscv && op == 0x09#7)

/-! ## The decoders follow the table -/

theorem CtrlDecode.subop_eq {d : CtrlDecode} (h : d.polyCtrl) : d.subop = d.decodedSubop :=
  if_pos h

theorem CtrlDecode.callSigImm_eq {d : CtrlDecode} (h : d.polyCtrl) :
    d.callSigImm = sigImmOp d.frontend d.subop := by
  have hs := subop_eq h
  have hc : (d.isX86Ctrl || d.isAarch64Ctrl || d.isRiscvCtrl) := by
    rw [polyCtrl, Bool.and_eq_true] at h
    exact h.2
  have hop : ∀ base : BitVec 7, d.inSlots base =
      (base.ule d.subop && d.subop.ult (base + abiSignatureSlotCount)) := fun base => by
    rw [inSlots, hs]
  -- Each of the three kinds of control word fixes the frontend.
  rcases (by simpa using hc : (d.isX86Ctrl = true ∨ d.isAarch64Ctrl = true) ∨ d.isRiscvCtrl = true)
    with (hx | ha) | hr
  · have hf : d.frontend = frontendX86 := by simp [isX86Ctrl] at hx; exact hx.1.1.1.1
    simp [callSigImm, h, hx, hop, sigImmOp, hf, isAarch64Ctrl, isRiscvCtrl, frontendX86,
      frontendAarch64, frontendRiscv, x86PcallSigImmBase, abiSignatureSlotCount]
  · have hf : d.frontend = frontendAarch64 := by simp [isAarch64Ctrl] at ha; exact ha.1
    simp [callSigImm, h, ha, hop, sigImmOp, hf, isX86Ctrl, isRiscvCtrl, frontendX86,
      frontendAarch64, frontendRiscv, aarch64CallSigImmBase, abiSignatureSlotCount]
  · have hf : d.frontend = frontendRiscv := by simp [isRiscvCtrl] at hr; exact hr.1
    simp [callSigImm, h, hr, hop, sigImmOp, hf, isX86Ctrl, isAarch64Ctrl, frontendX86,
      frontendAarch64, frontendRiscv, riscvCallSigImmBase, abiSignatureSlotCount]

namespace FrontendHandoff

structure Ops (h : FrontendHandoff) (o : Option CtrlOp) : Prop where
  switch : h.switch = decide (o = some .switch ∨ o = some .escape)
  call : h.call = decide (o = some .call)
  trapReturn : h.trapReturn = decide (o = some .trapReturn)
  landing : h.landing = decide (o = some .landing)
  escape : h.targetIsX86Escape = decide (o = some .escape)
  signatureRequired :
    h.signatureRequired = (decide (o = some .call) && !plainCall h.currentFrontend h.subop)

theorem x86_table : ∀ op : BitVec 7,
    (op == x86CtrlPenterMode || op == x86CtrlPswitchMode) =
        decide (ctrlOp frontendX86 op = some .switch ∨ ctrlOp frontendX86 op = some .escape) ∧
      (op == x86CtrlPcallSigMode || sigImmOp frontendX86 op) =
        decide (ctrlOp frontendX86 op = some .call) ∧
      (op == x86CtrlTrapReturn) = decide (ctrlOp frontendX86 op = some .trapReturn) ∧
      (op == x86CtrlLanding) = decide (ctrlOp frontendX86 op = some .landing) ∧
      false = decide (ctrlOp frontendX86 op = some .escape) ∧
      (op == x86CtrlPcallSigMode || sigImmOp frontendX86 op) =
        (decide (ctrlOp frontendX86 op = some .call) && !plainCall frontendX86 op) := by
  decide +kernel

theorem aarch64_table : ∀ op : BitVec 7,
    (op == aarch64CtrlX86Escape || op == aarch64CtrlSwitchMode) =
        decide (ctrlOp frontendAarch64 op = some .switch ∨ ctrlOp frontendAarch64 op = some .escape) ∧
      (op == aarch64CtrlCallMode || op == aarch64CtrlCallSigMode || sigImmOp frontendAarch64 op) =
        decide (ctrlOp frontendAarch64 op = some .call) ∧
      (op == aarch64CtrlTrapReturn) = decide (ctrlOp frontendAarch64 op = some .trapReturn) ∧
      (op == aarch64CtrlLanding) = decide (ctrlOp frontendAarch64 op = some .landing) ∧
      (op == aarch64CtrlX86Escape) = decide (ctrlOp frontendAarch64 op = some .escape) ∧
      (op == aarch64CtrlCallSigMode || sigImmOp frontendAarch64 op) =
        (decide (ctrlOp frontendAarch64 op = some .call) && !plainCall frontendAarch64 op) := by
  decide +kernel

theorem riscv_table : ∀ op : BitVec 7,
    (op == riscvCtrlX86Escape || op == riscvCtrlSwitchMode) =
        decide (ctrlOp frontendRiscv op = some .switch ∨ ctrlOp frontendRiscv op = some .escape) ∧
      (op == riscvCtrlCallMode || op == riscvCtrlCallSigMode || sigImmOp frontendRiscv op) =
        decide (ctrlOp frontendRiscv op = some .call) ∧
      (op == riscvCtrlTrapReturn) = decide (ctrlOp frontendRiscv op = some .trapReturn) ∧
      (op == riscvCtrlLanding) = decide (ctrlOp frontendRiscv op = some .landing) ∧
      (op == riscvCtrlX86Escape) = decide (ctrlOp frontendRiscv op = some .escape) ∧
      (op == riscvCtrlCallSigMode || sigImmOp frontendRiscv op) =
        (decide (ctrlOp frontendRiscv op = some .call) && !plainCall frontendRiscv op) := by
  decide +kernel

theorem ops_eq {h : FrontendHandoff} (hd : h.decodes)
    (hs : h.callSigImm = sigImmOp h.currentFrontend h.subop) :
    h.Ops (ctrlOp h.currentFrontend h.subop) := by
  have hv : frontendValid h.currentFrontend := by
    simp [decodes, currentFrontendValid] at hd
    exact hd.2
  rcases frontendValid_iff.mp hv with hf | hf | hf <;> rw [hf] at hs ⊢
  · obtain ⟨t1, t2, t3, t4, t5, t6⟩ := x86_table h.subop
    refine ⟨.trans ?_ t1, .trans ?_ t2, .trans ?_ t3, .trans ?_ t4, .trans ?_ t5,
      .trans ?_ (t6.trans (by rw [hf]))⟩ <;>
      simp [switch, call, trapReturn, landing, targetIsX86Escape, signatureRequired, hd, hf, hs,
        frontendX86, frontendAarch64, frontendRiscv]
  · have hx : frontendAarch64 ≠ frontendX86 := by decide
    have hr : frontendAarch64 ≠ frontendRiscv := by decide
    obtain ⟨t1, t2, t3, t4, t5, t6⟩ := aarch64_table h.subop
    refine ⟨.trans ?_ t1, .trans ?_ t2, .trans ?_ t3, .trans ?_ t4, .trans ?_ t5,
      .trans ?_ (t6.trans (by rw [hf]))⟩ <;>
      simp [switch, call, trapReturn, landing, targetIsX86Escape, signatureRequired, hd, hf, hs, hx,
        hr]
  · have hx : frontendRiscv ≠ frontendX86 := by decide
    have ha : frontendRiscv ≠ frontendAarch64 := by decide
    obtain ⟨t1, t2, t3, t4, t5, t6⟩ := riscv_table h.subop
    refine ⟨.trans ?_ t1, .trans ?_ t2, .trans ?_ t3, .trans ?_ t4, .trans ?_ t5,
      .trans ?_ (t6.trans (by rw [hf]))⟩ <;>
      simp [switch, call, trapReturn, landing, targetIsX86Escape, signatureRequired, hd, hf, hs, hx,
        ha]

end FrontendHandoff

end Poly
