import Armd64.Rtl.Basic

/-!
# Frontend handoff (`poly_frontend_handoff`)

What a decoded control word asks for (switch, call, trap return, landing), and the checks that
stand before a change of frontend and pc.
-/

namespace Poly

/-- The decoded control word, the operands of its transition and the state of the stack. -/
structure FrontendHandoff where
  valid : Bool
  currentFrontend : BitVec 2
  polyCtrl : Bool
  subop : BitVec 7
  callSigImm : Bool
  signatureSlot : BitVec 7
  signatureSlotValid : Bool
  targetFrontend : BitVec 2
  targetPc : BitVec 64
  fallthroughPc : BitVec 64
  transitionStackFullI : Bool

namespace FrontendHandoff

/-! ## Sub-operation codes -/

def x86CtrlPenterMode : BitVec 7 := 0x03#7

def x86CtrlPswitchMode : BitVec 7 := 0x04#7

def x86CtrlLanding : BitVec 7 := 0x05#7

def x86CtrlPcallSigMode : BitVec 7 := 0x2d#7

def x86CtrlTrapReturn : BitVec 7 := 0x62#7

def aarch64CtrlX86Escape : BitVec 7 := 0x70#7

def aarch64CtrlTrapReturn : BitVec 7 := 0x76#7

def aarch64CtrlSwitchMode : BitVec 7 := 0x78#7

def aarch64CtrlCallMode : BitVec 7 := 0x79#7

def aarch64CtrlCallSigMode : BitVec 7 := 0x7a#7

def aarch64CtrlLanding : BitVec 7 := 0x7b#7

def riscvCtrlX86Escape : BitVec 7 := 0#7

def riscvCtrlTrapReturn : BitVec 7 := 6#7

def riscvCtrlSwitchMode : BitVec 7 := 8#7

def riscvCtrlCallMode : BitVec 7 := 9#7

def riscvCtrlCallSigMode : BitVec 7 := 10#7

def riscvCtrlLanding : BitVec 7 := 11#7

/-! ## Wires -/

variable (h : FrontendHandoff)

def currentFrontendValid : Bool := frontendValid h.currentFrontend

def targetFrontendValid : Bool := frontendValid h.targetFrontend

/-- The escape codes are for x86, whatever target frontend the operands name. -/
def targetIsX86Escape : Bool :=
  (h.currentFrontend == frontendAarch64 && h.subop == aarch64CtrlX86Escape) ||
    (h.currentFrontend == frontendRiscv && h.subop == riscvCtrlX86Escape)

def effectiveTargetFrontend : BitVec 2 :=
  if h.targetIsX86Escape then frontendX86 else h.targetFrontend

/-- A control word in a frontend that exists. -/
def decodes : Bool := h.valid && h.polyCtrl && h.currentFrontendValid

def switch : Bool :=
  h.decodes &&
    if h.currentFrontend = frontendX86 then
      h.subop == x86CtrlPenterMode || h.subop == x86CtrlPswitchMode
    else if h.currentFrontend = frontendAarch64 then
      h.subop == aarch64CtrlX86Escape || h.subop == aarch64CtrlSwitchMode
    else if h.currentFrontend = frontendRiscv then
      h.subop == riscvCtrlX86Escape || h.subop == riscvCtrlSwitchMode
    else false

def call : Bool :=
  h.decodes &&
    if h.currentFrontend = frontendX86 then h.subop == x86CtrlPcallSigMode || h.callSigImm
    else if h.currentFrontend = frontendAarch64 then
      h.subop == aarch64CtrlCallMode || h.subop == aarch64CtrlCallSigMode || h.callSigImm
    else if h.currentFrontend = frontendRiscv then
      h.subop == riscvCtrlCallMode || h.subop == riscvCtrlCallSigMode || h.callSigImm
    else false

/-- The calls that name a signature slot. The plain call modes do not. -/
def signatureRequired : Bool :=
  h.decodes &&
    if h.currentFrontend = frontendX86 then h.subop == x86CtrlPcallSigMode || h.callSigImm
    else if h.currentFrontend = frontendAarch64 then
      h.subop == aarch64CtrlCallSigMode || h.callSigImm
    else if h.currentFrontend = frontendRiscv then
      h.subop == riscvCtrlCallSigMode || h.callSigImm
    else false

def trapReturn : Bool :=
  h.decodes &&
    if h.currentFrontend = frontendX86 then h.subop == x86CtrlTrapReturn
    else if h.currentFrontend = frontendAarch64 then h.subop == aarch64CtrlTrapReturn
    else if h.currentFrontend = frontendRiscv then h.subop == riscvCtrlTrapReturn
    else false

def landing : Bool :=
  h.decodes &&
    if h.currentFrontend = frontendX86 then h.subop == x86CtrlLanding
    else if h.currentFrontend = frontendAarch64 then h.subop == aarch64CtrlLanding
    else if h.currentFrontend = frontendRiscv then h.subop == riscvCtrlLanding
    else false

def opRecognized : Bool := h.switch || h.call || h.trapReturn || h.landing

/-- A trap return does not use the target. -/
def targetChecked : Bool := h.switch || h.call || h.landing

def invalidFrontend : Bool :=
  h.valid && h.polyCtrl &&
    (!h.currentFrontendValid ||
      (h.targetChecked && !h.targetFrontendValid && !h.targetIsX86Escape))

def invalidSubop : Bool := h.valid && h.polyCtrl && h.currentFrontendValid && !h.opRecognized

/-- At most one of the two faults of the target pc is raised. -/
def noncanonicalTarget : Bool :=
  h.valid && h.polyCtrl && h.targetChecked && !h.invalidFrontend && !canonical64 h.targetPc

def targetAlignFault : Bool :=
  h.valid && h.polyCtrl && h.targetChecked && !h.invalidFrontend && canonical64 h.targetPc &&
    !frontendAligned h.effectiveTargetFrontend h.targetPc

def invalidSignatureSlot : Bool :=
  h.valid && h.polyCtrl && h.signatureRequired && !h.signatureSlotValid

/-- Only a call needs room on the stack. -/
def transitionStackFull : Bool := h.valid && h.polyCtrl && h.call && h.transitionStackFullI

def error : Bool :=
  h.invalidFrontend || h.invalidSubop || h.noncanonicalTarget || h.targetAlignFault ||
    h.invalidSignatureSlot || h.transitionStackFull

/-- A landing or a trap return is recognised, and is no transition. -/
def transition : Bool := h.valid && h.polyCtrl && !h.error && (h.switch || h.call)

def pushTransition : Bool := h.valid && h.polyCtrl && !h.error && h.call

def nextFrontend : BitVec 2 :=
  if h.transition then h.effectiveTargetFrontend else h.currentFrontend

/-- Without a transition the word falls through, also after an error. -/
def nextPc : BitVec 64 := if h.transition then h.targetPc else h.fallthroughPc

def selectedSignatureSlot : BitVec 7 := if h.signatureRequired then h.signatureSlot else 0#7

end FrontendHandoff

end Poly
