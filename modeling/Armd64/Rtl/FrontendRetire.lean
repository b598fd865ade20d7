import Armd64.Rtl.Retire

/-!
# The retirement gate with its own decoder

`poly_frontend_step` decodes one fetched word and plans its handoff; `poly_frontend_retire` gates it
with the same order of waits and faults as `poly_frontend_predecoded_retire`, which gets the word
decoded.
-/

namespace Poly

/-! ## One step -/

/-- A fetched word, with the operands of its transition. -/
structure FrontendStep where
  valid : Bool
  frontend : BitVec 2
  pc : BitVec 64
  fetchWord : BitVec 32
  x86FallthroughPc : BitVec 64
  targetFrontend : BitVec 2
  targetPc : BitVec 64
  signatureSlotValid : Bool
  transitionStackFullI : Bool

namespace FrontendStep

variable (s : FrontendStep)

-- The ports that have one name on both sides are connected.
def decodeDispatch : FrontendDecodeDispatch := { s with }

def polyCtrl : Bool := s.decodeDispatch.ctrlDecode.polyCtrl

def subop : BitVec 7 := s.decodeDispatch.ctrlDecode.subop

def rawAlignFault : Bool := s.decodeDispatch.rawAlignFault

/-- The handoff of the decoded word. -/
def frontendHandoff : FrontendHandoff :=
  { s with
    valid := s.decodeDispatch.decodeValid
    currentFrontend := s.frontend
    polyCtrl := s.polyCtrl
    subop := s.subop
    callSigImm := s.decodeDispatch.ctrlDecode.callSigImm
    signatureSlot := s.decodeDispatch.ctrlDecode.signatureSlot
    fallthroughPc := s.decodeDispatch.fallthroughPc }

def error : Bool := s.rawAlignFault || s.frontendHandoff.error

/-- A misaligned location stays where it is. -/
def nextFrontend : BitVec 2 :=
  if s.rawAlignFault then s.frontend else s.frontendHandoff.nextFrontend

def nextPc : BitVec 64 := if s.rawAlignFault then s.pc else s.frontendHandoff.nextPc

end FrontendStep

/-! ## The gate -/

/-- The inputs of `poly_frontend_retire`: a fetched word and what holds it back. -/
structure FrontendRetire where
  valid : Bool
  fetchValid : Bool
  executeReady : Bool
  blockRetire : Bool
  olderFaultI : Bool
  fetchFaultI : Bool
  executeFaultI : Bool
  frontend : BitVec 2
  pc : BitVec 64
  fetchWord : BitVec 32
  x86FallthroughPc : BitVec 64
  targetFrontend : BitVec 2
  targetPc : BitVec 64
  signatureSlotValid : Bool
  transitionStackFullI : Bool

namespace FrontendRetire

variable (r : FrontendRetire)

def waitFetch : Bool :=
  r.valid && !r.fetchValid && !r.olderFaultI && !r.fetchFaultI && !r.executeFaultI && !r.blockRetire

def waitExecute : Bool :=
  r.valid && r.fetchValid && !r.executeReady && !r.olderFaultI && !r.fetchFaultI &&
    !r.executeFaultI && !r.blockRetire

def waitRetire : Bool :=
  r.valid && r.blockRetire && !r.olderFaultI && !r.fetchFaultI && !r.executeFaultI

/-- Nothing is missing, nothing blocks and nothing has failed before. -/
def stepValid : Bool :=
  r.valid && r.fetchValid && r.executeReady && !r.blockRetire && !r.olderFaultI &&
    !r.fetchFaultI && !r.executeFaultI

def frontendStep : FrontendStep := { r with valid := r.stepValid }

def olderFault : Bool := r.valid && r.olderFaultI

def fetchFault : Bool := r.valid && !r.olderFaultI && r.fetchFaultI

def executeFault : Bool := r.valid && !r.olderFaultI && !r.fetchFaultI && r.executeFaultI

def controlFault : Bool := r.stepValid && r.frontendStep.error

/-- At most one of the four is raised, in this order. -/
def fault : Bool := r.olderFault || r.fetchFault || r.executeFault || r.controlFault

def faultPc : BitVec 64 := if r.fault then r.pc else 0#64

/-- The word retires, and its handoff is committed. -/
def retire : Bool := r.stepValid && !r.frontendStep.error

def commitTransition : Bool := r.retire && r.frontendStep.frontendHandoff.transition

def commitPushTransition : Bool := r.retire && r.frontendStep.frontendHandoff.pushTransition

def commitFrontend : BitVec 2 := if r.retire then r.frontendStep.nextFrontend else r.frontend

def commitPc : BitVec 64 := if r.retire then r.frontendStep.nextPc else r.pc

def commitSignatureSlot : BitVec 7 :=
  if r.retire then r.frontendStep.frontendHandoff.selectedSignatureSlot else 0#7

end FrontendRetire

/-! ## The outputs of both gates -/

/-- The output ports that both gates have. -/
structure RetireOutputs where
  waitFetch : Bool
  waitExecute : Bool
  waitRetire : Bool
  retire : Bool
  commitTransition : Bool
  commitPushTransition : Bool
  commitFrontend : BitVec 2
  commitPc : BitVec 64
  commitSignatureSlot : BitVec 7
  fault : Bool
  faultPc : BitVec 64
  olderFault : Bool
  fetchFault : Bool
  executeFault : Bool
  controlFault : Bool
  polyCtrl : Bool
  subop : BitVec 7
  rawAlignFault : Bool
  invalidSubop : Bool
  invalidFrontend : Bool
  noncanonicalTarget : Bool
  targetAlignFault : Bool
  invalidSignatureSlot : Bool
  transitionStackFull : Bool
  deriving DecidableEq

/-- The outputs of the gate that decodes. -/
def FrontendRetire.outputs (r : FrontendRetire) : RetireOutputs where
  waitFetch := r.waitFetch
  waitExecute := r.waitExecute
  waitRetire := r.waitRetire
  retire := r.retire
  commitTransition := r.commitTransition
  commitPushTransition := r.commitPushTransition
  commitFrontend := r.commitFrontend
  commitPc := r.commitPc
  commitSignatureSlot := r.commitSignatureSlot
  fault := r.fault
  faultPc := r.faultPc
  olderFault := r.olderFault
  fetchFault := r.fetchFault
  executeFault := r.executeFault
  controlFault := r.controlFault
  polyCtrl := r.frontendStep.polyCtrl
  subop := r.frontendStep.subop
  rawAlignFault := r.frontendStep.rawAlignFault
  invalidSubop := r.frontendStep.frontendHandoff.invalidSubop
  invalidFrontend := r.frontendStep.frontendHandoff.invalidFrontend
  noncanonicalTarget := r.frontendStep.frontendHandoff.noncanonicalTarget
  targetAlignFault := r.frontendStep.frontendHandoff.targetAlignFault
  invalidSignatureSlot := r.frontendStep.frontendHandoff.invalidSignatureSlot
  transitionStackFull := r.frontendStep.frontendHandoff.transitionStackFull

/-- The outputs of the gate whose word is decoded. -/
def FrontendPredecodedRetire.outputs (r : FrontendPredecodedRetire) : RetireOutputs where
  waitFetch := r.waitFetch
  waitExecute := r.waitExecute
  waitRetire := r.waitRetire
  retire := r.retire
  commitTransition := r.commitTransition
  commitPushTransition := r.commitPushTransition
  commitFrontend := r.commitFrontend
  commitPc := r.commitPc
  commitSignatureSlot := r.commitSignatureSlot
  fault := r.fault
  faultPc := r.faultPc
  olderFault := r.olderFault
  fetchFault := r.fetchFault
  executeFault := r.executeFault
  controlFault := r.controlFault
  polyCtrl := r.polyCtrl
  subop := r.subop
  rawAlignFault := rawAlignFault
  invalidSubop := r.invalidSubop
  invalidFrontend := r.invalidFrontend
  noncanonicalTarget := r.noncanonicalTarget
  targetAlignFault := r.targetAlignFault
  invalidSignatureSlot := r.invalidSignatureSlot
  transitionStackFull := r.transitionStackFull

end Poly
