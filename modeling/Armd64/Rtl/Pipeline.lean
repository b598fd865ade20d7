import Armd64.Rtl.Decode

/-!
# The fetch/decode pipeline (`poly_frontend_fetch_decode_pipeline`)

Request issue, the response stage of the active frontend and the decoders, for one frontend and pc.
-/

namespace Poly

/-- A location and the answers to its two kinds of fetch request. -/
structure FrontendFetchDecodePipeline where
  valid : Bool
  frontend : BitVec 2
  pc : BitVec 64
  x86FetchRespValid : Bool
  x86FetchRespFault : Bool
  x86FetchRespWord : BitVec 32
  x86FetchRespFallthroughPc : BitVec 64
  rawMemRespValid : Bool
  rawMemRespFault : Bool
  rawMemRespWord : BitVec 32

namespace FrontendFetchDecodePipeline

variable (p : FrontendFetchDecodePipeline)

def x86Frontend : Bool := p.frontend == frontendX86

def rawFrontend : Bool := frontendRaw p.frontend

/-- The requests: one of the two kinds, by the frontend. -/
def fetchIssue : FrontendFetchIssue where
  valid := p.valid
  frontend := p.frontend
  pc := p.pc

def x86FetchReqValid : Bool := p.fetchIssue.x86FetchReqValid

def x86FetchReqAddr : BitVec 64 := p.fetchIssue.x86FetchReqAddr

def x86FetchReqBytes : BitVec 5 := p.fetchIssue.x86FetchReqBytes

def rawMemReqValid : Bool := p.fetchIssue.rawFetchReqValid

def rawMemReqAddr : BitVec 64 := p.fetchIssue.rawFetchReqAddr

def rawMemReqBytes : BitVec 3 := p.fetchIssue.rawFetchReqBytes

/-- The answer to an x86 request, which comes with the next pc. -/
def x86FetchStage : X86FetchStage where
  valid := p.valid && p.x86Frontend
  requestValid := p.x86FetchReqValid
  fetchRespValid := p.x86FetchRespValid
  fetchRespFault := p.x86FetchRespFault
  fetchRespWord := p.x86FetchRespWord
  fetchRespFallthroughPc := p.x86FetchRespFallthroughPc

/-- The answer to a raw request, of up to four bytes. -/
def rawFetchResponseStage : RawFetchResponseStage where
  valid := p.valid && p.rawFrontend
  frontend := p.frontend
  pc := p.pc
  requestValid := p.rawMemReqValid
  memRespValid := p.rawMemRespValid
  memRespFault := p.rawMemRespFault
  memRespWord := p.rawMemRespWord

def x86MemFault : Bool := p.x86FetchStage.memFault

def rawMemFault : Bool := p.rawFetchResponseStage.memFault

def fetchValid : Bool :=
  (p.x86Frontend && p.x86FetchStage.insnValid) ||
    (p.rawFrontend && p.rawFetchResponseStage.insnValid)

/-- The request could not be made, or its answer is a fault. -/
def fetchFault : Bool :=
  p.fetchIssue.fault || (p.x86Frontend && p.x86FetchStage.fault) ||
    (p.rawFrontend && p.rawFetchResponseStage.fault)

def fetchWord : BitVec 32 :=
  if p.rawFrontend then p.rawFetchResponseStage.insn else p.x86FetchStage.insn

/-- The next pc of a raw instruction is found by the decoder. -/
def fetchStageFallthroughPc : BitVec 64 :=
  if p.x86Frontend then p.x86FetchStage.fallthroughPc else 0#64

/-- The decoders get the word of the active frontend. -/
def decodeDispatch : FrontendDecodeDispatch where
  valid := p.fetchValid
  frontend := p.frontend
  pc := p.pc
  fetchWord := p.fetchWord
  x86FallthroughPc := p.fetchStageFallthroughPc

def fetchFallthroughPc : BitVec 64 := p.decodeDispatch.fallthroughPc

def decodeValid : Bool := p.decodeDispatch.decodeValid

def polyCtrl : Bool := p.decodeDispatch.ctrlDecode.polyCtrl

def subop : BitVec 7 := p.decodeDispatch.ctrlDecode.subop

def callSigImm : Bool := p.decodeDispatch.ctrlDecode.callSigImm

def signatureSlot : BitVec 7 := p.decodeDispatch.ctrlDecode.signatureSlot

def rawInsnValid : Bool := p.decodeDispatch.rawInsnDecode.rawInsnValid

def rawMemoryOrderValid : Bool := p.decodeDispatch.rawInsnDecode.memoryOrderValid

def rawMemoryLoad : Bool := p.decodeDispatch.rawInsnDecode.memoryLoad

def rawMemoryStore : Bool := p.decodeDispatch.rawInsnDecode.memoryStore

def rawMemoryAtomic : Bool := p.decodeDispatch.rawInsnDecode.memoryAtomic

def rawMemoryBarrier : Bool := p.decodeDispatch.rawInsnDecode.memoryBarrier

def rawMemoryAccessBytes : BitVec 4 := p.decodeDispatch.rawInsnDecode.memoryAccessBytes

def rawBranch : Bool := p.decodeDispatch.rawInsnDecode.branch

def rawTrap : Bool := p.decodeDispatch.rawInsnDecode.trap

def rawBranchTargetValid : Bool := p.decodeDispatch.rawInsnDecode.branchTargetValid

def rawBranchTarget : BitVec 64 := p.decodeDispatch.rawInsnDecode.branchTarget

end FrontendFetchDecodePipeline

end Poly
