import Armd64.Rtl.Basic

/-!
# Instruction fetch

The request side (`poly_raw_fetch_request`, `poly_frontend_fetch_issue`) checks the pc of the active
frontend and emits one request; the response side (`poly_x86_fetch_stage`,
`poly_raw_fetch_response_stage`) turns a response without a fault into an instruction word.
`poly_raw_fetch_plan` is the geometry of a raw instruction: its bytes, its word and the next pc.
-/

namespace Poly

/-! ## Geometry of a raw instruction -/

structure RawFetchPlan where
  valid : Bool
  frontend : BitVec 2
  pc : BitVec 64
  fetchWord : BitVec 32

namespace RawFetchPlan

variable (p : RawFetchPlan)

def riscvIs32 : Bool := p.fetchWord.extractLsb' 0 2 == 3#2

def rawFetch : Bool :=
  p.valid && (p.frontend == frontendAarch64 || p.frontend == frontendRiscv)

def alignFault : Bool :=
  p.valid &&
    if p.frontend = frontendAarch64 then p.pc.extractLsb' 0 2 != 0#2
    else if p.frontend = frontendRiscv then p.pc.getLsbD 0 != false
    else false

def fetchAddr : BitVec 64 := p.pc

def fetchBytes : BitVec 3 :=
  if p.valid then
    if p.frontend = frontendAarch64 then 4#3
    else if p.frontend = frontendRiscv then (if p.riscvIs32 then 4#3 else 2#3)
    else 0#3
  else 0#3

def insn : BitVec 32 :=
  if p.valid then
    if p.frontend = frontendAarch64 then p.fetchWord
    else if p.frontend = frontendRiscv then
      (if p.riscvIs32 then p.fetchWord else (p.fetchWord.extractLsb' 0 16).setWidth 32)
    else 0#32
  else 0#32

def nextPc : BitVec 64 :=
  if p.valid then
    if p.frontend = frontendAarch64 then p.pc + 4#64
    else if p.frontend = frontendRiscv then p.pc + (if p.riscvIs32 then 4#64 else 2#64)
    else p.pc
  else p.pc

end RawFetchPlan

/-! ## Requests -/

structure RawFetchRequest where
  valid : Bool
  frontend : BitVec 2
  pc : BitVec 64

namespace RawFetchRequest

variable (r : RawFetchRequest)

def rawFrontend : Bool := frontendRaw r.frontend

def lastOffset : BitVec 64 := if r.frontend = frontendAarch64 then 3#64 else 3#64

def requestLastAddr : BitVec 64 := r.pc + r.lastOffset

def invalidFrontend : Bool := r.valid && r.frontend != frontendX86 && !r.rawFrontend

def noncanonicalPc : Bool :=
  r.valid && r.rawFrontend && (!canonical64 r.pc || !canonical64 r.requestLastAddr)

def alignFault : Bool :=
  r.valid && r.rawFrontend &&
    ((r.frontend == frontendAarch64 && r.pc.extractLsb' 0 2 != 0#2) ||
      (r.frontend == frontendRiscv && r.pc.getLsbD 0 != false))

def rangeFault : Bool := r.valid && r.rawFrontend && r.requestLastAddr.ult r.pc

def error : Bool := r.invalidFrontend || r.noncanonicalPc || r.alignFault || r.rangeFault

def requestValid : Bool := r.valid && r.rawFrontend && !r.error

def requestAddr : BitVec 64 := r.pc

def requestBytes : BitVec 3 :=
  if r.frontend = frontendAarch64 then 4#3
  else if r.frontend = frontendRiscv then 4#3
  else 0#3

end RawFetchRequest

structure FrontendFetchIssue where
  valid : Bool
  frontend : BitVec 2
  pc : BitVec 64

namespace FrontendFetchIssue

variable (q : FrontendFetchIssue)

def x86Frontend : Bool := q.frontend == frontendX86

def rawFrontend : Bool := frontendRaw q.frontend

/-- The last of the 16 bytes of an x86 request (`POLY_X86_LAST_OFFSET`). -/
def x86LastAddr : BitVec 64 := q.pc + 15#64

def rawFetchRequest : RawFetchRequest where
  valid := q.valid && q.rawFrontend
  frontend := q.frontend
  pc := q.pc

def invalidFrontend : Bool := q.valid && !q.x86Frontend && !q.rawFrontend

def x86NoncanonicalPc : Bool :=
  q.valid && q.x86Frontend && (!canonical64 q.pc || !canonical64 q.x86LastAddr)

def x86RangeFault : Bool := q.valid && q.x86Frontend && q.x86LastAddr.ult q.pc

def x86FetchReqValid : Bool :=
  q.valid && q.x86Frontend && !q.invalidFrontend && !q.x86NoncanonicalPc && !q.x86RangeFault

def x86FetchReqAddr : BitVec 64 := q.pc

def x86FetchReqBytes : BitVec 5 := if q.x86Frontend then 16#5 else 0#5

def rawFetchReqValid : Bool := q.rawFetchRequest.requestValid

def rawFetchReqAddr : BitVec 64 := q.rawFetchRequest.requestAddr

def rawFetchReqBytes : BitVec 3 := q.rawFetchRequest.requestBytes

def rawRequestError : Bool := q.rawFetchRequest.error

def fault : Bool :=
  q.invalidFrontend || q.x86NoncanonicalPc || q.x86RangeFault || q.rawRequestError

end FrontendFetchIssue

/-! ## Responses -/

structure X86FetchStage where
  valid : Bool
  requestValid : Bool
  fetchRespValid : Bool
  fetchRespFault : Bool
  fetchRespWord : BitVec 32
  fetchRespFallthroughPc : BitVec 64

namespace X86FetchStage

variable (x : X86FetchStage)

def insnValid : Bool := x.valid && x.requestValid && x.fetchRespValid && !x.fetchRespFault

def insn : BitVec 32 := if x.insnValid then x.fetchRespWord else 0#32

def fallthroughPc : BitVec 64 := if x.insnValid then x.fetchRespFallthroughPc else 0#64

def memFault : Bool := x.valid && x.requestValid && x.fetchRespValid && x.fetchRespFault

def fault : Bool := x.memFault

end X86FetchStage

structure RawFetchResponseStage where
  valid : Bool
  frontend : BitVec 2
  pc : BitVec 64
  requestValid : Bool
  memRespValid : Bool
  memRespFault : Bool
  memRespWord : BitVec 32

namespace RawFetchResponseStage

variable (w : RawFetchResponseStage)

def planValid : Bool := w.valid && w.requestValid && w.memRespValid && !w.memRespFault

def fetchPlan : RawFetchPlan where
  valid := w.planValid
  frontend := w.frontend
  pc := w.pc
  fetchWord := w.memRespWord

def insn : BitVec 32 := w.fetchPlan.insn

def nextPc : BitVec 64 := w.fetchPlan.nextPc

def insnValid : Bool := w.fetchPlan.rawFetch && !w.fetchPlan.alignFault

def memFault : Bool := w.valid && w.requestValid && w.memRespValid && w.memRespFault

def responseAlignFault : Bool := w.planValid && w.fetchPlan.alignFault

def fault : Bool := w.memFault || w.responseAlignFault

end RawFetchResponseStage

end Poly
