import Armd64.Rtl.StatefulCore

/-!
# The FPGA top (`poly_frontend_fpga_top`)

The top puts one tagged instruction-memory bus in front of the two fetch ports of the stateful core,
and the request check and response stage of the raw data memory behind its data ports. It has no
registers of its own, so `topMachine` is the machine of the core with the top's wires before its
input ports.
-/

namespace Poly

/-! ## Raw data memory -/

structure RawDataMemRequest where
  valid : Bool
  frontend : BitVec 2
  addr : BitVec 64
  load : Bool
  store : Bool
  atomic : Bool
  accessBytes : BitVec 4

namespace RawDataMemRequest

def naturallyAligned (addr : BitVec 64) (bytes : BitVec 4) : Bool :=
  match bytes with
  | 1#4 => true
  | 2#4 => addr.getLsbD 0 == false
  | 4#4 => addr.extractLsb' 0 2 == 0#2
  | 8#4 => addr.extractLsb' 0 3 == 0#3
  | _ => false

variable (r : RawDataMemRequest)

def rawFrontend : Bool := frontendRaw r.frontend

def oneOp : Bool := (r.load ^^ r.store ^^ r.atomic) && !(r.load && r.store && r.atomic)

def validWidth : Bool :=
  r.accessBytes == 1#4 || r.accessBytes == 2#4 || r.accessBytes == 4#4 || r.accessBytes == 8#4

def lastOffset : BitVec 64 := if r.validWidth then r.accessBytes.setWidth 64 - 1#64 else 0#64

def requestLastAddr : BitVec 64 := r.addr + r.lastOffset

def invalidFrontend : Bool := r.valid && r.frontend != frontendX86 && !r.rawFrontend

def invalidOp : Bool := r.valid && r.rawFrontend && !r.oneOp

def invalidWidth : Bool := r.valid && r.rawFrontend && r.oneOp && !r.validWidth

def noncanonicalAddr : Bool :=
  r.valid && r.rawFrontend && r.oneOp && r.validWidth &&
    (!canonical64 r.addr || !canonical64 r.requestLastAddr)

def rangeFault : Bool :=
  r.valid && r.rawFrontend && r.oneOp && r.validWidth && r.requestLastAddr.ult r.addr

def alignFault : Bool :=
  r.valid && r.rawFrontend && r.oneOp && r.validWidth && r.atomic &&
    !naturallyAligned r.addr r.accessBytes

def error : Bool :=
  r.invalidFrontend || r.invalidOp || r.invalidWidth || r.noncanonicalAddr || r.alignFault ||
    r.rangeFault

def requestValid : Bool := r.valid && r.rawFrontend && !r.error

def requestBytes : BitVec 4 := if r.requestValid then r.accessBytes else 0#4

def requestLoad : Bool := r.requestValid && r.load

def requestStore : Bool := r.requestValid && r.store

def requestAtomic : Bool := r.requestValid && r.atomic

end RawDataMemRequest

structure RawDataMemResponseStage where
  valid : Bool
  requestValid : Bool
  requestError : Bool
  memRespValid : Bool
  memRespFault : Bool

namespace RawDataMemResponseStage

variable (r : RawDataMemResponseStage)

def waitResponse : Bool := r.valid && r.requestValid && !r.memRespValid && !r.requestError

def requestFault : Bool := r.valid && r.requestError

def memoryFault : Bool := r.valid && r.requestValid && r.memRespValid && r.memRespFault

def resolved : Bool :=
  r.valid && r.requestValid && r.memRespValid && !r.memRespFault && !r.requestError

def fault : Bool := r.requestFault || r.memoryFault

end RawDataMemResponseStage

/-! ## The top -/

/-- The input ports of `poly_frontend_fpga_top`. Those of `pass` go to the core, except its fetch
and data-memory responses, which the top drives. -/
structure TopInputs where
  pass : Inputs := {}
  instrRespValid : Bool := false
  instrRespFrontend : BitVec 2 := 0
  instrRespFault : Bool := false
  instrRespWord : BitVec 32 := 0
  instrRespFallthroughPc : BitVec 64 := 0
  rawDataMemAddr : BitVec 64 := 0
  rawDataMemRespValid : Bool := false
  rawDataMemRespFault : Bool := false

/-- One cycle of `poly_frontend_fpga_top`: its input ports and the registers of its core. -/
structure FpgaTop extends TopInputs where
  state : State

namespace FpgaTop

variable (t : FpgaTop)

def rawRespFrontend : Bool := frontendRaw t.instrRespFrontend

def x86RespValid : Bool := t.instrRespValid && t.instrRespFrontend == frontendX86

def rawRespValid : Bool := t.instrRespValid && t.rawRespFrontend

/-- The ports of the core with the fetch responses of the bus. The data-memory responses are not
driven yet: no output that is read depends on them. -/
def fetchInputs : Inputs :=
  { t.pass with
    x86FetchValid := t.x86RespValid
    x86FetchFault := t.instrRespFault
    x86FetchWord := t.instrRespWord
    x86FallthroughPc := t.instrRespFallthroughPc
    rawMemRespValid := t.rawRespValid
    rawMemRespFault := t.instrRespFault
    rawMemRespWord := t.instrRespWord
    rawMemoryResolved := false
    rawMemoryFault := false }

/-- The core that issues the data access of the arrived instruction. -/
def dataCore : FrontendCore := (cycle t.state t.fetchInputs).core

def rawDataMemRequest : RawDataMemRequest where
  valid := t.dataCore.rawMemoryAccess
  frontend := t.state.loc.frontend
  addr := t.rawDataMemAddr
  load := t.dataCore.rawDataMemLoad
  store := t.dataCore.rawDataMemStore
  atomic := t.dataCore.rawDataMemAtomic
  accessBytes := t.dataCore.rawDataMemAccessBytes

def rawDataMemResponseStage : RawDataMemResponseStage where
  valid := t.dataCore.rawMemoryAccess
  requestValid := t.rawDataMemRequest.requestValid
  requestError := t.rawDataMemRequest.error
  memRespValid := t.rawDataMemRespValid
  memRespFault := t.rawDataMemRespFault

def coreInputs : Inputs :=
  { t.fetchInputs with
    rawMemoryResolved := t.rawDataMemResponseStage.resolved
    rawMemoryFault := t.rawDataMemResponseStage.fault }

def statefulCore : StatefulCore := cycle t.state t.coreInputs

def x86FetchReqValid : Bool := t.statefulCore.core.pipeline.x86FetchReqValid

def rawMemReqValid : Bool := t.statefulCore.core.pipeline.rawMemReqValid

def instrReqConflict : Bool := t.x86FetchReqValid && t.rawMemReqValid

def instrReqValid : Bool := t.x86FetchReqValid || t.rawMemReqValid

def instrReqFrontend : BitVec 2 :=
  if t.x86FetchReqValid then frontendX86 else t.state.loc.frontend

def instrReqAddr : BitVec 64 :=
  if t.x86FetchReqValid then t.statefulCore.core.pipeline.x86FetchReqAddr
  else t.statefulCore.core.pipeline.rawMemReqAddr

def instrReqBytes : BitVec 5 :=
  if t.x86FetchReqValid then t.statefulCore.core.pipeline.x86FetchReqBytes
  else t.statefulCore.core.pipeline.rawMemReqBytes.setWidth 5

def x86MemFault : Bool := t.statefulCore.core.pipeline.x86MemFault

def rawMemFault : Bool := t.statefulCore.core.pipeline.rawMemFault

end FpgaTop

def topCycle (s : State) (t : TopInputs) : FpgaTop := { t with state := s }

def topMachine : Hw.Machine State TopInputs :=
  machine.comap fun s t => (topCycle s t).coreInputs

end Poly
