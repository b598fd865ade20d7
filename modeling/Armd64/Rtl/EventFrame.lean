import Armd64.Lib.Words
import Armd64.Rtl.Basic

/-!
# Event frames (`poly_event_frame_encode`, `poly_event_frame_stage`)

A recoverable foreign exit is written as one 512-byte frame of 64 quadwords. The encoder checks the
frame's address and the event's kind and source; the stage delivers the event once the write is
answered without a fault.
-/

namespace Poly

structure EventFrameEncode where
  valid : Bool
  eventEnabled : Bool
  eventFrameAddr : BitVec 64
  eventKind : BitVec 32
  sourceFrontend : BitVec 32
  number : BitVec 64
  selector : BitVec 64
  insnPc : BitVec 64
  resumePc : BitVec 64
  arg0 : BitVec 64
  arg1 : BitVec 64
  arg2 : BitVec 64
  arg3 : BitVec 64
  arg4 : BitVec 64
  arg5 : BitVec 64
  arg6 : BitVec 64
  arg7 : BitVec 64

namespace EventFrameEncode

def eventMagic : BitVec 64 := 0x32545645594c4f50#64

def eventBytes : BitVec 32 := 512#32

def eventVersion : BitVec 16 := 2#16

def eventHeaderBytes : BitVec 16 := 408#16

def eventArgCount : BitVec 16 := 8#16

variable (e : EventFrameEncode)

def frameLastAddr : BitVec 64 := e.eventFrameAddr + 511#64

def rangeWrap : Bool := e.frameLastAddr.ult e.eventFrameAddr

def eventDisabled : Bool := e.valid && !e.eventEnabled

def noncanonicalFrame : Bool :=
  e.valid && e.eventEnabled && (!canonical64 e.eventFrameAddr || !canonical64 e.frameLastAddr)

def frameAlignFault : Bool :=
  e.valid && e.eventEnabled && e.eventFrameAddr &&& 63#64 != 0#64

def frameRangeFault : Bool := e.valid && e.eventEnabled && e.rangeWrap

def invalidEventKind : Bool :=
  e.valid && e.eventEnabled &&
    !(e.eventKind == 1#32 || e.eventKind == 2#32 || e.eventKind == 3#32 || e.eventKind == 4#32)

def invalidSourceFrontend : Bool :=
  e.valid && e.eventEnabled && !(e.sourceFrontend == 1#32 || e.sourceFrontend == 2#32)

def error : Bool :=
  e.eventDisabled || e.noncanonicalFrame || e.frameAlignFault || e.frameRangeFault ||
    e.invalidEventKind || e.invalidSourceFrontend

def frameValid : Bool := e.valid && !e.error

def frameAddr : BitVec 64 := e.eventFrameAddr

def frameBytes : BitVec 10 := eventBytes.extractLsb' 0 10

/-- The quadwords of the frame; those that are not listed are zero. -/
def qword : Nat → BitVec 64
  | 0 => eventMagic
  | 1 => eventHeaderBytes ++ eventVersion ++ eventBytes
  | 3 => 0#16 ++ e.eventKind.extractLsb' 0 16 ++ e.sourceFrontend
  | 5 => eventArgCount ++ 0#16 ++ 0#32
  | 6 => e.insnPc
  | 7 => e.resumePc
  | 8 => e.resumePc
  | 14 => e.selector
  | 15 => e.arg0
  | 16 => e.arg1
  | 17 => e.arg2
  | 18 => e.arg3
  | 19 => e.arg4
  | 20 => e.arg5
  | 21 => e.arg6
  | 22 => e.arg7
  | 24 => e.number
  | _ => 0#64

def frameData : BitVec (64 * 64) := Hw.ofWords 64 e.qword

end EventFrameEncode

/-- The ports of `poly_event_frame_stage`: those of its encoder and the write response. -/
structure EventFrameStage where
  frameEncode : EventFrameEncode
  memWriteRespValid : Bool
  memWriteFault : Bool

namespace EventFrameStage

variable (g : EventFrameStage)

def memWriteValid : Bool := g.frameEncode.frameValid

def memWriteAddr : BitVec 64 := g.frameEncode.frameAddr

def memWriteBytes : BitVec 10 := EventFrameEncode.frameBytes

def memWriteData : BitVec (64 * 64) := g.frameEncode.frameData

def waitResponse : Bool := g.frameEncode.frameValid && !g.memWriteRespValid

def encodeError : Bool := g.frameEncode.error

def frameMemFault : Bool := g.frameEncode.frameValid && g.memWriteRespValid && g.memWriteFault

def frameDelivered : Bool := g.frameEncode.frameValid && g.memWriteRespValid && !g.memWriteFault

def fault : Bool := g.encodeError || g.frameMemFault

end EventFrameStage

end Poly
