import Armd64.Lib.Layout

/-!
# The runtime's event records (`polyexec.c`, `polycpuid.h`)

The trap vector of the runtime finds the event in one of two frames: the 512-byte event frame the
hardware writes (`struct poly_v2_event_frame`), or the frame the monitor entry leaves on the stack.
Both are decoded to the same packet.
-/

namespace Poly.Polyexec

open Hw

inductive EventMember
  | magic | bytes | version | headerBytes
  | sequence | frontend | eventKind | eventSubkind
  | flags | completion | resumePolicy | argCount
  | insnPc | resumePc | fallthroughPc | targetPc
  | foreignSp | foreignTls | frontendStatus0 | frontendStatus1
  | selector | args
  | faultAddress | faultStatus | rawSyndrome | hostErrorCode
  | sideEffectClass | memoryOrderClass | resultRegister | errorConvention
  | spillDescriptor | spillGeneration | monitorCookie | stateKey
  | archPrivate | reserved
  deriving DecidableEq, Repr

def eventLayout : Layout EventMember where
  members :=
    [.magic, .bytes, .version, .headerBytes,
      .sequence, .frontend, .eventKind, .eventSubkind,
      .flags, .completion, .resumePolicy, .argCount,
      .insnPc, .resumePc, .fallthroughPc, .targetPc,
      .foreignSp, .foreignTls, .frontendStatus0, .frontendStatus1,
      .selector, .args,
      .faultAddress, .faultStatus, .rawSyndrome, .hostErrorCode,
      .sideEffectClass, .memoryOrderClass, .resultRegister, .errorConvention,
      .spillDescriptor, .spillGeneration, .monitorCookie, .stateKey,
      .archPrivate, .reserved]
  size
    | .bytes | .frontend | .completion => 4
    | .version | .headerBytes | .eventKind | .eventSubkind | .resumePolicy | .argCount => 2
    | .reserved => 1
    | _ => 8
  count
    | .args => 8
    | .archPrivate => 16
    | .reserved => 104
    | _ => 1

/-- The bits of an event frame in memory, bit `8 * i` the lowest of byte `i`. -/
abbrev FrameBits := BitVec (64 * 64)

/-- The members of `struct poly_v2_event_frame` that the runtime reads. -/
structure V2EventFrame where
  magic : BitVec 64
  bytes : BitVec 32
  version : BitVec 16
  headerBytes : BitVec 16
  sequence : BitVec 64
  frontend : BitVec 32
  eventKind : BitVec 16
  argCount : BitVec 16
  insnPc : BitVec 64
  resumePc : BitVec 64
  selector : BitVec 64
  args : Vector (BitVec 64) 8
  faultStatus : BitVec 64
  deriving DecidableEq, Repr

def V2EventFrame.ofBits (m : FrameBits) : V2EventFrame where
  magic := load m (eventLayout.offset .magic) 64
  bytes := load m (eventLayout.offset .bytes) 32
  version := load m (eventLayout.offset .version) 16
  headerBytes := load m (eventLayout.offset .headerBytes) 16
  sequence := load m (eventLayout.offset .sequence) 64
  frontend := load m (eventLayout.offset .frontend) 32
  eventKind := load m (eventLayout.offset .eventKind) 16
  argCount := load m (eventLayout.offset .argCount) 16
  insnPc := load m (eventLayout.offset .insnPc) 64
  resumePc := load m (eventLayout.offset .resumePc) 64
  selector := load m (eventLayout.offset .selector) 64
  args := .ofFn fun n => load m (eventLayout.offset .args + 8 * n) 64
  faultStatus := load m (eventLayout.offset .faultStatus) 64

def eventMagic : BitVec 64 := 0x32545645#32 ++ 0x594c4f50#32

def eventBytes : BitVec 32 := 512#32

def eventVersion : BitVec 16 := 2#16

def eventHeaderBytes : BitVec 16 := 16#16

def eventArgCount : BitVec 16 := 8#16

inductive ReadResult
  | absent
  | malformed
  | event (e : V2EventFrame)
  deriving DecidableEq, Repr

def readPolyV2EventFrame (src : FrameBits) : ReadResult :=
  let event := V2EventFrame.ofBits src
  if event.magic = 0 then .absent
  else if event.magic ≠ eventMagic ∨ event.bytes ≠ eventBytes ∨ event.version ≠ eventVersion ∨
      event.headerBytes ≠ eventHeaderBytes ∨ event.argCount ≠ eventArgCount then .malformed
  else .event event

structure RuntimeEventRecord where
  reason : BitVec 64
  mode : BitVec 64
  number : BitVec 64
  selector : BitVec 64
  pc : BitVec 64
  nextPc : BitVec 64
  flags : BitVec 64
  reserved : Vector (BitVec 64) 2 := .replicate 2 0
  args : Vector (BitVec 64) 8
  deriving DecidableEq, Repr

/-- `POLY_EVENT_RECORD_REQUIRED_FLAGS`: every defined flag, that of the trap return included. -/
def eventRecordRequiredFlags : BitVec 64 :=
  1#64 <<< 0 ||| 1#64 <<< 1 ||| 1#64 <<< 2 ||| 1#64 <<< 3 ||| 1#64 <<< 4 ||| 1#64 <<< 6

def eventRecordFlagTrapReturnRestore : BitVec 64 := 1#64 <<< 2

def polyV2EventReason (eventKind : BitVec 16) : Option (BitVec 64) :=
  if eventKind = 1 then some 1
  else if eventKind = 2 then some 2
  else if eventKind = 3 then some 3
  else if eventKind = 4 then some 4
  else none

def polyIsRawForeignMode (mode : BitVec 64) : Bool := mode == 1#64 || mode == 2#64

/-- `poly_v2_event_to_runtime_packet`: the packet and the new `poly_v2_last_event_sequence`. -/
def polyV2EventToRuntimePacket (event : V2EventFrame) :
    Option (RuntimeEventRecord × BitVec 64) := do
  let reason ← polyV2EventReason event.eventKind
  if event.sequence = 0 ∨ event.resumePc = 0 ∨
      !polyIsRawForeignMode (event.frontend.setWidth 64) then none
  else
    some ({ reason
            mode := event.frontend.setWidth 64
            number := event.selector
            selector := event.faultStatus
            pc := event.insnPc
            nextPc := event.resumePc
            flags := eventRecordRequiredFlags ||| eventRecordFlagTrapReturnRestore
            args := event.args }, event.sequence)

/-- The members of `struct poly_monitor_entry_frame` that the runtime reads. -/
structure MonitorEntryFrame where
  magic : BitVec 64
  bytes : BitVec 64
  sequence : BitVec 64
  reasonMode : BitVec 64
  number : BitVec 64
  pc : BitVec 64
  nextPc : BitVec 64
  selector : BitVec 64
  args : Vector (BitVec 64) 8
  deriving DecidableEq, Repr

def monitorEntryDescMagic : BitVec 64 := 0x324e4f4d#32 ++ 0x594c4f50#32

def monitorEntryFrameBytes : BitVec 64 := 160#64

def polyMonitorEntryFrameToRuntimePacket (frame : MonitorEntryFrame) :
    Option (RuntimeEventRecord × BitVec 64) :=
  if frame.magic ≠ monitorEntryDescMagic ∨ frame.bytes.ult monitorEntryFrameBytes ∨
      frame.sequence = 0 ∨ frame.nextPc = 0 ∨
      !polyIsRawForeignMode ((frame.reasonMode.extractLsb' 32 32).setWidth 64) then none
  else
    some ({ reason := (frame.reasonMode.extractLsb' 0 32).setWidth 64
            mode := (frame.reasonMode.extractLsb' 32 32).setWidth 64
            number := frame.number
            selector := frame.selector
            pc := frame.pc
            nextPc := frame.nextPc
            flags := eventRecordRequiredFlags ||| eventRecordFlagTrapReturnRestore
            args := frame.args }, frame.sequence)

/-- The packet of `poly_trap_vector_dispatch`; without one it returns `-EIO`. -/
def trapVectorPacket (src : FrameBits) (monitorFrame : MonitorEntryFrame) :
    Option (RuntimeEventRecord × BitVec 64) :=
  match readPolyV2EventFrame src with
  | .event event =>
    (polyV2EventToRuntimePacket event).or (polyMonitorEntryFrameToRuntimePacket monitorFrame)
  | .absent | .malformed => polyMonitorEntryFrameToRuntimePacket monitorFrame

end Poly.Polyexec
