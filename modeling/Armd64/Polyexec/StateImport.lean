import Armd64.Polyexec.Signals

/-!
# Sanitizing a state image (`polyexec.c`, `polycpuid.h`)

The runtime clears what a guest must not choose in a state image before the hardware imports it: the
reserved members, the reservations, and the frames above the tops of the return stacks.
-/

namespace Poly.Polyexec

/-! ## The state image -/

/-- `POLY_STATE_XSAVE_IMPORT_RETURN_DEPTH`, `POLY_STATE_XSAVE_CROSS_RETURN_DEPTH` and
`POLY_STATE_XSAVE_NATIVE_RETURN_DEPTH`. -/
def returnDepth : Nat := 8

structure ImportReturnFrame where
  sourceMode : BitVec 32 := 0
  aliasValid : BitVec 32 := 0
  returnPc : BitVec 64 := 0
  returnSp : BitVec 64 := 0
  importId : BitVec 64 := 0
  returnMap : BitVec 64 := 0
  aliases : Words 6 := .replicate 6 0
  savedX86Fsbase : BitVec 64 := 0
  targetX86Fsbase : BitVec 64 := 0
  savedAarch64TlsBase : BitVec 64 := 0
  savedRiscvTlsBase : BitVec 64 := 0
  savedSourceReg2 : BitVec 64 := 0
  deriving DecidableEq, Repr

structure CrossReturnFrame where
  returnPc : BitVec 64 := 0
  returnSp : BitVec 64 := 0
  callerMode : BitVec 32 := 0
  targetMode : BitVec 32 := 0
  abiKind : BitVec 16 := 0
  flags : BitVec 16 := 0
  reserved0 : BitVec 32 := 0
  deriving DecidableEq, Repr

structure NativeReturnFrame where
  returnPc : BitVec 64 := 0
  returnSp : BitVec 64 := 0
  sretPtr : BitVec 64 := 0
  targetMode : BitVec 32 := 0
  returnKind : BitVec 16 := 0
  flags : BitVec 16 := 0
  reserved : Words 4 := .replicate 4 0
  deriving DecidableEq, Repr

structure ReturnStack (F : Type) (r : Nat) where
  top : BitVec 64
  depth : BitVec 64
  frames : Vector F 8
  reserved : Words r
  deriving DecidableEq, Repr

abbrev ImportReturnState := ReturnStack ImportReturnFrame 30

abbrev CrossReturnState := ReturnStack CrossReturnFrame 2

structure NativeReturnState where
  activeValid : BitVec 64
  top : BitVec 64
  depth : BitVec 64
  supportedFlags : BitVec 64
  active : NativeReturnFrame
  frames : Vector NativeReturnFrame 8
  reserved : Words 4
  deriving DecidableEq, Repr

structure Aarch64StatusState where
  nzcv : BitVec 64
  fpcr : BitVec 64
  fpsr : BitVec 64
  reservationAddr : BitVec 64
  reservationSize : BitVec 64
  reserved : Words 11
  deriving DecidableEq, Repr

structure RiscvStatusState where
  fcsr : BitVec 64
  reservationAddr : BitVec 64
  reservationSize : BitVec 64
  reserved : Words 13
  deriving DecidableEq, Repr

/-- The members of `struct poly_xsave_state` that the sanitizer reads or writes. -/
structure TrapState where
  trapVectorPc : BitVec 64
  headerReserved0 : BitVec 64
  eventRecord : EventRecord
  eventArgs : Words 8
  aarch64Status : Aarch64StatusState
  riscvStatus : RiscvStatusState
  importReturn : ImportReturnState
  crossReturn : CrossReturnState
  stateKeyReserved : Words 5
  preTrapRestoreReserved : Words 20
  trapRestore : TrapRestore
  nativeReturn : NativeReturnState
  reserved : Words 176
  deriving DecidableEq, Repr

/-! ## Sanitizing -/

def eventRecordFlagVectorDelivery : BitVec 64 := 1#64 <<< 0

def supportedTrapFlags : BitVec 64 := eventRecordRequiredFlags

def sanitizeTrapFlags (trapVectorPc restoreFlags flags : BitVec 64) : BitVec 64 :=
  let flags := flags &&& supportedTrapFlags
  let flags := if trapVectorPc = 0 then flags &&& ~~~eventRecordFlagVectorDelivery else flags
  if restoreFlags &&& trapRestoreFlagValid = 0 then flags &&& ~~~eventRecordFlagTrapReturnRestore
  else flags

def sanitizeEventRecord (trapVectorPc restoreFlags : BitVec 64) (r : EventRecord) : EventRecord :=
  { r with
    reserved := .replicate 2 0
    flags := if r.reason = 0 then 0 else sanitizeTrapFlags trapVectorPc restoreFlags r.flags }

def sanitizeAarch64Status (s : Aarch64StatusState) : Aarch64StatusState where
  nzcv := s.nzcv &&& aarch64NzcvMask
  fpcr := s.fpcr &&& aarch64FpcrRmodeMask
  fpsr := s.fpsr &&& aarch64FpsrMask
  reservationAddr := 0
  reservationSize := 0
  reserved := .replicate 11 0

def sanitizeRiscvStatus (s : RiscvStatusState) : RiscvStatusState where
  fcsr := s.fcsr &&& riscvFcsrMask
  reservationAddr := 0
  reservationSize := 0
  reserved := .replicate 13 0

/-- The loops over the frames: those below the top are cleaned, the others are zero. -/
def sanitizeFrames {F : Type} (clean : F → F) (zero : F) (top : BitVec 64) (frames : Vector F 8) :
    Vector F 8 :=
  Vector.ofFn fun i => if i.val < top.toNat then clean (frames.get i) else zero

/-- The import and cross return stacks: a stack with a bad depth or top is emptied. -/
def sanitizeReturnStack {F : Type} {r : Nat} (clean : F → F) (zero : F) (s : ReturnStack F r) :
    ReturnStack F r :=
  if s.depth ≠ BitVec.ofNat 64 returnDepth ∨ returnDepth < s.top.toNat then
    ⟨0, BitVec.ofNat 64 returnDepth, .replicate 8 zero, .replicate r 0⟩
  else ⟨s.top, s.depth, sanitizeFrames clean zero s.top s.frames, .replicate r 0⟩

def sanitizeImportReturn (s : ImportReturnState) : ImportReturnState :=
  sanitizeReturnStack id {} s

def sanitizeCrossReturn (s : CrossReturnState) : CrossReturnState :=
  sanitizeReturnStack (fun f => { f with reserved0 := 0 }) {} s

def cleanNativeFrame (f : NativeReturnFrame) : NativeReturnFrame :=
  { f with reserved := .replicate 4 0 }

/-- The native return stack. Its depth is not looked at, and its frames are left if its top is
bad. -/
def sanitizeNativeReturn (s : NativeReturnState) : NativeReturnState :=
  { s with
    active := if s.activeValid = 0 then {} else cleanNativeFrame s.active
    frames :=
      if s.top.toNat ≤ returnDepth then sanitizeFrames cleanNativeFrame {} s.top s.frames
      else s.frames
    reserved := .replicate 4 0 }

def sanitizeTrapRestore (r : TrapRestore) : TrapRestore :=
  if r.flags = 0 then {}
  else
    let r :=
      { r with
        reserved0 := 0
        aarch64Reserved := 0
        riscvReserved := .replicate 3 0
        reserved := .replicate 4 0 }
    if r.mode = modeRawAarch64 then polySanitizeAarch64TrapRestorePayload r
    else if r.mode = modeRawRiscv then polySanitizeRiscvTrapRestorePayload r
    else r

def polySanitizeTrapStateForImport (s : TrapState) : TrapState where
  trapVectorPc := s.trapVectorPc
  -- the header keeps its reserved member if there is no event
  headerReserved0 := if s.eventRecord.reason = 0 then s.headerReserved0 else 0
  eventRecord := sanitizeEventRecord s.trapVectorPc s.trapRestore.flags s.eventRecord
  eventArgs := if s.eventRecord.reason = 0 then .replicate 8 0 else s.eventArgs
  aarch64Status := sanitizeAarch64Status s.aarch64Status
  riscvStatus := sanitizeRiscvStatus s.riscvStatus
  importReturn := sanitizeImportReturn s.importReturn
  crossReturn := sanitizeCrossReturn s.crossReturn
  stateKeyReserved := .replicate 5 0
  preTrapRestoreReserved := .replicate 20 0
  trapRestore := sanitizeTrapRestore s.trapRestore
  nativeReturn := sanitizeNativeReturn s.nativeReturn
  reserved := .replicate 176 0

end Poly.Polyexec
