import Armd64.Rtl.EventFrame
import Armd64.Polyexec.EventFrame

/-!
# The event frame between the encoder and the runtime

The encoder writes a header size of 408 and a sequence number of 0, and puts the event's number
where the runtime looks for the selector. `frameWith` is the frame with the first two chosen
freely, so that the results say what each of the three costs.
-/

namespace Poly

open Polyexec
open Hw

namespace EventFrameEncode

variable (e : EventFrameEncode)

def args : Vector (BitVec 64) 8 :=
  #v[e.arg0, e.arg1, e.arg2, e.arg3, e.arg4, e.arg5, e.arg6, e.arg7]

/-- The quadwords of the frame with another header size and sequence number. -/
def qwordWith (header : BitVec 16) (sequence : BitVec 64) : Nat → BitVec 64
  | 1 => header ++ eventVersion ++ eventBytes
  | 2 => sequence
  | i => e.qword i

def frameWith (header : BitVec 16) (sequence : BitVec 64) : FrameBits :=
  ofWords 64 (e.qwordWith header sequence)

theorem qword_eq_qwordWith : e.qword = e.qwordWith eventHeaderBytes 0 := by
  funext i
  match i with
  | 0 => rfl
  | 1 => rfl
  | 2 => rfl
  | i + 3 => rfl

theorem frameData_eq_frameWith : e.frameData = e.frameWith eventHeaderBytes 0 := by
  rw [frameData, frameWith, qword_eq_qwordWith]

theorem qword_args (n : Fin 8) : e.qword (15 + n) = e.args[n] := by
  match n with
  | 0 | 1 | 2 | 3 | 4 | 5 | 6 | 7 => rfl

def event (header : BitVec 16) (sequence : BitVec 64) : V2EventFrame where
  magic := eventMagic
  bytes := eventBytes
  version := eventVersion
  headerBytes := header
  sequence := sequence
  frontend := e.sourceFrontend
  eventKind := e.eventKind.extractLsb' 0 16
  argCount := eventArgCount
  insnPc := e.insnPc
  resumePc := e.resumePc
  selector := e.selector
  args := e.args
  faultStatus := e.number

section

variable (header : BitVec 16) (sequence : BitVec 64)

theorem load_qword (i : Nat) {off : Nat} (hoff : 8 * off = 64 * i + 0) (hi : i < 64) :
    load (e.frameWith header sequence) off 64 = e.qwordWith header sequence i := by
  rw [frameWith, load_ofWords _ i 0 hoff hi (by decide)]
  exact BitVec.extractLsb'_eq_self

theorem load_packed (i off : Nat) {hi mid : BitVec 16} {lo : BitVec 32}
    (hq : e.qwordWith header sequence i = hi ++ mid ++ lo) (hoff : off = 8 * i) (h64 : i < 64) :
    load (e.frameWith header sequence) off 32 = lo ∧
      load (e.frameWith header sequence) (off + 4) 16 = mid ∧
      load (e.frameWith header sequence) (off + 6) 16 = hi := by
  refine ⟨?_, ?_, ?_⟩
  · rw [frameWith, load_ofWords _ i 0 (by omega) h64 (by decide), hq]
    exact BitVec.extractLsb'_append_eq_right
  · rw [frameWith, load_ofWords _ i 32 (by omega) h64 (by decide), hq]
    rw [BitVec.extractLsb'_append_eq_of_le (by decide)]
    exact BitVec.extractLsb'_append_eq_right
  · rw [frameWith, load_ofWords _ i 48 (by omega) h64 (by decide), hq]
    rw [BitVec.extractLsb'_append_eq_of_le (by decide)]
    exact BitVec.extractLsb'_append_eq_left

theorem load_args (n : Fin 8) :
    load (e.frameWith header sequence) (eventLayout.offset .args + 8 * n) 64 = e.args[n] := by
  have hoff : 8 * (eventLayout.offset .args + 8 * n) = 64 * (15 + n) + 0 := by
    have h : eventLayout.offset .args = 120 := by decide
    omega
  rw [load_qword e header sequence (15 + n) hoff (by omega), ← qword_args]
  match n with
  | 0 | 1 | 2 | 3 | 4 | 5 | 6 | 7 => rfl

theorem ofBits_frameWith :
    V2EventFrame.ofBits (e.frameWith header sequence) = e.event header sequence := by
  obtain ⟨hbytes, hversion, hheader⟩ := e.load_packed header sequence 1 8 rfl rfl (by decide)
  obtain ⟨hfrontend, hkind, -⟩ := e.load_packed header sequence 3 24 rfl rfl (by decide)
  obtain ⟨-, -, hcount⟩ := e.load_packed header sequence 5 40 rfl rfl (by decide)
  simp only [V2EventFrame.ofBits, event, V2EventFrame.mk.injEq]
  refine ⟨?_, hbytes, hversion, hheader, ?_, hfrontend, hkind, hcount, ?_, ?_, ?_, ?_, ?_⟩
  · exact e.load_qword header sequence 0 rfl (by decide)
  · exact e.load_qword header sequence 2 rfl (by decide)
  · exact e.load_qword header sequence 6 rfl (by decide)
  · exact e.load_qword header sequence 7 rfl (by decide)
  · exact e.load_qword header sequence 14 rfl (by decide)
  · apply Vector.ext
    intro n hn
    rw [Vector.getElem_ofFn]
    exact e.load_args header sequence ⟨n, hn⟩
  · exact e.load_qword header sequence 24 rfl (by decide)

end

/-! ## What the runtime makes of the frame -/

variable {e}

theorem kinds_of_frameValid (hv : e.frameValid) :
    (e.eventKind = 1 ∨ e.eventKind = 2 ∨ e.eventKind = 3 ∨ e.eventKind = 4) ∧
      (e.sourceFrontend = 1 ∨ e.sourceFrontend = 2) := by
  simp [frameValid, error, eventDisabled, invalidEventKind, invalidSourceFrontend] at hv
  grind

theorem reason_of_frameValid (hv : e.frameValid) :
    polyV2EventReason (e.eventKind.extractLsb' 0 16) = some (e.eventKind.setWidth 64) := by
  rcases (kinds_of_frameValid hv).1 with h | h | h | h <;> rw [h] <;> decide

theorem mode_of_frameValid (hv : e.frameValid) :
    polyIsRawForeignMode (e.sourceFrontend.setWidth 64) := by
  rcases (kinds_of_frameValid hv).2 with h | h <;> rw [h] <;> decide

theorem read_frameWith (header : BitVec 16) (sequence : BitVec 64) :
    readPolyV2EventFrame (e.frameWith header sequence) =
      if header = Polyexec.eventHeaderBytes then .event (e.event header sequence)
      else .malformed := by
  rw [readPolyV2EventFrame, ofBits_frameWith]
  have hmagic : (e.event header sequence).magic = Polyexec.eventMagic := rfl
  have hbytes : (e.event header sequence).bytes = Polyexec.eventBytes := rfl
  have hversion : (e.event header sequence).version = Polyexec.eventVersion := rfl
  have hcount : (e.event header sequence).argCount = Polyexec.eventArgCount := rfl
  have hheader : (e.event header sequence).headerBytes = header := rfl
  have hwritten : Polyexec.eventMagic ≠ 0 := by decide
  simp only [hmagic, hbytes, hversion, hcount, hheader, hwritten, ne_eq, not_true_eq_false,
    false_or, or_false, if_false]
  by_cases h : header = Polyexec.eventHeaderBytes
  · rw [if_neg (not_not_intro h), if_pos h]
  · rw [if_pos h, if_neg h]

/-- The packet of the event: number and selector have changed places. -/
def packet (e : EventFrameEncode) : RuntimeEventRecord where
  reason := e.eventKind.setWidth 64
  mode := e.sourceFrontend.setWidth 64
  number := e.selector
  selector := e.number
  pc := e.insnPc
  nextPc := e.resumePc
  flags := eventRecordRequiredFlags ||| eventRecordFlagTrapReturnRestore
  args := e.args

theorem packet_event (hv : e.frameValid) (hr : e.resumePc ≠ 0) (header : BitVec 16)
    (sequence : BitVec 64) :
    polyV2EventToRuntimePacket (e.event header sequence) =
      if sequence = 0 then none else some (e.packet, sequence) := by
  have hreason : polyV2EventReason (e.event header sequence).eventKind =
      some (e.eventKind.setWidth 64) := reason_of_frameValid hv
  have hmode : polyIsRawForeignMode ((e.event header sequence).frontend.setWidth 64) :=
    mode_of_frameValid hv
  have hresume : (e.event header sequence).resumePc ≠ 0 := hr
  rw [polyV2EventToRuntimePacket, hreason]
  simp only [Option.bind_eq_bind, Option.bind_some, hmode, hresume, Bool.not_true,
    Bool.false_eq_true, or_false]
  rfl

/-- The runtime accepts the frame `m` and recovers the event that the encoder was given. -/
def RoundTrips (e : EventFrameEncode) (m : FrameBits) : Prop :=
  ∃ event p sequence, readPolyV2EventFrame m = .event event ∧
    polyV2EventToRuntimePacket event = some (p, sequence) ∧
    p.reason = e.eventKind.setWidth 64 ∧ p.mode = e.sourceFrontend.setWidth 64 ∧
    p.number = e.number ∧ p.selector = e.selector ∧ p.pc = e.insnPc ∧ p.nextPc = e.resumePc ∧
    p.args = e.args

theorem roundTrips_frameWith (hv : e.frameValid) (hr : e.resumePc ≠ 0)
    (header : BitVec 16) (sequence : BitVec 64) :
    e.RoundTrips (e.frameWith header sequence) ↔
      header = Polyexec.eventHeaderBytes ∧ sequence ≠ 0 ∧ e.number = e.selector := by
  rw [RoundTrips, read_frameWith]
  constructor
  · rintro ⟨event, p, last, hread, hp, -, -, hnumber, -⟩
    by_cases hh : header = Polyexec.eventHeaderBytes
    · rw [if_pos hh, ReadResult.event.injEq] at hread
      rw [← hread, packet_event hv hr] at hp
      by_cases hs : sequence = 0
      · rw [if_pos hs] at hp
        cases hp
      · rw [if_neg hs, Option.some.injEq, Prod.mk.injEq] at hp
        rw [← hp.1] at hnumber
        exact ⟨hh, hs, hnumber.symm⟩
    · rw [if_neg hh] at hread
      cases hread
  · rintro ⟨hh, hs, hn⟩
    refine ⟨e.event header sequence, e.packet, sequence, if_pos hh, ?_, rfl, rfl, hn.symm, hn, rfl,
      rfl, rfl⟩
    rw [packet_event hv hr, if_neg hs]

theorem read_frameData : readPolyV2EventFrame e.frameData = .malformed := by
  rw [frameData_eq_frameWith, read_frameWith]
  exact if_neg (by decide)

end EventFrameEncode

/-- An event never comes back from the encoder's frame: the runtime rejects its header size, would
reject its sequence number, and swaps number and selector. The trap vector falls back to the monitor
entry's frame. -/
theorem event_frame_round_trip_iff (e : EventFrameEncode) (hv : e.frameValid = true)
    (hr : e.resumePc ≠ 0) :
    (∀ header sequence, e.RoundTrips (e.frameWith header sequence) ↔
        header = Polyexec.eventHeaderBytes ∧ sequence ≠ 0 ∧ e.number = e.selector) ∧
      e.frameData = e.frameWith EventFrameEncode.eventHeaderBytes 0 ∧
      ¬e.RoundTrips e.frameData ∧
      polyV2EventToRuntimePacket (.ofBits e.frameData) = none ∧
      ∀ monitorFrame, trapVectorPacket e.frameData monitorFrame =
        polyMonitorEntryFrameToRuntimePacket monitorFrame := by
  have hdata := e.frameData_eq_frameWith
  refine ⟨EventFrameEncode.roundTrips_frameWith hv hr, hdata, ?_, ?_, ?_⟩
  · rw [hdata, EventFrameEncode.roundTrips_frameWith hv hr]
    rintro ⟨-, hs, -⟩
    exact hs rfl
  · rw [hdata, EventFrameEncode.ofBits_frameWith, EventFrameEncode.packet_event hv hr]
    exact if_pos rfl
  · intro monitorFrame
    rw [trapVectorPacket, EventFrameEncode.read_frameData]

/-- A write system call (number 64) of AArch64 code, trapped at `0x4000`. -/
def writeSyscall : EventFrameEncode where
  valid := true
  eventEnabled := true
  eventFrameAddr := 0x10000#64
  eventKind := 1#32
  sourceFrontend := 1#32
  number := 64#64
  selector := 0#64
  insnPc := 0x4000#64
  resumePc := 0x4004#64
  arg0 := 1#64
  arg1 := 0x5000#64
  arg2 := 12#64
  arg3 := 0#64
  arg4 := 0#64
  arg5 := 0#64
  arg6 := 0#64
  arg7 := 0#64

theorem event_frame_round_trip_iff_syscall :
    writeSyscall.frameValid = true ∧ writeSyscall.resumePc ≠ 0 ∧
      ¬writeSyscall.RoundTrips writeSyscall.frameData :=
  ⟨by decide, by decide,
    (event_frame_round_trip_iff writeSyscall (by decide) (by decide)).2.2.1⟩

/-- The frame of the system call is rejected by the runtime; with a header of 16 bytes and a
sequence number, its packet asks for system call 0. -/
theorem syscall_frame_rejected :
    writeSyscall.frameValid = true ∧
      readPolyV2EventFrame writeSyscall.frameData = .malformed ∧
      polyV2EventToRuntimePacket (.ofBits writeSyscall.frameData) = none ∧
      (polyV2EventToRuntimePacket (.ofBits (writeSyscall.frameWith 16 1))).map
        (fun p => p.1.number) = some 0 := by
  decide +kernel

end Poly
