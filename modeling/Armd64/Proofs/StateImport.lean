import Armd64.Polyexec.StateImport
import Mathlib.Tactic.Common

/-!
# What a sanitized state image looks like

The sanitizer leaves the import and the cross return stack in a normal form: the top is not above
the depth, the frames above the top are zero, and so are the reserved members. For the native return
stack this holds only if its top was not above its depth before: the sanitizer never changes the
two. A second pass changes nothing.
-/

namespace Poly.Polyexec

/-! ## Normal forms -/

structure FramesOk {F : Type} (clean : F → Prop) (zero : F) (top : BitVec 64)
    (frames : Vector F 8) : Prop where
  top_le : top.toNat ≤ returnDepth
  below : ∀ i : Fin 8, i.val < top.toNat → clean (frames.get i)
  above : ∀ i : Fin 8, top.toNat ≤ i.val → frames.get i = zero

structure ReturnStack.WellFormed {F : Type} {r : Nat} (clean : F → Prop) (zero : F)
    (s : ReturnStack F r) : Prop where
  frames : FramesOk clean zero s.top s.frames
  top_le_depth : s.top.toNat ≤ s.depth.toNat
  reserved : s.reserved = .replicate r 0

structure NativeReturnState.WellFormed (s : NativeReturnState) : Prop where
  frames : FramesOk (fun f : NativeReturnFrame => f.reserved = .replicate 4 0) {} s.top s.frames
  top_le_depth : s.top.toNat ≤ s.depth.toNat
  active : s.active.reserved = .replicate 4 0
  reserved : s.reserved = .replicate 4 0

section

variable {F : Type} {clean : F → F} {zero : F}

theorem get_sanitizeFrames (top : BitVec 64) (frames : Vector F 8) (i : Fin 8) :
    (sanitizeFrames clean zero top frames).get i =
      if i.val < top.toNat then clean (frames.get i) else zero := by
  show (Vector.ofFn _)[i.val] = _
  rw [Vector.getElem_ofFn]

theorem framesOk_sanitizeFrames {ok : F → Prop} (hclean : ∀ f, ok (clean f)) {top : BitVec 64}
    (htop : top.toNat ≤ returnDepth) (frames : Vector F 8) :
    FramesOk ok zero top (sanitizeFrames clean zero top frames) where
  top_le := htop
  below i hi := by
    rw [get_sanitizeFrames, if_pos hi]
    exact hclean _
  above i hi := by
    rw [get_sanitizeFrames, if_neg (Nat.not_lt.mpr hi)]

theorem sanitizeFrames_twice (hclean : ∀ f, clean (clean f) = clean f) (top : BitVec 64)
    (frames : Vector F 8) :
    sanitizeFrames clean zero top (sanitizeFrames clean zero top frames) =
      sanitizeFrames clean zero top frames := by
  apply Vector.ext
  intro i hi
  have hget : ∀ fs : Vector F 8, fs[i] = fs.get ⟨i, hi⟩ := fun _ => rfl
  rw [hget, hget, get_sanitizeFrames, get_sanitizeFrames]
  split
  · exact hclean _
  · rfl

variable {r : Nat} (s : ReturnStack F r)

theorem sanitizeReturnStack_wellFormed {ok : F → Prop} (hclean : ∀ f, ok (clean f)) :
    (sanitizeReturnStack clean zero s).WellFormed ok zero := by
  unfold sanitizeReturnStack
  split
  · refine ⟨⟨Nat.zero_le _, fun i hi => absurd hi (Nat.not_lt_zero _), fun i _ => ?_⟩,
      Nat.zero_le _, rfl⟩
    exact Vector.getElem_replicate _
  · next h =>
    rw [not_or, not_not, Nat.not_lt] at h
    refine ⟨framesOk_sanitizeFrames hclean h.2 _, ?_, rfl⟩
    rw [h.1]
    exact h.2

theorem sanitizeReturnStack_twice (hclean : ∀ f, clean (clean f) = clean f) :
    sanitizeReturnStack clean zero (sanitizeReturnStack clean zero s) =
      sanitizeReturnStack clean zero s := by
  by_cases h : s.depth ≠ BitVec.ofNat 64 returnDepth ∨ returnDepth < s.top.toNat
  · have hempty : sanitizeReturnStack clean zero s =
        ⟨0, BitVec.ofNat 64 returnDepth, .replicate 8 zero, .replicate r 0⟩ := if_pos h
    have hzero : sanitizeFrames clean zero 0 (.replicate 8 zero) = .replicate 8 zero := by
      apply Vector.ext
      intro i hi
      rw [sanitizeFrames, Vector.getElem_ofFn, if_neg (by simp), Vector.getElem_replicate]
    rw [hempty, sanitizeReturnStack, if_neg (by simp), hzero]
  · have hkept : sanitizeReturnStack clean zero s =
        ⟨s.top, s.depth, sanitizeFrames clean zero s.top s.frames, .replicate r 0⟩ := if_neg h
    rw [hkept, sanitizeReturnStack, if_neg h, sanitizeFrames_twice hclean]

end

/-! ## The native return stack -/

theorem cleanNativeFrame_twice (f : NativeReturnFrame) :
    cleanNativeFrame (cleanNativeFrame f) = cleanNativeFrame f := rfl

theorem cleanNativeFrame_reserved (f : NativeReturnFrame) :
    (cleanNativeFrame f).reserved = .replicate 4 0 := rfl

theorem sanitizeNativeReturn_wellFormed_iff (s : NativeReturnState) :
    (sanitizeNativeReturn s).WellFormed ↔
      s.top.toNat ≤ returnDepth ∧ s.top.toNat ≤ s.depth.toNat := by
  constructor
  · exact fun h => ⟨h.frames.top_le, h.top_le_depth⟩
  · rintro ⟨htop, hdepth⟩
    refine ⟨?_, hdepth, ?_, rfl⟩
    · have hframes : (sanitizeNativeReturn s).frames =
          sanitizeFrames cleanNativeFrame {} s.top s.frames := if_pos htop
      rw [hframes]
      exact framesOk_sanitizeFrames cleanNativeFrame_reserved htop _
    · show (if s.activeValid = 0 then _ else _ : NativeReturnFrame).reserved = _
      split <;> rfl

theorem sanitizeNativeReturn_twice (s : NativeReturnState) :
    sanitizeNativeReturn (sanitizeNativeReturn s) = sanitizeNativeReturn s := by
  have hactive : (sanitizeNativeReturn (sanitizeNativeReturn s)).active =
      (sanitizeNativeReturn s).active := by
    show (if s.activeValid = 0 then _ else cleanNativeFrame (if s.activeValid = 0 then _ else _)) =
      if s.activeValid = 0 then _ else _
    split <;> rfl
  have hframes : (sanitizeNativeReturn (sanitizeNativeReturn s)).frames =
      (sanitizeNativeReturn s).frames := by
    show (if s.top.toNat ≤ returnDepth then
        sanitizeFrames _ _ s.top (if s.top.toNat ≤ returnDepth then _ else _) else _) = _
    split
    · next htop =>
      rw [sanitizeNativeReturn, if_pos htop]
      exact sanitizeFrames_twice cleanNativeFrame_twice _ _
    · rfl
  exact congrArg₂ (fun active frames => ({ s with
    active := active, frames := frames, reserved := .replicate 4 0 } : NativeReturnState))
      hactive hframes

/-! ## The other members -/

theorem and_mask_twice {w : Nat} (x mask : BitVec w) : x &&& mask &&& mask = x &&& mask := by
  rw [BitVec.and_assoc, BitVec.and_self]

theorem exists_sanitizeTrapFlags (trapVectorPc restoreFlags : BitVec 64) :
    ∃ mask, ∀ flags, sanitizeTrapFlags trapVectorPc restoreFlags flags = flags &&& mask := by
  by_cases hpc : trapVectorPc = 0 <;>
    by_cases hvalid : restoreFlags &&& trapRestoreFlagValid = 0 <;>
    simp only [sanitizeTrapFlags, hpc, hvalid, if_true, if_false, BitVec.and_assoc] <;>
    exact ⟨_, fun _ => rfl⟩

theorem sanitizeTrapFlags_twice (trapVectorPc restoreFlags flags : BitVec 64) :
    sanitizeTrapFlags trapVectorPc restoreFlags
        (sanitizeTrapFlags trapVectorPc restoreFlags flags) =
      sanitizeTrapFlags trapVectorPc restoreFlags flags := by
  obtain ⟨mask, hmask⟩ := exists_sanitizeTrapFlags trapVectorPc restoreFlags
  rw [hmask, hmask, and_mask_twice]

theorem sanitizeEventRecord_twice (trapVectorPc restoreFlags : BitVec 64) (r : EventRecord) :
    sanitizeEventRecord trapVectorPc restoreFlags
        (sanitizeEventRecord trapVectorPc restoreFlags r) =
      sanitizeEventRecord trapVectorPc restoreFlags r := by
  unfold sanitizeEventRecord
  by_cases h : r.reason = 0
  · simp only [h, if_true]
  · simp only [h, if_false, sanitizeTrapFlags_twice]

theorem sanitizeAarch64Status_twice (s : Aarch64StatusState) :
    sanitizeAarch64Status (sanitizeAarch64Status s) = sanitizeAarch64Status s := by
  simp only [sanitizeAarch64Status, and_mask_twice]

theorem sanitizeRiscvStatus_twice (s : RiscvStatusState) :
    sanitizeRiscvStatus (sanitizeRiscvStatus s) = sanitizeRiscvStatus s := by
  simp only [sanitizeRiscvStatus, and_mask_twice]

theorem sanitizeTrapRestore_flags (r : TrapRestore) : (sanitizeTrapRestore r).flags = r.flags := by
  unfold sanitizeTrapRestore
  split
  · next h => exact h.symm
  · dsimp only
    split
    · rfl
    · split <;> rfl

theorem sanitizeTrapRestore_twice (r : TrapRestore) :
    sanitizeTrapRestore (sanitizeTrapRestore r) = sanitizeTrapRestore r := by
  by_cases hflags : r.flags = 0
  · have hempty : sanitizeTrapRestore r = {} := if_pos hflags
    rw [hempty]
    rfl
  · have hne : modeRawRiscv ≠ modeRawAarch64 := by decide
    unfold sanitizeTrapRestore
    by_cases ha : r.mode = modeRawAarch64
    · simp only [ha, if_true, polySanitizeAarch64TrapRestorePayload, hflags, if_false,
        and_mask_twice]
    · by_cases hr : r.mode = modeRawRiscv
      · simp only [hr, hne, if_true, polySanitizeRiscvTrapRestorePayload, hflags, if_false,
          and_mask_twice]
      · simp only [ha, hr, if_false, hflags]

/-! ## The state image -/

theorem sanitize_twice (s : TrapState) :
    polySanitizeTrapStateForImport (polySanitizeTrapStateForImport s) =
      polySanitizeTrapStateForImport s := by
  have hreason : (sanitizeEventRecord s.trapVectorPc s.trapRestore.flags s.eventRecord).reason =
    s.eventRecord.reason := rfl
  have hheader : (if s.eventRecord.reason = 0 then
      if s.eventRecord.reason = 0 then s.headerReserved0 else 0 else 0) =
        if s.eventRecord.reason = 0 then s.headerReserved0 else 0 := by
    split <;> rfl
  have hargs : (if s.eventRecord.reason = 0 then (.replicate 8 0 : Words 8) else
      if s.eventRecord.reason = 0 then .replicate 8 0 else s.eventArgs) =
        if s.eventRecord.reason = 0 then .replicate 8 0 else s.eventArgs := by
    split <;> rfl
  have himport : sanitizeImportReturn (sanitizeImportReturn s.importReturn) =
    sanitizeImportReturn s.importReturn := sanitizeReturnStack_twice _ fun _ => rfl
  have hcross : sanitizeCrossReturn (sanitizeCrossReturn s.crossReturn) =
    sanitizeCrossReturn s.crossReturn := sanitizeReturnStack_twice _ fun _ => rfl
  simp only [polySanitizeTrapStateForImport, hreason, hheader, hargs, himport, hcross,
    sanitizeTrapRestore_flags, sanitizeEventRecord_twice, sanitizeAarch64Status_twice,
    sanitizeRiscvStatus_twice, sanitizeTrapRestore_twice, sanitizeNativeReturn_twice]

/-- The import and the cross return stack of a sanitized state image are in normal form, the native
return stack exactly if its top was not above its depth. A second pass changes nothing. -/
theorem import_sanitized_iff (s : TrapState) :
    let s' := polySanitizeTrapStateForImport s
    s'.importReturn.WellFormed (fun _ => True) {} ∧
    s'.crossReturn.WellFormed (fun f => f.reserved0 = 0) {} ∧
    (s'.nativeReturn.WellFormed ↔
      s.nativeReturn.top.toNat ≤ returnDepth ∧
        s.nativeReturn.top.toNat ≤ s.nativeReturn.depth.toNat) ∧
    polySanitizeTrapStateForImport s' = s' :=
  ⟨sanitizeReturnStack_wellFormed _ fun _ => trivial,
    sanitizeReturnStack_wellFormed _ fun _ => rfl, sanitizeNativeReturn_wellFormed_iff _,
    sanitize_twice s⟩

def nativeState (n : NativeReturnState) : TrapState where
  trapVectorPc := 0
  headerReserved0 := 0
  eventRecord := {}
  eventArgs := .replicate 8 0
  aarch64Status := ⟨0, 0, 0, 0, 0, .replicate 11 0⟩
  riscvStatus := ⟨0, 0, 0, .replicate 13 0⟩
  importReturn := ⟨0, 8, .replicate 8 {}, .replicate 30 0⟩
  crossReturn := ⟨0, 8, .replicate 8 {}, .replicate 2 0⟩
  stateKeyReserved := .replicate 5 0
  preTrapRestoreReserved := .replicate 20 0
  trapRestore := {}
  nativeReturn := n
  reserved := .replicate 176 0

/-- A native return stack with the top 9: the top stays above the depth, and the reserved members of
the frames stay as they are. -/
theorem native_top_kept :
    let frame : NativeReturnFrame := { returnPc := 0x4000, reserved := .replicate 4 1 }
    let s := nativeState ⟨0, 9, 8, 1, {}, .replicate 8 frame, .replicate 4 0⟩
    let s' := polySanitizeTrapStateForImport s
    s'.nativeReturn.top = 9 ∧ s'.nativeReturn.depth = 8 ∧ s'.nativeReturn.frames.get 0 = frame ∧
      ¬s'.nativeReturn.WellFormed := by
  intro frame s s'
  refine ⟨rfl, rfl, rfl, fun h => ?_⟩
  have htop : 9 ≤ 8 := h.frames.top_le
  omega

end Poly.Polyexec
