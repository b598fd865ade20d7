import Armd64.Polyexec.Lifecycle
import Armd64.Proofs.Trampoline

/-!
# Lifecycle calls of programs of several architectures

The runtime takes the size of the trampoline and the code that returns from the architecture of the
root, and writes the trampoline of each call for the architecture of the program that it calls. A
call is safe if the two agree, with one limit: an AArch64 root needs a small image, because its
trampoline reaches the return page with one `ADR`.
-/

namespace Poly.Polyexec

open Hw
open LifecycleProgram
open Traced

namespace Process

variable (P : Process)

/-- The return address that the trampoline for `arch` code installs. -/
def installedReturn (arch : Abi.Arch) : BitVec 64 :=
  match arch with
  | .x86 => P.code + 13#64
  | .aarch64 => rawEntry .aarch64 P.code +
      ((P.lifecycleReturnPc - rawEntry .aarch64 P.code).setWidth 21).signExtend 64
  | .riscv => auipcAddi (rawEntry .riscv P.code) (P.lifecycleReturnPc - rawEntry .riscv P.code)

def Prepared (mem : Memory) : Prop :=
  Holds mem P.lifecycleReturnPc (escapeReturn P.root.arch)

end Process

/-- Where code of `arch` returns to: its escape instruction, or `ret` for x86 code, which has no
frontend to leave. -/
def returnInsn (arch : Abi.Arch) : List (BitVec 8) :=
  match arch with
  | .x86 => [0xc3]
  | arch => emitU32 (escapeWord arch)

structure CallSafe (P : Process) (arch : Abi.Arch) (targetPc : BitVec 64) (mem : Memory) :
    Prop where
  inside : (P.trampolineWrites arch targetPc).length ≤ P.root.prefixSize
  offImage : ∀ k < (P.trampolineWrites arch targetPc).length, ∀ j < P.root.image.codeSize,
    P.code + BitVec.ofNat 64 k ≠ P.root.image.loadedImage + BitVec.ofNat 64 j
  /-- and its return address holds the instruction that the program needs. -/
  returns : Holds (store mem P.code (P.trampolineWrites arch targetPc))
    (P.installedReturn arch) (returnInsn arch)

/-- A root can call x86 code and code of its own architecture. An AArch64 root at no fixed address
also needs an image below 1 MiB. -/
def CanCall (root : LifecycleProgram) (arch : Abi.Arch) : Prop :=
  arch = .x86 ∨ (arch = root.arch ∧
    (arch = .aarch64 → root.isEtExec = true ∨ root.image.codeSize + 5 ≤ 0xff000))

/-! ## Sizes and distances -/

theorem x86PenterPad_le (code : BitVec 64) (arch : Abi.Arch) : x86PenterPad code 0 arch ≤ 3 := by
  cases arch with
  | x86 => exact Nat.zero_le 3
  | aarch64 => exact Nat.le_trans (Nat.le_of_eq (BitVec.toNat_and ..)) Nat.and_le_right
  | riscv => exact Nat.le_trans (Nat.le_of_eq (BitVec.toNat_and ..)) Nat.and_le_right

/-- The room for a root's own architecture and for x86 is enough, and otherwise only that of AArch64
for RISC-V. -/
theorem trampolineSize_le_iff (root arch : Abi.Arch) (code : BitVec 64) :
    trampolineSize arch code ≤ polyTrampolinePrefixSize root ↔
      arch = .x86 ∨ arch = root ∨ (arch = .riscv ∧ root = .aarch64) := by
  have hpad := x86PenterPad_le code arch
  cases arch <;> cases root <;>
    simp [trampolineSize, polyTrampolinePrefixSize, x86PenterFrontendSizeForCode,
      x86PenterBaseSize, x86PenterFrontendMaxSize, polyFrontendEntryAlignment,
      x86TrampolineSize] <;>
    omega

namespace Process

variable {P : Process} {arch : Abi.Arch} {targetPc : BitVec 64} {mem : Memory}

theorem length_trampolineWrites :
    (P.trampolineWrites arch targetPc).length =
      max (trampolineSize arch P.code) P.root.prefixSize := by
  rw [trampolineWrites, List.length_append, List.length_replicate, length_trampolineCode]
  omega

theorem prefixSize_le (root : LifecycleProgram) : root.prefixSize ≤ 37 := by
  rw [prefixSize]
  cases root.arch <;> decide

theorem length_trampolineWrites_le (P : Process) (arch : Abi.Arch) (targetPc : BitVec 64) :
    (P.trampolineWrites arch targetPc).length ≤ 37 := by
  have hpad := x86PenterPad_le P.code arch
  have hprefix := prefixSize_le P.root
  rw [length_trampolineWrites]
  cases arch <;>
    simp only [trampolineSize, x86PenterFrontendSizeForCode, x86PenterBaseSize,
      x86TrampolineSize] <;>
    omega

def returnDistance (P : Process) : Nat :=
  if P.root.isEtExec then 4096 else P.root.prefixSize + P.root.imageMappingSize

theorem lifecycleReturnPc_eq :
    P.lifecycleReturnPc = P.code + BitVec.ofNat 64 P.returnDistance := by
  have hprefix := prefixSize_le P.root
  rw [lifecycleReturnPc, code, BitVec.add_assoc, BitVec.ofNat_add_ofNat]
  congr 2
  rw [lifecycleReturnPageOffset, controlOffset, returnDistance]
  split
  · rfl
  · omega

theorem imageMappingSize_bounds (root : LifecycleProgram) :
    root.imageMappingSize % 4096 = 0 ∧ root.image.codeSize ≤ root.imageMappingSize ∧
      root.imageMappingSize < 2 ^ 28 := by
  have hle := root.image.codeSize_le
  rw [maxProgramBytes] at hle
  have hsize : root.escapeReturnSize ≤ 5 := by
    rw [escapeReturnSize]
    split <;> decide
  rw [imageMappingSize, alignUp]
  split <;> omega

theorem returnDistance_bounds : 4096 ≤ P.returnDistance ∧ P.returnDistance < 2 ^ 29 := by
  have hprefix := prefixSize_le P.root
  have hsize := imageMappingSize_bounds P.root
  rw [returnDistance]
  split
  · decide
  · rename_i hfixed
    have hpos : 4096 ≤ P.root.imageMappingSize := by
      rw [imageMappingSize, if_neg hfixed, alignUp,
        escapeReturnSize]
      split <;> omega
    omega

theorem rawEntry_eq : rawEntry arch P.code =
    P.code + BitVec.ofNat 64 (x86PenterPad P.code 0 arch + 10) := by
  rw [rawEntry, length_penter]

theorem returnOffset_eq : P.lifecycleReturnPc - rawEntry arch P.code =
    BitVec.ofNat 64 (P.returnDistance - (x86PenterPad P.code 0 arch + 10)) := by
  have hpad := x86PenterPad_le P.code arch
  have hdist := (returnDistance_bounds (P := P)).1
  have hsplit : P.returnDistance =
      x86PenterPad P.code 0 arch + 10 + (P.returnDistance - (x86PenterPad P.code 0 arch + 10)) := by
    omega
  rw [lifecycleReturnPc_eq, rawEntry_eq]
  generalize P.returnDistance - (x86PenterPad P.code 0 arch + 10) = d at hsplit ⊢
  rw [hsplit, ← BitVec.ofNat_add_ofNat, ← BitVec.add_assoc, BitVec.add_comm, BitVec.add_sub_cancel]

theorem returnOffset_toInt : (P.lifecycleReturnPc - rawEntry arch P.code).toInt =
    P.returnDistance - (x86PenterPad P.code 0 arch + 10) := by
  have hpad := x86PenterPad_le P.code arch
  have hdist := returnDistance_bounds (P := P)
  rw [returnOffset_eq, BitVec.toInt_ofNat', Int.bmod_eq_of_le_mul_two] <;> omega

theorem installedReturn_riscv : P.installedReturn .riscv = P.lifecycleReturnPc := by
  have hpad := x86PenterPad_le P.code .riscv
  have hdist := returnDistance_bounds (P := P)
  rw [installedReturn, auipcAddi_eq_iff, FitsAuipc, returnOffset_toInt]
  omega

theorem returnDistance_aarch64 (hroot : P.root.arch = .aarch64) (hfixed : P.root.isEtExec = false) :
    P.returnDistance = 37 + P.root.imageMappingSize := by
  rw [returnDistance, hfixed, prefixSize, hroot]
  rfl

theorem installedReturn_aarch64_iff (hroot : P.root.arch = .aarch64) :
    P.installedReturn .aarch64 = P.lifecycleReturnPc ↔
      P.root.isEtExec ∨ P.root.image.codeSize + 5 ≤ 0xff000 := by
  have hpad := x86PenterPad_le P.code .aarch64
  rw [installedReturn, adr_eq_iff, returnOffset_toInt]
  cases hfixed : P.root.isEtExec with
  | true =>
    rw [returnDistance, hfixed]
    simp only [if_true, true_or, iff_true]
    omega
  | false =>
    rw [returnDistance_aarch64 hroot hfixed, imageMappingSize, hfixed,
      escapeReturnSize, hroot, alignUp]
    simp only [reduceCtorEq, if_false, Bool.false_eq_true, false_or]
    omega

/-! ## Memory -/

theorem Prepared.trampoline (h : P.Prepared mem) {bytes : List (BitVec 8)}
    (hlength : bytes.length ≤ 37) : P.Prepared (store mem P.code bytes) := by
  have hdist := returnDistance_bounds (P := P)
  refine h.store fun i hi => ?_
  have hi : i < 6 := Nat.lt_of_lt_of_le hi (by cases P.root.arch <;> decide)
  have hsub : P.lifecycleReturnPc + BitVec.ofNat 64 i - P.code =
      BitVec.ofNat 64 (P.returnDistance + i) := by
    rw [lifecycleReturnPc_eq, BitVec.add_assoc, BitVec.ofNat_add_ofNat, BitVec.add_comm,
      BitVec.add_sub_cancel]
  rw [hsub, toNat_ofNat_of_lt (by omega)]
  omega

theorem prepared_setup : P.Prepared (P.setup mem) := by
  have hexit := P.length_exitCode
  have hlength : (escapeReturn P.root.arch).length < 6 := by cases P.root.arch <;> decide
  refine (holds_store (by omega)).store fun i hi => ?_
  have hpc : P.processReturnPc = P.lifecycleReturnPc + 4096#64 := by
    rw [processReturnPc, lifecycleReturnPc, BitVec.add_assoc,
      processReturnPageOffset, ← BitVec.ofNat_add_ofNat]
  have hsub : P.lifecycleReturnPc + BitVec.ofNat 64 i - P.processReturnPc =
      BitVec.ofNat 64 i - 4096#64 := by
    bv_omega
  rw [hsub, BitVec.toNat_sub, BitVec.toNat_ofNat, BitVec.toNat_ofNat]
  omega

theorem returns_x86 : Holds (store mem P.code (P.trampolineWrites .x86 targetPc))
    (P.installedReturn .x86) (returnInsn .x86) := by
  have hlength := length_trampolineWrites_le P .x86 targetPc
  have hholds : Holds (store mem P.code (P.trampolineWrites .x86 targetPc)) P.code
      (P.trampolineWrites .x86 targetPc) := holds_store (by omega)
  have hcode := (holds_append.mp hholds).1
  have hsize : (emitX86MovabsR11 targetPc ++ [0x41, 0xff, 0xd3]).length = 13 := by
    simp [emitX86MovabsR11, emitU64, toBytes]
  have hlast := (holds_append.mp hcode).2
  exact hlast

theorem returns_of_reach (h : P.Prepared mem) (harch : arch ≠ .x86) (hroot : arch = P.root.arch)
    (hreach : P.installedReturn arch = P.lifecycleReturnPc) :
    Holds (store mem P.code (P.trampolineWrites arch targetPc)) (P.installedReturn arch)
      (returnInsn arch) := by
  have hprepared := h.trampoline (length_trampolineWrites_le P arch targetPc)
  rw [Prepared, ← hroot, escapeReturn, if_pos harch] at hprepared
  rw [hreach]
  cases arch with
  | x86 => exact absurd rfl harch
  | aarch64 => exact (holds_append.mp hprepared).1
  | riscv => exact (holds_append.mp hprepared).1

theorem code_ne_image {k j : Nat} (hk : k < P.root.prefixSize) (hj : j < P.root.image.codeSize) :
    P.code + BitVec.ofNat 64 k ≠ P.root.image.loadedImage + BitVec.ofNat 64 j := by
  have hprefix := prefixSize_le P.root
  have hsize := imageMappingSize_bounds P.root
  rw [show P.root.image.loadedImage = _ from P.loaded, code, BitVec.add_assoc, BitVec.add_assoc,
    BitVec.ofNat_add_ofNat, BitVec.ofNat_add_ofNat, Ne, BitVec.add_right_inj, ← BitVec.toNat_inj,
    BitVec.toNat_ofNat, BitVec.toNat_ofNat]
  show ¬(P.root.controlOffset + k) % 2 ^ 64 = (P.root.imageOffset + j) % 2 ^ 64
  rw [controlOffset, imageOffset]
  split <;> omega

/-! ## Safe calls -/

theorem callSafe_of_canCall (h : P.Prepared mem) (hcan : CanCall P.root arch) :
    CallSafe P arch targetPc mem := by
  have hsize : trampolineSize arch P.code ≤ P.root.prefixSize :=
    (trampolineSize_le_iff ..).mpr (hcan.imp_right fun hown => .inl hown.1)
  have hinside : (P.trampolineWrites arch targetPc).length ≤ P.root.prefixSize := by
    rw [length_trampolineWrites]
    omega
  refine ⟨hinside, fun k hk j hj => code_ne_image (by omega) hj, ?_⟩
  rcases hcan with rfl | ⟨hroot, hreach⟩
  · exact returns_x86
  · cases arch with
    | x86 => exact returns_x86
    | aarch64 =>
      exact returns_of_reach h (by decide) hroot
        ((installedReturn_aarch64_iff hroot.symm).mpr (hreach rfl))
    | riscv => exact returns_of_reach h (by decide) hroot installedReturn_riscv

theorem not_returns_riscv (h : P.Prepared mem) (hroot : P.root.arch = .aarch64) :
    ¬Holds (store mem P.code (P.trampolineWrites .riscv targetPc)) (P.installedReturn .riscv)
      (returnInsn .riscv) := by
  intro hreturns
  have hprepared := h.trampoline (length_trampolineWrites_le P .riscv targetPc)
  rw [installedReturn_riscv] at hreturns
  rw [Prepared, hroot] at hprepared
  exact absurd (hreturns.head.symm.trans hprepared.head) (by decide)

/-- Behind a large image the offset of `ADR` is cut by a multiple of 2 MiB, and the link register
points neither to the trampoline nor to the return page. -/
theorem installedReturn_far (hroot : P.root.arch = .aarch64) (hfixed : P.root.isEtExec = false)
    (hlarge : 0xff000 < P.root.image.codeSize + 5) :
    37 ≤ (P.installedReturn .aarch64 - P.code).toNat ∧
      6 ≤ (P.installedReturn .aarch64 - P.lifecycleReturnPc).toNat := by
  have hpad := x86PenterPad_le P.code .aarch64
  have hpages := imageMappingSize_bounds P.root
  have hdist := returnDistance_aarch64 hroot hfixed
  have hsize : 0xff000 < P.root.imageMappingSize := by
    rw [imageMappingSize, hfixed, escapeReturnSize, hroot,
      alignUp]
    simp only [reduceCtorEq, if_false, Bool.false_eq_true]
    omega
  obtain ⟨n, hn⟩ : ∃ n : Nat, n = P.returnDistance - (x86PenterPad P.code 0 .aarch64 + 10) :=
    ⟨_, rfl⟩
  obtain ⟨v, hv⟩ : ∃ v : BitVec 64, v = ((BitVec.ofNat 64 n).setWidth 21).signExtend 64 := ⟨_, rfl⟩
  have hinstalled : P.installedReturn .aarch64 =
      P.code + (BitVec.ofNat 64 (x86PenterPad P.code 0 .aarch64 + 10) + v) := by
    rw [installedReturn, returnOffset_eq, ← hn, ← hv, rawEntry_eq, BitVec.add_assoc]
  have hvInt : v.toInt = Int.bmod n (2 ^ 21) := by
    rw [hv, BitVec.toInt_signExtend_of_le (by decide), BitVec.toInt_setWidth,
      toNat_ofNat_of_lt (by omega)]
  -- What the cut leaves: the same number modulo 2 MiB, of at most 1 MiB.
  have hmod := Int.bmod_emod (x := n) (m := 2 ^ 21)
  have hlower := Int.le_bmod (x := n) (m := 2 ^ 21) (by decide)
  have hupper := Int.bmod_lt (x := n) (m := 2 ^ 21) (by decide)
  rw [← hvInt, BitVec.toInt_eq_toNat_cond] at hmod hlower hupper
  constructor
  · rw [hinstalled, BitVec.add_comm, BitVec.add_sub_cancel, BitVec.toNat_add, BitVec.toNat_ofNat]
    split at hmod <;> omega
  · have hsub : ∀ a b c : BitVec 64, c + a - (c + b) = a - b := fun a b c => by bv_omega
    rw [hinstalled, lifecycleReturnPc_eq, hsub, BitVec.toNat_sub, BitVec.toNat_add,
      BitVec.toNat_ofNat, BitVec.toNat_ofNat]
    split at hmod <;> omega

theorem not_returns_far (hroot : P.root.arch = .aarch64) (hfixed : P.root.isEtExec = false)
    (hlarge : 0xff000 < P.root.image.codeSize + 5) :
    ∃ mem, P.Prepared mem ∧ ¬Holds (store mem P.code (P.trampolineWrites .aarch64 targetPc))
      (P.installedReturn .aarch64) (returnInsn .aarch64) := by
  have hwrites := length_trampolineWrites_le P .aarch64 targetPc
  have hlength : (escapeReturn P.root.arch).length < 6 := by cases P.root.arch <;> decide
  obtain ⟨hoffCode, hoffPage⟩ := installedReturn_far hroot hfixed hlarge
  -- All other memory is zero.
  refine ⟨store (fun _ => 0) P.lifecycleReturnPc (escapeReturn P.root.arch),
    holds_store (by omega), fun hreturns => ?_⟩
  have hzero := hreturns.head
  rw [store_outside (by omega), store_outside (by omega)] at hzero
  exact absurd hzero (by decide)

/-- A call is safe in every memory with the return page of the root exactly if the root can make
it. -/
theorem callSafe_iff :
    (∀ mem, P.Prepared mem → CallSafe P arch targetPc mem) ↔ CanCall P.root arch := by
  refine ⟨fun hsafe => ?_, fun hcan mem hmem => callSafe_of_canCall hmem hcan⟩
  have hprepared : P.Prepared (P.setup fun _ => 0) := prepared_setup
  have hinside := (hsafe _ hprepared).inside
  rw [length_trampolineWrites, Nat.max_le, prefixSize] at hinside
  rcases (trampolineSize_le_iff ..).mp hinside.1 with hx86 | hown | ⟨rfl, hroot⟩
  · exact .inl hx86
  · refine .inr ⟨hown, ?_⟩
    rintro rfl
    cases hfixed : P.root.isEtExec with
    | true => exact .inl rfl
    | false =>
      refine .inr (Nat.le_of_not_lt fun hlarge => ?_)
      obtain ⟨mem, hmem, hnot⟩ := not_returns_far hown.symm hfixed hlarge
      exact hnot (hsafe mem hmem).returns
  · exact absurd (hsafe _ hprepared).returns (not_returns_riscv hprepared hroot)

end Process

/-! ## Runs -/

/-- The programs, and the parts of the runtime that map and relocate them, leave the return page of
the root alone. -/
structure KeepsReturnPage (P : Process) (G : ProcessSteps) : Prop where
  load : ∀ {p mem mem'}, P.Prepared mem → G.load p mem = some mem' → P.Prepared mem'
  call : ∀ {p targetPc mem}, P.Prepared mem → P.Prepared (G.call p targetPc mem)
  main : ∀ {mem mem'}, P.Prepared mem → G.main mem = some mem' → P.Prepared mem'

section

variable {P : Process} {G : ProcessSteps} {p : Nat} {mem : Memory}

/-- The invariant of the lifecycle: the return page is as it was written, at each call and after
it. -/
abbrev KeepsPrepared (P : Process) (t : Traced LifecycleCall Memory) : Prop :=
  t.Ensures (fun c => P.Prepared c.mem) P.Prepared

section

variable (hG : KeepsReturnPage P G)

include hG

theorem callProcessInitializer_keeps (h : P.Prepared mem)
    {targetPc : BitVec 64} : KeepsPrepared P (callProcessInitializer P G p targetPc mem) := by
  refine (Ensures.emit (P := fun c : LifecycleCall => P.Prepared c.mem)
    (I := fun _ => True) h trivial).bind fun _ _ => ?_
  cases hemit : emitPolyTrampoline (P.program p).arch P.code (BitVec.ofNat 64 P.root.prefixSize)
      P.lifecycleReturnPc targetPc false with
  | none => exact .fail
  | some bytes =>
    have hprefix := Process.prefixSize_le P.root
    obtain ⟨hle, rfl⟩ := emit_eq_some_iff.mp hemit
    rw [toNat_ofNat_of_lt (by omega)] at hle
    refine .pure (hG.call (h.trampoline ?_))
    rw [List.length_append, List.length_replicate, length_trampolineCode, BitVec.toNat_ofNat]
    omega

theorem runProcessArray_keeps (h : P.Prepared mem)
    {order : List Nat → List Nat} {array : TargetArray} :
    KeepsPrepared P (runProcessArray P G order p array mem) := by
  rw [runProcessArray]
  split
  · exact .pure h
  · split
    · exact .fail
    · split
      · exact .fail
      · refine Ensures.foldlM (fun mem n _ hmem => ?_) h
        dsimp only
        split
        · exact .pure hmem
        · exact callProcessInitializer_keeps hG hmem

theorem callVaddr_keeps (h : P.Prepared mem) {vaddr : BitVec 64} :
    KeepsPrepared P (callVaddr P G p vaddr mem) := by
  rw [callVaddr]
  split
  · exact .pure h
  · exact callProcessInitializer_keeps hG h

theorem runProcessInitializers_keeps (h : P.Prepared mem) :
    KeepsPrepared P (runProcessInitializers P G p mem) :=
  (callVaddr_keeps hG h).bind fun _ hmem => runProcessArray_keeps hG hmem

theorem runProcessFinalizers_keeps (h : P.Prepared mem) :
    KeepsPrepared P (runProcessFinalizers P G p mem) :=
  (runProcessArray_keeps hG h).bind fun _ hmem => callVaddr_keeps hG hmem

theorem mapProcessDependencies_keeps (budget : Nat) {s : LifecycleState} (h : P.Prepared s.mem) :
    (mapProcessDependencies P G budget p s).Ensures (fun c => P.Prepared c.mem)
      fun s' => P.Prepared s'.mem := by
  induction budget generalizing p s with
  | zero => exact .fail
  | succ budget ih =>
    refine Ensures.foldlM (fun s r _ hs => ?_) h
    rw [mapProcessDependency]
    split
    · split
      · exact .pure hs
      · exact .fail
    · refine (ih hs).bind fun s' hs' => ?_
      refine (Ensures.ofOption fun mem hmem => hG.load hs' hmem).bind fun mem hmem => ?_
      exact (runProcessInitializers_keeps hG hmem).bind fun mem' hmem' => .pure hmem'

theorem runProcessDependencyFinalizers_keeps (budget : Nat)
    (h : P.Prepared mem) : KeepsPrepared P (runProcessDependencyFinalizers P G budget p mem) := by
  induction budget generalizing p mem with
  | zero => exact .fail
  | succ budget ih =>
    exact Ensures.foldlM
      (fun mem r _ hmem => (runProcessFinalizers_keeps hG hmem).bind fun _ hmem' => ih hmem') h

theorem prepared_of_mem_log {budget : Nat} {c : LifecycleCall}
    (hc : c ∈ (processLifecycle P G budget mem).log) : P.Prepared c.mem := by
  have hkeeps : KeepsPrepared P (processLifecycle P G budget mem) := by
    refine (mapProcessDependencies_keeps hG budget Process.prepared_setup).bind fun s hs => ?_
    refine (Ensures.ofOption fun mem hmem => hG.load hs hmem).bind fun _ h₁ => ?_
    refine (runProcessArray_keeps hG h₁).bind fun _ h₂ => ?_
    refine (runProcessInitializers_keeps hG h₂).bind fun _ h₃ => ?_
    refine (Ensures.ofOption fun mem hmem => hG.main h₃ hmem).bind fun _ h₄ => ?_
    refine (runProcessFinalizers_keeps hG h₄).bind fun _ h₅ => ?_
    exact runProcessDependencyFinalizers_keeps hG budget h₅
  exact hkeeps.all c hc

end

end

/-- The calls that are safe whatever else is in memory are those that the root can make, and in
every run the calls of such an architecture are safe. -/
theorem lifecycle_calls_safe_iff (P : Process) :
    (∀ arch targetPc, (∀ mem, P.Prepared mem → CallSafe P arch targetPc mem) ↔
      CanCall P.root arch) ∧
    ∀ G, KeepsReturnPage P G → ∀ budget mem, ∀ c ∈ (processLifecycle P G budget mem).log,
      CanCall P.root (P.program c.program).arch →
        CallSafe P (P.program c.program).arch c.targetPc c.mem :=
  ⟨fun _ _ => Process.callSafe_iff, fun _ hG _ _ _ hc hcan =>
    Process.callSafe_of_canCall (prepared_of_mem_log hG hc) hcan⟩

theorem page_le_maxProgramBytes : 4096 ≤ maxProgramBytes := by decide

def smallProgram (arch : Abi.Arch) (loadedImage initVaddr : BitVec 64) : LifecycleProgram where
  arch := arch
  image := ⟨0, 4096, page_le_maxProgramBytes, loadedImage, fun _ => 0, []⟩
  isEtExec := false
  initVaddr := initVaddr
  finiVaddr := 0
  preinitArray := ⟨0, 0⟩
  initArray := ⟨0, 0⟩
  finiArray := ⟨0, 0⟩

def libraryProcess (root library : Abi.Arch) : Process where
  heap := (ProgramHeap.init [] default).adopt 0 [] default
  program p :=
    if p = 0 then smallProgram root 0x7f0000001000 0 else smallProgram library 0x7f0000100000 0x40
  mapping := 0x7f0000000000
  loaded := rfl
  codeBytes := List.replicate 4096 0
  length_codeBytes := List.length_replicate
  exitCode := []
  length_exitCode := by decide

def idleSteps : ProcessSteps where
  load _ mem := some mem
  call _ _ mem := mem
  main mem := some mem

theorem idleSteps_keeps (P : Process) : KeepsReturnPage P idleSteps :=
  ⟨fun h heq => by cases heq; exact h, fun h => h, fun h heq => by cases heq; exact h⟩

theorem libraryProcess_log (root library : Abi.Arch) :
    ∃ c ∈ (processLifecycle (libraryProcess root library) idleSteps 2 fun _ => 0).log,
      c.program = 1 := by
  cases root <;> cases library <;> exact ⟨_, List.mem_cons_self, rfl⟩

theorem lifecycle_calls_safe_iff_riscv :
    ∃ c ∈ (processLifecycle (libraryProcess .riscv .riscv) idleSteps 2 fun _ => 0).log,
      CallSafe (libraryProcess .riscv .riscv) .riscv c.targetPc c.mem := by
  obtain ⟨c, hc, hp⟩ := libraryProcess_log .riscv .riscv
  have hsafe := (lifecycle_calls_safe_iff _).2 _ (idleSteps_keeps _) _ _ c hc
  rw [hp] at hsafe
  exact ⟨c, hc, hsafe (.inr ⟨rfl, fun h => by cases h⟩)⟩

/-- An x86 root has 14 bytes for the trampoline and calls an AArch64 library with 34; the last 20
are over its image. An AArch64 root has room for a RISC-V library, which returns to the AArch64
escape instruction. -/
theorem library_overwrites_image :
    (∃ c ∈ (processLifecycle (libraryProcess .x86 .aarch64) idleSteps 2 fun _ => 0).log,
      let P := libraryProcess .x86 .aarch64
      (P.program c.program).arch = .aarch64 ∧ P.root.prefixSize = 14 ∧
        P.code + 14#64 = P.root.image.loadedImage ∧
        (P.trampolineWrites .aarch64 c.targetPc).length = 34 ∧
        ¬CallSafe P .aarch64 c.targetPc c.mem) ∧
    ∃ c ∈ (processLifecycle (libraryProcess .aarch64 .riscv) idleSteps 2 fun _ => 0).log,
      let P := libraryProcess .aarch64 .riscv
      (P.program c.program).arch = .riscv ∧ P.installedReturn .riscv = P.lifecycleReturnPc ∧
        Holds c.mem P.lifecycleReturnPc (emitU32 polyAarch64CtrlX86Escape) ∧
        ¬CallSafe P .riscv c.targetPc c.mem := by
  constructor
  · obtain ⟨c, hc, hp⟩ := libraryProcess_log .x86 .aarch64
    have hlength : ((libraryProcess .x86 .aarch64).trampolineWrites .aarch64 c.targetPc).length =
        34 := by
      rw [Process.length_trampolineWrites]
      decide
    refine ⟨c, hc, by rw [hp]; rfl, by decide, by decide, hlength, fun hsafe => ?_⟩
    have hinside := hsafe.inside
    rw [hlength] at hinside
    exact absurd hinside (by decide)
  · obtain ⟨c, hc, hp⟩ := libraryProcess_log .aarch64 .riscv
    have hprepared := prepared_of_mem_log (idleSteps_keeps _) hc
    refine ⟨c, hc, by rw [hp]; rfl, Process.installedReturn_riscv,
      (holds_append.mp hprepared).1, fun hsafe => ?_⟩
    exact Process.not_returns_riscv hprepared rfl hsafe.returns

end Poly.Polyexec
