import Armd64.Proofs.Encoders
import Armd64.Spec.Frontends

/-!
# Which trampolines enter the program

A trampoline for AArch64 loads the link register with `ADR`, which reaches 1 MiB; one for RISC-V
uses `AUIPC` and `ADDI`, which reach 2 GiB, for the link register and for the target. The emitter
does not check the distances.
-/

namespace Poly.Polyexec

open Isa
open Cpu
open A64Insn
open Hw

/-! ## Entering the frontend -/

section

variable {mem : Memory} {s s' : Cpu}

theorem step_nop (hx86 : s.frontend = frontendX86) (hmem : mem s.pc = 0x90) :
    s.step mem = some ({ s with pc := s.pc + 1#64 }, false) := by
  have hcontrol : ¬ x86Control mem s.pc := by simp [x86Control, hmem]
  simp [step, hx86, x86Step, hcontrol, X86Insn.decode, hmem, x86Exec]

theorem run_nops (hx86 : s.frontend = frontendX86) {n : Nat}
    (hmem : Holds mem s.pc (List.replicate n 0x90))
    (hrest : ToJump (step mem) { s with pc := s.pc + BitVec.ofNat 64 n } s') :
    ToJump (step mem) s s' := by
  induction n generalizing s with
  | zero => simpa using hrest
  | succ n ih =>
    obtain ⟨hhead, htail⟩ := holds_cons.mp hmem
    refine .next (step_nop hx86 hhead) (ih hx86 htail ?_)
    rwa [BitVec.add_assoc, BitVec.ofNat_add_ofNat, Nat.add_comm]

theorem step_movR15d {imm : BitVec 32} (hx86 : s.frontend = frontendX86)
    (hmem : Holds mem s.pc ([0x41, 0xbf] ++ emitU32 imm)) :
    s.step mem = some (s.x86Write 7 (imm.setWidth 64) 6, false) := by
  obtain ⟨hop, himm⟩ := holds_append.mp hmem
  obtain ⟨h0, hop⟩ := holds_cons.mp hop
  obtain ⟨h1, -⟩ := holds_cons.mp hop
  have himm : fetch 4 mem (s.pc + 2#64) = imm := fetch_of_holds himm
  have hcontrol : ¬ x86Control mem s.pc := by simp [x86Control, h0]
  simp [step, hx86, x86Step, hcontrol, X86Insn.decode, h0, h1, himm, x86Exec]

theorem step_penter (hx86 : s.frontend = frontendX86)
    (hmem : Holds mem s.pc
      (emitX86PolyControl (FrontendHandoff.x86CtrlPenterMode.setWidth 8))) :
    s.step mem = (s.penter (s.pc + 4#64)).map (·, false) := by
  obtain ⟨h0, hmem⟩ := holds_cons.mp hmem
  obtain ⟨h1, hmem⟩ := holds_cons.mp hmem
  obtain ⟨h2, hmem⟩ := holds_cons.mp hmem
  obtain ⟨h3, -⟩ := holds_cons.mp hmem
  simp only [BitVec.add_assoc, BitVec.ofNat_add_ofNat] at h2 h3
  have hcontrol : x86Control mem s.pc := ⟨h0, h1, h2⟩
  have h3 : mem (s.pc + 3) = FrontendHandoff.x86CtrlPenterMode.setWidth 8 := h3
  rw [step, if_pos hx86, x86Step, if_pos hcontrol, if_pos h3]
  rfl

def frontendBits (arch : Abi.Arch) : BitVec 2 := (frontendOf arch).setWidth 2

theorem length_emitU32 (v : BitVec 32) : (emitU32 v).length = 4 := by simp [emitU32, toBytes]

theorem length_penter (code : BitVec 64) (arch : Abi.Arch) :
    (emitX86PenterFrontend code 0 arch).length = x86PenterPad code 0 arch + 10 := by
  simp [emitX86PenterFrontend, emitX86EntryAlignment, x86PenterFrontendSizeForCode,
    emitX86PolyControl, length_emitU32]

variable {arch : Abi.Arch}

theorem rawEntry_aligned (harch : arch ≠ .x86) (code : BitVec 64) :
    (rawEntry arch code).toNat % 4 = 0 := by
  have hpad : x86PenterPad code 0 arch =
      ((4#64 - (code + 10#64 &&& 3#64)) &&& 3#64).toNat := by
    cases arch with
    | x86 => exact absurd rfl harch
    | aarch64 => simp [x86PenterPad, polyFrontendEntryAlignment, x86PenterBaseSize]
    | riscv => simp [x86PenterPad, polyFrontendEntryAlignment, x86PenterBaseSize]
  have hmask : ∀ x : BitVec 64, (x &&& 3#64).toNat = x.toNat % 4 := fun x => by
    exact Nat.and_two_pow_sub_one_eq_mod x.toNat 2
  rw [rawEntry, length_penter, hpad, hmask, BitVec.toNat_sub, hmask, BitVec.toNat_add,
    BitVec.toNat_add, BitVec.toNat_ofNat, BitVec.toNat_ofNat, BitVec.toNat_ofNat]
  omega

def entered (arch : Abi.Arch) (s : Cpu) : Cpu :=
  { s with
    frontend := frontendBits arch
    pc := rawEntry arch s.pc
    x86Regs := fun q => if q = 7 then (frontendOf arch).setWidth 64 else s.x86Regs q
    entry := some (rawEntry arch s.pc) }

theorem penter_eq (harch : arch ≠ .x86) {next : BitVec 64}
    (hr15 : s.x86Regs 7 = (frontendOf arch).setWidth 64) (hnext : next.toNat % 4 = 0) :
    s.penter next =
      some { s with frontend := frontendBits arch, pc := next, entry := some next } := by
  have halign : next.toNat % fetchAlign (frontendBits arch) = 0 := by
    cases arch with
    | x86 => exact absurd rfl harch
    | aarch64 => exact hnext
    | riscv =>
      show next.toNat % 2 = 0
      omega
  have hbits : ((frontendOf arch).setWidth 64).setWidth 2 = frontendBits arch := by
    cases arch <;> rfl
  have hknown : ((frontendOf arch).setWidth 64).toNat ≤ 2 := by cases arch <;> decide
  simp only [penter, hr15, hbits, halign]
  rw [if_neg (by omega)]

theorem run_penter (harch : arch ≠ .x86) (hx86 : s.frontend = frontendX86)
    (hmem : Holds mem s.pc (emitX86PenterFrontend s.pc 0 arch))
    (hrest : ToJump (step mem) (entered arch s) s') : ToJump (step mem) s s' := by
  have hmov_length : ([0x41, 0xbf] ++ emitU32 (frontendOf arch)).length = 6 := by
    simp [length_emitU32]
  rw [emitX86PenterFrontend, List.append_assoc, emitX86EntryAlignment,
    x86PenterFrontendSizeForCode, Nat.add_sub_cancel_left] at hmem
  obtain ⟨hnops, hmem⟩ := holds_append.mp hmem
  rw [List.length_replicate] at hmem
  obtain ⟨hmov, hcontrol⟩ := holds_append.mp hmem
  have hentry : s.pc + BitVec.ofNat 64 (x86PenterPad s.pc 0 arch) + BitVec.ofNat 64 6 + 4#64 =
      rawEntry arch s.pc := by
    rw [rawEntry, length_penter, BitVec.add_assoc, BitVec.add_assoc, BitVec.ofNat_add_ofNat,
      BitVec.ofNat_add_ofNat]
  refine run_nops hx86 hnops (.next (step_movR15d hx86 hmov) (.next ?_ hrest))
  rw [step_penter (by exact hx86) (by exact hcontrol)]
  simp only [x86Write, hentry]
  rw [penter_eq harch (by rfl) (rawEntry_aligned harch s.pc)]
  rfl

/-! ## The instructions of the program's frontend -/

variable {w rd : BitVec 32} {a v pc off : BitVec 64} {bytes : List (BitVec 8)}

theorem step_a64 (hfrontend : s.frontend = frontendAarch64) {i : A64Insn}
    (hmem : Holds mem s.pc (emitU32 w)) (hdecode : decode w = some i) :
    s.step mem = some (s.apply (i.exec s.pc s.regs)) := by
  have hfetch : fetch 4 mem s.pc = w := fetch_of_holds hmem
  rw [step, if_neg (by rw [hfrontend]; decide), if_pos hfrontend, hfetch, hdecode]
  rfl

theorem step_rv64 (hfrontend : s.frontend = frontendRiscv) {i : Rv64Insn}
    (hmem : Holds mem s.pc (emitU32 w)) (hdecode : Rv64Insn.decode w = some i) :
    s.step mem = some (s.apply (i.exec s.pc s.regs)) := by
  have hfetch : fetch 4 mem s.pc = w := fetch_of_holds hmem
  rw [step, if_neg (by rw [hfrontend]; decide), if_neg (by rw [hfrontend]; decide),
    if_pos hfrontend, hfetch, hdecode]
  rfl

theorem holds_emitU32_append :
    Holds mem a (emitU32 w ++ bytes) ↔
      Holds mem a (emitU32 w) ∧ Holds mem (a + 4) bytes := by
  rw [holds_append, length_emitU32]
  rfl

/-- The register `x` with the low half word of `v` at position `k`. -/
def movk (x v : BitVec 64) (k : BitVec 2) : BitVec 64 :=
  x &&& ~~~(0xffff#64 <<< position k) ||| (v.setWidth 16).setWidth 64 <<< position k

theorem getLsbD_movk (x v : BitVec 64) (k : BitVec 2) {i : Nat} (hi : i < 64) :
    (movk x v k).getLsbD i =
      if position k ≤ i ∧ i < position k + 16 then v.getLsbD (i - position k)
      else x.getLsbD i := by
  simp only [movk, BitVec.getLsbD_or, BitVec.getLsbD_and, BitVec.getLsbD_not, BitVec.getLsbD_shiftLeft,
    BitVec.getLsbD_setWidth, hi,
    getLsbD_mask (m := 0xffff#64) (k := 16) rfl (by omega : i - position k < 64)]
  by_cases hlow : i < position k
  · simp [hlow, show ¬ position k ≤ i by omega]
  · by_cases hin : i - position k < 16
    · simp [hlow, hin, show position k ≤ i ∧ i < position k + 16 by omega,
        show i - position k < 64 by omega]
    · simp [hlow, hin, show ¬ (position k ≤ i ∧ i < position k + 16) by omega]

theorem movabs_value (v : BitVec 64) :
    movk (movk (movk ((v.setWidth 16).setWidth 64 <<< position 0) (v >>> 16) 1) (v >>> 32) 2)
      (v >>> 48) 3 = v := by
  have h1 : position 1 = 16 := rfl
  have h2 : position 2 = 32 := rfl
  have h3 : position 3 = 48 := rfl
  apply BitVec.eq_of_getLsbD_eq
  intro i hi
  rw [getLsbD_movk _ _ _ hi, getLsbD_movk _ _ _ hi, getLsbD_movk _ _ _ hi, h1, h2, h3]
  simp only [BitVec.getLsbD_ushiftRight]
  split
  · congr 1
    omega
  split
  · congr 1
    omega
  split
  · congr 1
    omega
  · simp [position, show i < 16 by omega, hi]

def withReg (s : Cpu) (zero rd : BitVec 5) (pc v : BitVec 64) : Cpu :=
  { s with pc, regs := s.regs.write zero rd v }

theorem withReg_withReg (zero rd : BitVec 5) (pc pc' v v' : BitVec 64) :
    withReg (withReg s zero rd pc v) zero rd pc' v' = withReg s zero rd pc' v' := by
  unfold withReg Regs.write
  congr 1
  funext r
  by_cases h : r = rd ∧ rd ≠ zero <;> simp [h]

theorem read_withReg {zero rd : BitVec 5} (hrd : rd ≠ zero) (pc v : BitVec 64) :
    (withReg s zero rd pc v).regs.read zero rd = v := by
  simp [withReg, Regs.read, Regs.write, hrd]

theorem run_movk (hfrontend : s.frontend = frontendAarch64) {op : BitVec 32} {k : BitVec 2}
    (hop : op = movkPattern.value ||| k.setWidth 32 <<< 21)
    (hrd : rd.setWidth 5 ≠ xzr) {old : BitVec 64}
    (hmem : Holds mem pc (emitU32 (aarch64MovWide op rd v)))
    (hrest : ToJump (step mem) (withReg s xzr (rd.setWidth 5) (pc + 4) (movk old v k)) s') :
    ToJump (step mem) (withReg s xzr (rd.setWidth 5) pc old) s' := by
  have hstep := step_a64 (s := withReg s xzr (rd.setWidth 5) pc old) hfrontend hmem
    (decode_movk hop rd v)
  rw [exec, read_withReg hrd] at hstep
  refine .next hstep ?_
  rw [← withReg_withReg (s := s) _ _ pc _ old] at hrest
  exact hrest

theorem run_movabs (hfrontend : s.frontend = frontendAarch64) (hrd : rd.setWidth 5 ≠ xzr)
    (hmem : Holds mem s.pc (emitAarch64Movabs rd v))
    (hrest : ToJump (step mem)
      (withReg s xzr (rd.setWidth 5) (s.pc + 4 + 4 + 4 + 4) v) s') :
    ToJump (step mem) s s' := by
  obtain ⟨h0, hmem⟩ := holds_emitU32_append.mp hmem
  obtain ⟨h1, hmem⟩ := holds_emitU32_append.mp hmem
  obtain ⟨h2, h3⟩ := holds_emitU32_append.mp hmem
  refine .next (step_a64 hfrontend h0 (decode_movz (k := 0) (by decide) rd v)) ?_
  refine run_movk (k := 1) hfrontend (by decide) hrd h1 ?_
  refine run_movk (k := 2) hfrontend (by decide) hrd h2 ?_
  refine run_movk (k := 3) hfrontend (by decide) hrd h3 ?_
  rwa [movabs_value]

theorem holds_movabs_append :
    Holds mem a (emitAarch64Movabs rd v ++ bytes) ↔
      Holds mem a (emitAarch64Movabs rd v) ∧ Holds mem (a + 4 + 4 + 4 + 4) bytes := by
  have hlength : (emitAarch64Movabs rd v).length = 16 := by
    simp [emitAarch64Movabs, length_emitU32]
  have hpc : a + 4 + 4 + 4 + 4 = a + BitVec.ofNat 64 16 := by
    rw [BitVec.add_assoc, BitVec.add_assoc, BitVec.add_assoc]
    rfl
  rw [holds_append, hlength, hpc]

theorem run_adr (hfrontend : s.frontend = frontendAarch64)
    (hmem : Holds mem s.pc (emitU32 (aarch64Adr rd off)))
    (hrest : ToJump (step mem) (withReg s xzr (rd.setWidth 5) (s.pc + 4)
      (s.pc + (off.setWidth 21).signExtend 64)) s') :
    ToJump (step mem) s s' :=
  .next (step_a64 hfrontend hmem (decode_aarch64Adr rd off)) hrest

theorem jump_br (hfrontend : s.frontend = frontendAarch64)
    (hmem : Holds mem s.pc (emitU32 0xd61f0200)) :
    ToJump (step mem) s { s with pc := s.regs.read xzr 16 } :=
  .jump (step_a64 hfrontend hmem (i := .br 16) (by decide))

variable {returnPc targetPc : BitVec 64} {tailEntry : Bool}

/-- The trampoline of an AArch64 program jumps to the target; the link register is exact only for
offsets of 21 bits. -/
theorem run_aarch64 (hx86 : s.frontend = frontendX86)
    (hmem : Holds mem s.pc (trampolineCode .aarch64 s.pc returnPc targetPc tailEntry)) :
    ∃ s', ToJump (step mem) s s' ∧ s'.frontend = frontendAarch64 ∧
      s'.entry = some (rawEntry .aarch64 s.pc) ∧ s'.pc = targetPc ∧
      s'.regs 30 = rawEntry .aarch64 s.pc +
        ((returnPc - rawEntry .aarch64 s.pc).setWidth 21).signExtend 64 := by
  obtain ⟨hpenter, hmem⟩ := holds_append.mp hmem
  obtain ⟨hadr, hmem⟩ := holds_emitU32_append.mp hmem
  obtain ⟨hmovabs, hbr⟩ := holds_movabs_append.mp hmem
  -- The program's frontend sets the link register, the target register, and jumps.
  have hrun : ToJump (step mem) (entered .aarch64 s) _ :=
    run_adr rfl hadr (run_movabs rfl (by decide) hmovabs (jump_br rfl hbr))
  refine ⟨_, run_penter (by decide) hx86 hpenter hrun, rfl, rfl, ?_, ?_⟩
  · simp [withReg, Regs.read, Regs.write, xzr]
  · simp [withReg, Regs.write, xzr, entered]

theorem run_auipc (hfrontend : s.frontend = frontendRiscv)
    (hmem : Holds mem s.pc (emitU32 (riscvAuipc rd off)))
    (hrest : ToJump (step mem) (withReg s Rv64Insn.x0 (rd.setWidth 5) (s.pc + 4)
      (s.pc + ((riscvHi20 off).setWidth 20 ++ 0#12).signExtend 64)) s') :
    ToJump (step mem) s s' :=
  .next (step_rv64 hfrontend hmem (decode_riscvAuipc rd off)) hrest

def auipcAddi (pc off : BitVec 64) : BitVec 64 :=
  pc + ((riscvHi20 off).setWidth 20 ++ 0#12).signExtend 64 +
    ((off - riscvHi20 off <<< 12).setWidth 12).signExtend 64

section

variable (hfrontend : s.frontend = frontendRiscv)

include hfrontend

theorem run_addi (hrd : rd.setWidth 5 ≠ Rv64Insn.x0)
    (hmem : Holds mem pc (emitU32 (riscvAddi rd rd off)))
    (hrest : ToJump (step mem) (withReg s Rv64Insn.x0 (rd.setWidth 5) (pc + 4)
      (v + ((off - riscvHi20 off <<< 12).setWidth 12).signExtend 64)) s') :
    ToJump (step mem) (withReg s Rv64Insn.x0 (rd.setWidth 5) pc v) s' := by
  have hstep := step_rv64 (s := withReg s Rv64Insn.x0 (rd.setWidth 5) pc v) hfrontend hmem
    (decode_riscvAddi rd rd off)
  rw [Rv64Insn.exec, read_withReg hrd] at hstep
  refine .next hstep ?_
  rw [← withReg_withReg (s := s) _ _ pc _ v] at hrest
  exact hrest

theorem run_auipcAddi (hrd : rd.setWidth 5 ≠ Rv64Insn.x0)
    (hauipc : Holds mem s.pc (emitU32 (riscvAuipc rd off)))
    (haddi : Holds mem (s.pc + 4) (emitU32 (riscvAddi rd rd off)))
    (hrest : ToJump (step mem)
      (withReg s Rv64Insn.x0 (rd.setWidth 5) (s.pc + 4 + 4) (auipcAddi s.pc off)) s') :
    ToJump (step mem) s s' :=
  run_auipc hfrontend hauipc (run_addi hfrontend hrd haddi hrest)

theorem jump_jalr (hmem : Holds mem s.pc (emitU32 (riscvJalr 0 5 0))) :
    ToJump (step mem) s
      { s with pc := (s.regs.read Rv64Insn.x0 5 + 0#64) &&& ~~~1#64
               regs := s.regs.write Rv64Insn.x0 0 (s.pc + 4) } :=
  .jump (step_rv64 hfrontend hmem (i := .jalr 0 5 0) (by decide))

end

section

variable (hx86 : s.frontend = frontendX86)

include hx86

/-- The trampoline of a RISC-V program computes the link register and the target with `AUIPC` and
`ADDI`. -/
theorem run_riscv
    (hmem : Holds mem s.pc (trampolineCode .riscv s.pc returnPc targetPc tailEntry)) :
    ∃ s', ToJump (step mem) s s' ∧ s'.frontend = frontendRiscv ∧
      s'.entry = some (rawEntry .riscv s.pc) ∧
      s'.pc = auipcAddi (rawEntry .riscv s.pc + 8) (targetPc - (rawEntry .riscv s.pc + 8)) &&&
        ~~~1#64 ∧
      s'.regs 1 = auipcAddi (rawEntry .riscv s.pc) (returnPc - rawEntry .riscv s.pc) := by
  obtain ⟨hpenter, hmem⟩ := holds_append.mp hmem
  obtain ⟨hauipc₁, hmem⟩ := holds_emitU32_append.mp hmem
  obtain ⟨haddi₁, hmem⟩ := holds_emitU32_append.mp hmem
  obtain ⟨hauipc₅, hmem⟩ := holds_emitU32_append.mp hmem
  obtain ⟨haddi₅, hjalr⟩ := holds_emitU32_append.mp hmem
  have hrun : ToJump (step mem) (entered .riscv s) _ :=
    run_auipcAddi rfl (by decide) hauipc₁ haddi₁ (run_auipcAddi rfl (by decide) hauipc₅ haddi₅
      (jump_jalr rfl hjalr))
  have hpc : rawEntry .riscv s.pc + 4 + 4 = rawEntry .riscv s.pc + 8 := by
    rw [BitVec.add_assoc]
    rfl
  refine ⟨_, run_penter (by decide) hx86 hpenter hrun, rfl, rfl, ?_, ?_⟩
  · rw [← hpc]
    simp [withReg, Regs.read, Regs.write, Rv64Insn.x0, entered]
  · simp [withReg, Regs.write, Rv64Insn.x0, entered]

theorem step_movabsR11 (hmem : Holds mem s.pc (emitX86MovabsR11 v)) :
    s.step mem = some (s.x86Write 3 v 10, false) := by
  obtain ⟨hop, himm⟩ := holds_append.mp hmem
  obtain ⟨h0, hop⟩ := holds_cons.mp hop
  obtain ⟨h1, -⟩ := holds_cons.mp hop
  have himm : fetch 8 mem (s.pc + 2#64) = v := fetch_of_holds himm
  have hcontrol : ¬ x86Control mem s.pc := by simp [x86Control, h0]
  simp [step, hx86, x86Step, hcontrol, X86Insn.decode, h0, h1, himm, x86Exec]

theorem step_r11 (hmem : Holds mem s.pc [0x41, 0xff, if tailEntry then 0xe3 else 0xd3]) :
    s.step mem = some ({ s with
      pc := s.x86Regs 3
      stack := if tailEntry then s.stack else (s.pc + 3#64) :: s.stack }, true) := by
  obtain ⟨h0, hmem⟩ := holds_cons.mp hmem
  obtain ⟨h1, hmem⟩ := holds_cons.mp hmem
  obtain ⟨h2, -⟩ := holds_cons.mp hmem
  rw [BitVec.add_assoc] at h2
  have h2 : mem (s.pc + 2#64) = if tailEntry then 0xe3 else 0xd3 := h2
  have hcontrol : ¬ x86Control mem s.pc := by simp [x86Control, h0]
  cases tailEntry <;>
    simp [step, hx86, x86Step, hcontrol, X86Insn.decode, h0, h1, h2, x86Exec]

theorem run_x86 (hmem : Holds mem s.pc (trampolineCode .x86 s.pc returnPc targetPc tailEntry)) :
    ∃ s', ToJump (step mem) s s' ∧ s'.frontend = frontendX86 ∧ s'.pc = targetPc ∧
      s'.stack = if tailEntry then s.stack else (s.pc + 13#64) :: s.stack := by
  obtain ⟨hmem, -⟩ := holds_append.mp hmem
  obtain ⟨hmovabs, hjump⟩ := holds_append.mp hmem
  have hlength : (emitX86MovabsR11 targetPc).length = 10 := by
    simp [emitX86MovabsR11, emitU64, toBytes]
  have hpc : s.pc + BitVec.ofNat 64 10 + 3#64 = s.pc + 13#64 := by
    rw [BitVec.add_assoc]
    rfl
  have hjump := step_r11 (s := s.x86Write 3 targetPc 10) (by exact hx86) hjump
  refine ⟨_, .next (step_movabsR11 hx86 hmovabs) (.jump hjump), hx86, rfl, ?_⟩
  simp only [x86Write, hpc]

end

end

/-! ## When the registers are exact -/

variable {pc v : BitVec 64}

theorem adr_eq_iff :
    pc + ((v - pc).setWidth 21).signExtend 64 = v ↔
      -2 ^ 20 ≤ (v - pc).toInt ∧ (v - pc).toInt < 2 ^ 20 := by
  rw [← signExtend_setWidth_eq_iff (k := 20) (by decide)]
  constructor
  · intro h
    rw [← BitVec.add_right_inj pc, h, BitVec.add_comm, BitVec.sub_add_cancel]
  · intro h
    rw [h, BitVec.add_comm, BitVec.sub_add_cancel]

theorem auipcAddi_eq_iff : auipcAddi pc (v - pc) = v ↔ FitsAuipc (v - pc) := by
  rw [← hi20_signExtend_iff, auipcAddi, lo12_signExtend]
  -- The two upper parts differ exactly as the computed address and `v` do.
  constructor
  · bv_omega
  · bv_omega

theorem auipcAddi_parity (pc v : BitVec 64) :
    (auipcAddi pc (v - pc)).toNat % 2 = v.toNat % 2 := by
  have hhi : (riscvHi20 (v - pc) <<< 12).toNat % 2 = 0 := by
    rw [toNat_riscvHi20]
    omega
  have hhi' : (((riscvHi20 (v - pc)).setWidth 20 ++ 0#12).signExtend 64).toNat % 2 = 0 := by
    rw [hi20_append]
    generalize riscvHi20 (v - pc) = hi20
    have hbit : (((hi20 <<< 12).setWidth 32).signExtend 64).getLsbD 0 = false := by
      simp [BitVec.getElem_signExtend]
    rw [BitVec.getLsbD, Nat.testBit_zero] at hbit
    simpa using hbit
  rw [auipcAddi, lo12_signExtend]
  bv_omega

theorem jalr_eq_iff :
    auipcAddi pc (v - pc) &&& ~~~1#64 = v ↔ FitsAuipc (v - pc) ∧ v.toNat % 2 = 0 := by
  have hclear : ∀ x : BitVec 64, (x &&& ~~~1#64).toNat = x.toNat / 2 ^ 1 * 2 ^ 1 :=
    toNat_and_not_mask (k := 1) (by decide)
  have hparity := auipcAddi_parity pc v
  rw [← auipcAddi_eq_iff, ← BitVec.toNat_inj, ← BitVec.toNat_inj, hclear]
  omega

/-! ## Correct trampolines -/

def linkRegister : Abi.Arch → BitVec 5
  | .aarch64 => 30
  | .riscv => 1
  | .x86 => 0

/-- The state `s'` in which the trampoline at `code`, started in `s`, leaves for the program. -/
def Arrived (arch : Abi.Arch) (code returnPc targetPc : BitVec 64) (tailEntry : Bool) (s s' : Cpu) :
    Prop :=
  match arch with
  | .x86 => s'.frontend = frontendX86 ∧ s'.pc = targetPc ∧
      s'.stack = if tailEntry then s.stack else (code + 13#64) :: s.stack
  | arch => s'.frontend = frontendBits arch ∧ (∃ e, s'.entry = some e ∧ e.toNat % 4 = 0) ∧
      s'.regs (linkRegister arch) = returnPc ∧ s'.pc = targetPc

/-- The trampoline is refused, or its bytes lead to the program from every state and in every
memory. -/
def TrampolineCorrect (arch : Abi.Arch) (code prefixSize returnPc targetPc : BitVec 64)
    (tailEntry : Bool) : Prop :=
  ∀ bytes mem s, emitPolyTrampoline arch code prefixSize returnPc targetPc tailEntry = some bytes →
    s.frontend = frontendX86 → s.pc = code →
    ∃ s', ToJump (step (store mem code bytes)) s s' ∧
      Arrived arch code returnPc targetPc tailEntry s s'

def trampolineSize (arch : Abi.Arch) (code : BitVec 64) : Nat :=
  match arch with
  | .aarch64 => x86PenterFrontendSizeForCode code 0 .aarch64 + 24
  | .riscv => x86PenterFrontendSizeForCode code 0 .riscv + 20
  | .x86 => x86TrampolineSize

/-- The addresses that the instructions of the trampoline can express. -/
def InReach (arch : Abi.Arch) (code returnPc targetPc : BitVec 64) : Prop :=
  match arch with
  | .aarch64 => -2 ^ 20 ≤ (returnPc - rawEntry .aarch64 code).toInt ∧
      (returnPc - rawEntry .aarch64 code).toInt < 2 ^ 20
  | .riscv => FitsAuipc (returnPc - rawEntry .riscv code) ∧
      FitsAuipc (targetPc - (rawEntry .riscv code + 8)) ∧ targetPc.toNat % 2 = 0
  | .x86 => True

section

variable {arch : Abi.Arch} {code prefixSize returnPc targetPc : BitVec 64} {tailEntry : Bool}

theorem length_trampolineCode :
    (trampolineCode arch code returnPc targetPc tailEntry).length = trampolineSize arch code := by
  cases arch with
  | x86 =>
    simp [trampolineCode, trampolineSize, emitX86MovabsR11, emitU64, toBytes, x86TrampolineSize]
  | aarch64 =>
    simp [trampolineCode, trampolineSize, length_penter, emitAarch64Movabs, length_emitU32,
      x86PenterFrontendSizeForCode, x86PenterBaseSize]
    omega
  | riscv =>
    simp [trampolineCode, trampolineSize, length_penter, length_emitU32,
      x86PenterFrontendSizeForCode, x86PenterBaseSize]
    omega

variable {bytes : List (BitVec 8)}

theorem emit_eq_some_iff :
    emitPolyTrampoline arch code prefixSize returnPc targetPc tailEntry = some bytes ↔
      trampolineSize arch code ≤ prefixSize.toNat ∧
        bytes = trampolineCode arch code returnPc targetPc tailEntry ++
          List.replicate (prefixSize.toNat - trampolineSize arch code) 0x90 := by
  rw [emitPolyTrampoline, length_trampolineCode, List.length_append, List.length_replicate,
    length_trampolineCode]
  split
  · rw [Option.some.injEq, eq_comm]
    exact ⟨fun h => ⟨by omega, h⟩, fun h => h.2⟩
  · constructor
    · intro h
      cases h
    · omega

theorem holds_trampoline (mem : Memory)
    (hemit : emitPolyTrampoline arch code prefixSize returnPc targetPc tailEntry = some bytes) :
    Holds (store mem code bytes) code
      (trampolineCode arch code returnPc targetPc tailEntry) := by
  obtain ⟨hle, rfl⟩ := emit_eq_some_iff.mp hemit
  refine (holds_append.mp (holds_store ?_)).1
  rw [List.length_append, List.length_replicate, length_trampolineCode]
  omega

theorem arrives_iff {mem : Memory} {s : Cpu} (hx86 : s.frontend = frontendX86)
    (hmem : Holds mem s.pc (trampolineCode arch s.pc returnPc targetPc tailEntry)) :
    (∃ s', ToJump (step mem) s s' ∧ Arrived arch s.pc returnPc targetPc tailEntry s s') ↔
      InReach arch s.pc returnPc targetPc := by
  cases arch with
  | x86 =>
    obtain ⟨s', hrun, harrived⟩ := run_x86 hx86 hmem
    exact ⟨fun _ => trivial, fun _ => ⟨s', hrun, harrived⟩⟩
  | aarch64 =>
    obtain ⟨s₁, hrun, hfrontend, hentry, hpc, hlink⟩ := run_aarch64 hx86 hmem
    rw [InReach, ← adr_eq_iff, ← hlink]
    constructor
    · rintro ⟨s', hrun', -, -, hlink', -⟩
      rwa [hrun.unique hrun']
    · intro hexact
      exact ⟨s₁, hrun, hfrontend, ⟨_, hentry, rawEntry_aligned (by decide) _⟩, hexact, hpc⟩
  | riscv =>
    obtain ⟨s₁, hrun, hfrontend, hentry, hpc, hlink⟩ := run_riscv hx86 hmem
    rw [InReach, ← auipcAddi_eq_iff, ← jalr_eq_iff, ← hlink, ← hpc]
    constructor
    · rintro ⟨s', hrun', -, -, hlink', hpc'⟩
      rw [hrun.unique hrun']
      exact ⟨hlink', hpc'⟩
    · rintro ⟨hexact, htarget⟩
      exact ⟨s₁, hrun, hfrontend, ⟨_, hentry, rawEntry_aligned (by decide) _⟩, hexact, htarget⟩

end

def largeImage : EntryMapping where
  arch := .aarch64
  mapping := 0x7f0000000000
  codeSize := 0x100000
  codeSize_le := by decide
  entryOffset := 0

/-- The trampoline for the entry point jumps there with a link register 2 MiB below the code that
returns. -/
theorem run_largeImage {bytes : List (BitVec 8)} (hemit : largeImage.emit = some bytes)
    (mem : Memory) {s : Cpu} (hx86 : s.frontend = frontendX86) (hpc : s.pc = largeImage.code) :
    ∃ s', ToJump (step (store mem largeImage.code bytes)) s s' ∧
      s'.pc = largeImage.entryPc ∧ s'.regs 30 = largeImage.returnPc - 0x200000#64 := by
  have hmem := holds_trampoline mem hemit
  rw [← hpc] at hmem ⊢
  obtain ⟨s', hrun, -, -, hjump, hlink⟩ := run_aarch64 hx86 hmem
  rw [hpc] at hlink
  exact ⟨s', hrun, hjump, hlink.trans (by decide)⟩

/-- The trampoline does what it is for exactly if it is refused for lack of space, or its addresses
are in reach. -/
theorem trampoline_correct_iff (arch : Abi.Arch) (code prefixSize returnPc targetPc : BitVec 64)
    (tailEntry : Bool) :
    TrampolineCorrect arch code prefixSize returnPc targetPc tailEntry ↔
      prefixSize.toNat < trampolineSize arch code ∨ InReach arch code returnPc targetPc := by
  constructor
  · intro hcorrect
    rcases Nat.lt_or_ge prefixSize.toNat (trampolineSize arch code) with hlt | hge
    · exact .inl hlt
    · obtain ⟨bytes, hemit⟩ : ∃ bytes,
          emitPolyTrampoline arch code prefixSize returnPc targetPc tailEntry = some bytes :=
        ⟨_, emit_eq_some_iff.mpr ⟨hge, rfl⟩⟩
      have hmem := holds_trampoline (fun _ => 0) hemit
      let s : Cpu := ⟨frontendX86, code, fun _ => 0, fun _ => 0, [], none⟩
      exact .inr ((arrives_iff (s := s) rfl hmem).mp (hcorrect bytes _ s hemit rfl rfl))
  · rintro hcond bytes mem s hemit hx86 rfl
    have hge := (emit_eq_some_iff.mp hemit).1
    have hreach := hcond.resolve_left (by omega)
    exact (arrives_iff hx86 (holds_trampoline mem hemit)).mpr hreach

/-- The trampoline for the entry point of a large image is emitted, and sets a wrong link register. -/
theorem large_image_link_register :
    ¬ TrampolineCorrect largeImage.arch largeImage.code largeImage.prefixSize largeImage.returnPc
      largeImage.entryPc false ∧
    ∃ bytes, largeImage.emit = some bytes ∧
      ∀ mem s, s.frontend = frontendX86 → s.pc = largeImage.code →
        ∃ s', ToJump (step (store mem largeImage.code bytes)) s s' ∧
          s'.pc = largeImage.entryPc ∧ s'.regs 30 = largeImage.returnPc - 0x200000#64 := by
  obtain ⟨bytes, hemit⟩ : ∃ bytes, largeImage.emit = some bytes :=
    ⟨_, emit_eq_some_iff.mpr ⟨by decide, rfl⟩⟩
  refine ⟨fun hcorrect => ?_, bytes, hemit, fun mem s => run_largeImage hemit mem⟩
  let s : Cpu := ⟨frontendX86, largeImage.code, fun _ => 0, fun _ => 0, [], none⟩
  obtain ⟨s₁, hrun₁, -, hlink₁⟩ := run_largeImage hemit (fun _ => 0) (s := s) rfl rfl
  obtain ⟨s₂, hrun₂, -, -, hlink₂, -⟩ := hcorrect bytes (fun _ => 0) s hemit rfl rfl
  rw [hrun₁.unique hrun₂] at hlink₁
  exact absurd (hlink₁.symm.trans hlink₂) (by decide)

end Poly.Polyexec
