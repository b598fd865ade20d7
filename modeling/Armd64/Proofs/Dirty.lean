import Armd64.Proofs.Progress
import Armd64.Proofs.RoundTrip

/-!
# The dirty bit

An interrupt entry spills only the header when the dirty bit is clear, so the bit has to be set
whenever a raw instruction has retired since the last point at which the foreign registers were
saved or loaded. Its clear condition looks at the sub-operation `0x70` without the frontend: in x86
that is PRESTORE, in AArch64 it is the escape to x86.
-/

namespace Poly

open FrontendCore

variable {s s₀ : State} {i j : Inputs}

def rawRetires (s : State) (i : Inputs) : Bool :=
  retires s i && frontendRaw s.loc.frontend && !(ctrlWord s i).polyCtrl

/-- The foreign registers are clean after this cycle: an interrupt entry, or the retirement of an x86
PENTER or PRESTORE. -/
def cleanPoint (s : State) (i : Inputs) : Bool :=
  entersX86 s i ||
    (retires s i && s.loc.frontend == frontendX86 && (ctrlWord s i).polyCtrl &&
      ((ctrlWord s i).subop == x86CtrlPenterMode ||
        (ctrlWord s i).subop == x86CtrlPrestore))

def spillsHeaderOnly (s : State) (i : Inputs) : Bool := (cycle s i).core.interruptSpillHeaderOnly

def escapeCleans (s : State) (i : Inputs) : Bool :=
  s.regs.polyStateDirty && s.loc.frontend == frontendAarch64 && (ctrlWord s i).polyCtrl &&
    (ctrlWord s i).subop == FrontendHandoff.aarch64CtrlX86Escape && retireReady s i

/-! ## One cycle -/

theorem subop_eq (h : Inv s) (hr : retires s i) (hp : (ctrlWord s i).polyCtrl) :
    (cycle s i).core.subop = (ctrlWord s i).subop := by
  have ht := retired h hr
  have hpc : (cycle s i).core.gate.polyCtrl := (polyCtrl_eq h hr).trans hp
  rw [subop, FrontendPredecodedRetire.subop, if_pos hpc,
    subopI_eq h ht.valid ht.arrived]

theorem rawInsnValid_eq (h : Inv s) (hr : retires s i) :
    (cycle s i).core.rawInsnValid = frontendRaw s.loc.frontend := by
  have ht := retired h hr
  rw [(sidebands h ht.valid).rawInsn, ht.arrived, Bool.true_and, RawInsnDecode.rawInsnValid,
    RawInsnDecode.aarch64Valid, RawInsnDecode.riscvValid, rawWord, frontendRaw]
  cases s.loc.frontend == frontendAarch64 <;> cases s.loc.frontend == frontendRiscv <;> rfl

theorem dirty_set (h : Inv s) (hb : rawRetires s i) :
    (machine.step s i).regs.polyStateDirty := by
  simp only [rawRetires, Bool.and_eq_true, Bool.not_eq_true'] at hb
  obtain ⟨⟨hr, hraw⟩, hp⟩ := hb
  have hret : (cycle s i).core.retire := hr
  have hpc : (cycle s i).core.polyCtrl = false := (polyCtrl_eq h hr).trans hp
  have hent : (cycle s i).core.interruptClearStateDirty = false :=
    (interruptEnterX86_eq h).trans (retired h hr).noInterrupt
  have hclear : (cycle s i).core.polyStateDirtyClear = false := by
    rw [polyStateDirtyClear, hent, hpc, Bool.and_false, Bool.false_and]
    rfl
  have hset : (cycle s i).core.polyStateDirtySet := by
    rw [polyStateDirtySet, hret, rawInsnValid_eq h hr, hraw, hpc]
    rfl
  show (cycle s i).core.nextPolyStateDirty = true
  rw [nextPolyStateDirty, hclear, hset]
  rfl

/-- The only raw control word that retires with a sub-operation of the clear condition is the AArch64
escape. -/
theorem escape_of_raw (h : Inv s) (hr : retires s i) (hp : (ctrlWord s i).polyCtrl)
    (hx : s.loc.frontend ≠ frontendX86)
    (hsub : (ctrlWord s i).subop = x86CtrlPenterMode ∨
      (ctrlWord s i).subop = x86CtrlPrestore) :
    s.loc.frontend = frontendAarch64 ∧
      (ctrlWord s i).subop = FrontendHandoff.aarch64CtrlX86Escape := by
  have hl := handoff_live h (steps_of_retire hr) hp
  have hrec : ctrlOpOf s i ≠ none := hl.recognized (retired h hr).handoff
  rw [ctrlOpOf] at hrec
  rcases frontendValid_iff.mp h.frontend with hf | hf | hf
  · exact absurd hf hx
  · rcases hsub with hs | hs
    · rw [hf, hs] at hrec
      exact absurd (by decide) hrec
    · exact ⟨hf, hs⟩
  · rcases hsub with hs | hs <;> rw [hf, hs] at hrec <;> exact absurd (by decide) hrec

theorem dirty_keep (h : Inv s) (hd : s.regs.polyStateDirty) (hm : cleanPoint s i = false)
    (hc : escapeCleans s i = false) : (machine.step s i).regs.polyStateDirty := by
  rw [cleanPoint, Bool.or_eq_false_iff] at hm
  obtain ⟨hent, hx86⟩ := hm
  have hclear : (cycle s i).core.polyStateDirtyClear = false := by
    have hent' : (cycle s i).core.interruptClearStateDirty = false := hent
    rw [polyStateDirtyClear, hent', Bool.false_or]
    cases hr : (cycle s i).core.retire
    · rfl
    · rw [polyCtrl_eq h hr]
      cases hp : (ctrlWord s i).polyCtrl
      · rfl
      · rw [subop_eq h hr hp, Bool.true_and, Bool.true_and]
        cases hsub : ((ctrlWord s i).subop == x86CtrlPenterMode ||
          (ctrlWord s i).subop == x86CtrlPrestore)
        · rfl
        · -- In x86 this is a clean point; in a raw frontend only the escape retires.
          exfalso
          have hr' : retires s i := hr
          have hx : s.loc.frontend ≠ frontendX86 := fun hx => by
            simp [hr', hx, hp, hsub] at hx86
          obtain ⟨hf, hs⟩ := escape_of_raw h hr' hp hx (by simpa using hsub)
          rw [escapeCleans, hd, hf, hp, hs, ← retire_eq h, hr] at hc
          cases hc
  show (cycle s i).core.nextPolyStateDirty = true
  rw [nextPolyStateDirty, hclear]
  show (if _ then _ else if (cycle s i).core.polyStateDirtySet then true
    else s.regs.polyStateDirty) = true
  rw [hd]
  simp

/-- In a run from reset in which no AArch64 escape to x86 retires while the dirty bit is set, an
interrupt entry that spills the header only finds no raw instruction retired since the last clean
point. -/
theorem header_only_sound {is : List Inputs} (h₀ : machine.reset s₀)
    (hc : ∀ c ∈ machine.cycles s₀ is, escapeCleans c.1 c.2 = false)
    (hspill : spillsHeaderOnly (machine.run s₀ is) j = true) :
    Hw.NoneSince (fun c : State × Inputs => rawRetires c.1 c.2 = true)
      (fun c => cleanPoint c.1 c.2 = true) (machine.cycles s₀ is) := by
  have hinv : ∀ c ∈ machine.cycles s₀ is, Inv c.1 := fun c hmem =>
    inv_reach ((Hw.Machine.Reach.init h₀).of_mem_cycles hmem)
  have hclean : (machine.run s₀ is).regs.polyStateDirty = false := by
    rw [spillsHeaderOnly, interruptSpillHeaderOnly, InterruptBoundary.spillHeaderOnly,
      Bool.and_eq_true, Bool.not_eq_true'] at hspill
    exact hspill.2
  exact Hw.Machine.flag_noneSince (M := machine) (fun s => s.regs.polyStateDirty)
    (fun c hmem hb => dirty_set (hinv c hmem) hb)
    (fun c hmem hd hm => dirty_keep (hinv c hmem) hd (by simpa using hm) (hc c hmem)) hclean

def movzCycle : Inputs :=
  { valid := true
    rawMemRespValid := true
    rawMemRespWord := 0x52800000#32 }

/-- A modified raw context is interrupted (a full spill), restored and interrupted again. -/
theorem header_only_sound_restored :
    spillsHeaderOnly
        (machine.run State.reset [aarch64Init, movzCycle, interruptCycle,
          { userReturnCycle with userReturnPc := 0x4004#64 }]) interruptCycle = true ∧
      Hw.NoneSince (fun c : State × Inputs => rawRetires c.1 c.2 = true)
        (fun c => cleanPoint c.1 c.2 = true)
        (machine.cycles State.reset [aarch64Init, movzCycle, interruptCycle,
          { userReturnCycle with userReturnPc := 0x4004#64 }]) :=
  have hs : spillsHeaderOnly
      (machine.run State.reset [aarch64Init, movzCycle, interruptCycle,
        { userReturnCycle with userReturnPc := 0x4004#64 }]) interruptCycle = true := by decide
  ⟨hs, header_only_sound State.reset_isReset (by decide) hs⟩

def escapeCycle : Inputs :=
  { valid := true
    rawMemRespValid := true
    rawMemRespWord := 0xd5032e1f#32
    targetPc := 0x1000#64 }

def pswitchCycle : Inputs :=
  { valid := true
    x86FetchValid := true
    x86FetchWord := 0x04fc3a0f#32
    targetFrontend := frontendAarch64
    targetPc := 0x4008#64 }

/-- AArch64 code modifies a register, escapes to x86 and is switched back: the next interrupt spills
the header only, with no clean point after the `movz`. -/
theorem escape_cleans_modified_state :
    let is := [aarch64Init, movzCycle, escapeCycle, pswitchCycle]
    machine.reset State.reset ∧
      (machine.run State.reset is).loc = ⟨frontendAarch64, 0x4008#64⟩ ∧
      spillsHeaderOnly (machine.run State.reset is) interruptCycle = true ∧
      ¬ Hw.NoneSince (fun c : State × Inputs => rawRetires c.1 c.2 = true)
        (fun c => cleanPoint c.1 c.2 = true) (machine.cycles State.reset is) := by
  refine ⟨State.reset_isReset, by decide, by decide, fun hn => ?_⟩
  obtain ⟨m, hm, hclean⟩ := hn [(State.reset, aarch64Init)]
    (machine.run State.reset [aarch64Init], movzCycle)
    [(machine.run State.reset [aarch64Init, movzCycle], escapeCycle),
      (machine.run State.reset [aarch64Init, movzCycle, escapeCycle], pswitchCycle)] rfl (by decide)
  have hno : ∀ m ∈ [(machine.run State.reset [aarch64Init, movzCycle], escapeCycle),
      (machine.run State.reset [aarch64Init, movzCycle, escapeCycle], pswitchCycle)],
      cleanPoint m.1 m.2 = false := by decide
  exact absurd hclean (by simp [hno m hm])

end Poly
