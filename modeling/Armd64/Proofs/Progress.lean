import Armd64.Proofs.Transition

/-!
# Retirement moves the pc

The retirement gate does not see whether the frontend/pc register will accept the successor. An
instruction that retires beside a return to the cookie, or whose successor is not executable, leaves
the register where it is and retires again in the next cycle.
-/

namespace Poly

def retires (s : State) (i : Inputs) : Bool := (cycle s i).core.retire

def enqueuesStore (s : State) (i : Inputs) : Bool := (cycle s i).core.memoryEnqueueStore

def updates (s : State) (i : Inputs) : Bool := (cycle s i).stateUpdate

/-- A retirement in this cycle moves the register: no init and no return take the cycle, and the
successor is executable. -/
def retireMoves (s : State) (i : Inputs) : Bool :=
  !i.init && !cookieReturn s i && (successor s i).ok

variable {s : State} {i : Inputs}

theorem updates_of_retires (h : Inv s) (hm : retireMoves s i) (hr : retires s i) :
    updates s i := by
  simp only [retireMoves, Bool.and_eq_true, Bool.not_eq_true'] at hm
  exact (stateUpdate_of_retire h hm.1.1 hr).mpr ⟨hm.1.2, hm.2⟩

theorem retires_of_enqueuesStore (he : enqueuesStore s i) : retires s i := by
  rw [enqueuesStore, FrontendCore.memoryEnqueueStore, Bool.and_eq_true] at he
  exact he.1

/-- A retirement moves the register to the successor exactly when no return to the cookie takes the
cycle and the successor is executable. In a run whose retirements all do, two retirements, and two
enqueued stores, are never of one dynamic instruction. -/
theorem retire_moves_iff (s : State) (h : machine.Reach s) :
    (∀ i, i.init = false → retires s i = true →
      (updates s i = true ∧ (machine.step s i).loc = successor s i ↔
        cookieReturn s i = false ∧ (successor s i).ok = true)) ∧
    (∀ is, (∀ c ∈ machine.cycles s is, retires c.1 c.2 = true → retireMoves c.1 c.2 = true) →
      machine.Separated retires updates s is ∧ machine.Separated enqueuesStore updates s is) := by
  refine ⟨fun i hi hr => ?_, fun is hm => ?_⟩
  · have hinv := inv_reach h
    rw [← stateUpdate_of_retire hinv hi hr]
    exact ⟨fun hu => hu.1, fun hu => ⟨hu, loc_of_retire hinv hi hr hu⟩⟩
  · have hu : ∀ c ∈ machine.cycles s is, retires c.1 c.2 = true → updates c.1 c.2 = true :=
      fun c hc hr => updates_of_retires (inv_reach (h.of_mem_cycles hc)) (hm c hc hr) hr
    exact ⟨Hw.Machine.separated_of_moves hu, Hw.Machine.separated_of_moves fun c hc he =>
      hu c hc (retires_of_enqueuesStore he)⟩

def x86Cycle : Inputs :=
  { valid := true
    x86FetchValid := true
    x86FetchWord := 0x90909090#32
    x86FallthroughPc := 3#64 }

theorem retire_moves_iff_x86 :
    retires State.reset x86Cycle = true ∧
      (machine.step State.reset x86Cycle).loc = ⟨frontendX86, 3⟩ :=
  have hr : retires State.reset x86Cycle = true := by decide
  ⟨hr, ((((retire_moves_iff _ reach_reset).1 _ (by decide) hr).mpr (by decide)).2).trans (by decide)⟩

/-- Start of AArch64 code in the last word below the canonical hole. -/
def lastWordInit : Inputs :=
  { init := true
    initFrontend := frontendAarch64
    initPc := 0x7ffffffffffc#64 }

def storeCycle : Inputs :=
  { valid := true
    rawMemRespValid := true
    rawMemRespWord := 0xf9000000#32
    rawMemoryResolved := true }

/-- A store in the last word below the canonical hole is enqueued in every cycle: its successor is
not canonical, so the register never moves. -/
theorem store_retires_twice :
    let s := machine.run State.reset [lastWordInit]
    machine.Reach s ∧ storeCycle.init = false ∧ s.loc = ⟨frontendAarch64, 0x7ffffffffffc#64⟩ ∧
      retires s storeCycle = true ∧ enqueuesStore s storeCycle = true ∧
      updates s storeCycle = false ∧
      (machine.step s storeCycle).loc = s.loc ∧
      retires (machine.step s storeCycle) storeCycle = true ∧
      enqueuesStore (machine.step s storeCycle) storeCycle = true :=
  ⟨reach_reset.run [lastWordInit], by decide⟩

end Poly
