import Armd64.Proofs.FpgaTop

/-!
# Retired memory operations

A raw load, store or atomic retires in the top only with a checked data request, an answer to it and
its place in the store order. The core takes the flags of an external memory operation without
asking whether they are valid, though: beside a raw load, a store flag that belongs to no operation
enqueues a store.
-/

namespace Poly

/-! ## Requests -/

namespace RawDataMemRequest

/-- The bytes that a request asks for: a power of two, canonical, without a wraparound, and aligned
for an atomic access. -/
structure Geometry (q : RawDataMemRequest) : Prop where
  width : ∃ n < 4, q.accessBytes.toNat = 2 ^ n
  first : canonical64 q.addr = true
  last : canonical64 (q.addr + (q.accessBytes.setWidth 64 - 1#64)) = true
  inRange : q.addr.toNat + q.accessBytes.toNat ≤ 2 ^ 64
  aligned : q.atomic = true → q.accessBytes.toNat ∣ q.addr.toNat

variable {q : RawDataMemRequest}

theorem width_of_validWidth (h : q.validWidth) :
    ∃ n < 4, q.accessBytes = BitVec.ofNat 4 (2 ^ n) := by
  simp only [validWidth, Bool.or_eq_true, beq_iff_eq] at h
  rcases h with ((h | h) | h) | h
  · exact ⟨0, by decide, h⟩
  · exact ⟨1, by decide, h⟩
  · exact ⟨2, by decide, h⟩
  · exact ⟨3, by decide, h⟩

theorem dvd_of_naturallyAligned {addr : BitVec 64} {n : Nat} (hn : n < 4)
    (h : naturallyAligned addr (BitVec.ofNat 4 (2 ^ n))) : 2 ^ n ∣ addr.toNat := by
  have hlow (k : Nat) (hk : addr.extractLsb' 0 k = 0#k) : 2 ^ k ∣ addr.toNat := by
    have hmod := congrArg BitVec.toNat hk
    exact Nat.dvd_of_mod_eq_zero hmod
  obtain rfl | rfl | rfl | rfl : n = 0 ∨ n = 1 ∨ n = 2 ∨ n = 3 := by omega
  · exact Nat.one_dvd _
  · refine hlow 1 (BitVec.eq_of_getLsbD_eq fun i hi => ?_)
    obtain rfl : i = 0 := by omega
    have hbit : addr.getLsbD 0 = false := beq_iff_eq.mp h
    simpa using hbit
  · exact hlow 2 (beq_iff_eq.mp h)
  · exact hlow 3 (beq_iff_eq.mp h)

theorem geometry_of_valid (h : q.requestValid) : q.Geometry := by
  rw [requestValid, Bool.and_eq_true, Bool.and_eq_true, Bool.not_eq_true'] at h
  obtain ⟨⟨hv, hf⟩, he⟩ := h
  simp only [error, Bool.or_eq_false_iff] at he
  obtain ⟨⟨⟨⟨⟨-, hop⟩, hw⟩, hc⟩, ha⟩, hr⟩ := he
  have hone : q.oneOp := by simpa [invalidOp, hv, hf] using hop
  have hwidth : q.validWidth := by simpa [invalidWidth, hv, hf, hone] using hw
  have hcan : canonical64 q.addr ∧ canonical64 q.requestLastAddr := by
    simpa [noncanonicalAddr, hv, hf, hone, hwidth] using hc
  have hrange : q.requestLastAddr.ult q.addr = false := by
    simpa [rangeFault, hv, hf, hone, hwidth] using hr
  have hlast : q.requestLastAddr = q.addr + (q.accessBytes.setWidth 64 - 1#64) := by
    rw [requestLastAddr, lastOffset, if_pos hwidth]
  obtain ⟨n, hn, hbytes⟩ := width_of_validWidth hwidth
  have hnat : q.accessBytes.toNat = 2 ^ n := by
    rw [hbytes, BitVec.toNat_ofNat]
    exact Nat.mod_eq_of_lt (Nat.pow_lt_pow_right (by decide) hn)
  refine ⟨⟨n, hn, hnat⟩, hcan.1, hlast ▸ hcan.2, ?_, fun hat => ?_⟩
  · rw [hlast, BitVec.ult, decide_eq_false_iff_not, hbytes] at hrange
    all_goals
      simp at hrange ⊢
      omega
  · have hal : naturallyAligned q.addr q.accessBytes := by
      simpa [alignFault, hv, hf, hone, hwidth, hat] using ha
    rw [hnat]
    exact dvd_of_naturallyAligned hn (hbytes ▸ hal)

end RawDataMemRequest

/-! ## Retirement -/

section

variable (s : State) (t : TopInputs)

def topCore : FrontendCore := (topCycle s t).statefulCore.core

abbrev topWord : RawInsnDecode := rawWord s (topCycle s t).coreInputs

/-- The data access of the arrived instruction is complete and in order. -/
structure AccessComplete : Prop where
  request : (topCycle s t).rawDataMemRequest.requestValid = true
  kind : (topCycle s t).rawDataMemRequest.load = (topWord s t).memoryLoad ∧
    (topCycle s t).rawDataMemRequest.store = (topWord s t).memoryStore ∧
    (topCycle s t).rawDataMemRequest.atomic = (topWord s t).memoryAtomic
  geometry : (topCycle s t).rawDataMemRequest.Geometry
  answered : t.rawDataMemRespValid = true ∧ t.rawDataMemRespFault = false
  room : (topWord s t).memoryStore = true ∨ (topWord s t).memoryAtomic = true →
    t.pass.storeBufferFull = false
  order : (topWord s t).memoryAtomic = true → t.pass.olderStorePending = false

/-- Raw memory operations retire only complete and ordered, and a store is enqueued exactly when an
instruction retires with one: a raw store, or one that is flagged from outside. -/
structure MemoryRetires : Prop where
  complete : (topCore s t).retire = true →
    (topWord s t).memoryLoad = true ∨ (topWord s t).memoryStore = true ∨
      (topWord s t).memoryAtomic = true → AccessComplete s t
  enqueue : (topCore s t).memoryEnqueueStore = true ↔
    (topCore s t).retire = true ∧ ((topWord s t).memoryStore = true ∨
      (t.pass.memoryOrderValid = true ∧ t.pass.memoryStore = true))

/-- The store flag of no valid operation stands beside a raw memory operation or barrier that is no
store and is ready to retire. -/
def strayStore : Bool :=
  t.pass.memoryStore && !t.pass.memoryOrderValid && (topWord s t).memoryOrderValid &&
    !(topWord s t).memoryStore && retireReady s (topCycle s t).coreInputs

end

section

variable {s : State} {t : TopInputs} (h : Inv s) (hr : (topCore s t).retire = true)

include h hr

theorem topSidebands :
    (topCore s t).rawMemoryOrderValid = (topWord s t).memoryOrderValid ∧
      (topCore s t).rawMemoryLoad = (topWord s t).memoryLoad ∧
      (topCore s t).rawMemoryStore = (topWord s t).memoryStore ∧
      (topCore s t).rawMemoryAtomic = (topWord s t).memoryAtomic := by
  have hret := retired h hr
  have hside := sidebands h hret.valid
  have hdrop (b : Bool) : (arrived s (topCycle s t).coreInputs && b) = b := by
    rw [hret.arrived, Bool.true_and]
  exact ⟨hside.order.trans (hdrop _), hside.load.trans (hdrop _), hside.store.trans (hdrop _),
    hside.atomic.trans (hdrop _)⟩

theorem ready_of_topRetire : Ready s (topCycle s t).coreInputs :=
  (retireReady_iff.mp ((retire_eq h).symm.trans hr)).1

theorem resolved_of_retire (hacc : ((topWord s t).memoryLoad || (topWord s t).memoryStore ||
    (topWord s t).memoryAtomic)) :
    (topCycle s t).rawDataMemResponseStage.resolved := by
  have hready := ready_of_topRetire h hr
  have hfault : (topCycle s t).rawDataMemResponseStage.fault = false := by
    have hno := hready.noFault
    rw [faultPending, Bool.or_eq_false_iff, dataFails, hready.arrived, Bool.true_and,
      hacc, Bool.true_and] at hno
    exact hno.2
  have hwait := hready.noDataWait
  rw [dataWaits, hacc, Bool.true_and,
    show (topCycle s t).coreInputs.rawMemoryFault = false from hfault, Bool.not_false,
    Bool.and_true, Bool.not_eq_false'] at hwait
  exact hwait

theorem request_kind (hacc : ((topWord s t).memoryLoad || (topWord s t).memoryStore ||
    (topWord s t).memoryAtomic)) :
    (topCycle s t).rawDataMemRequest.load = (topWord s t).memoryLoad ∧
      (topCycle s t).rawDataMemRequest.store = (topWord s t).memoryStore ∧
      (topCycle s t).rawDataMemRequest.atomic = (topWord s t).memoryAtomic := by
  obtain ⟨ho, hl, hs, ha⟩ := topSidebands h hr
  have haccess : (topCore s t).rawMemoryAccess := by
    rw [FrontendCore.rawMemoryAccess, ho, hl, hs, ha, hacc, RawInsnDecode.memoryOrderValid_eq, hacc]
    rfl
  have hkind (b : Bool) : ((topCore s t).rawMemoryAccess && b) = b := by
    rw [haccess, Bool.true_and]
  exact ⟨(hkind _).trans hl, (hkind _).trans hs, (hkind _).trans ha⟩

theorem complete_of_retire (hacc : ((topWord s t).memoryLoad || (topWord s t).memoryStore ||
    (topWord s t).memoryAtomic)) : AccessComplete s t := by
  have hres := resolved_of_retire h hr hacc
  simp only [RawDataMemResponseStage.resolved, Bool.and_eq_true, Bool.not_eq_true'] at hres
  obtain ⟨⟨⟨⟨-, hreq⟩, hresp⟩, hnofault⟩, -⟩ := hres
  have hwaits := (ready_of_topRetire h hr).noMemoryWait
  have hvalid : (topWord s t).memoryOrderValid := by
    rw [RawInsnDecode.memoryOrderValid_eq, hacc]
    rfl
  rw [memoryWaits, hvalid, Bool.or_true, Bool.true_and, Bool.or_eq_false_iff,
    show (topCycle s t).coreInputs.storeBufferFull = t.pass.storeBufferFull from rfl,
    show (topCycle s t).coreInputs.olderStorePending = t.pass.olderStorePending from rfl] at hwaits
  refine ⟨hreq, request_kind h hr hacc, RawDataMemRequest.geometry_of_valid hreq,
    ⟨hresp, hnofault⟩, ?_, ?_⟩
  · rintro (hs | ha)
    · simpa [hs] using hwaits.1
    · simpa [ha] using hwaits.1
  · intro ha
    simpa [ha] using hwaits.2

theorem enqueue_of_retire :
    (topCore s t).memoryEnqueueStore =
      ((t.pass.memoryOrderValid || (topWord s t).memoryOrderValid) &&
        (t.pass.memoryStore || (topWord s t).memoryStore)) := by
  obtain ⟨ho, -, hs, -⟩ := topSidebands h hr
  have hready : (topCore s t).executeReady := (steps_of_retire hr).executeReady
  rw [FrontendCore.executeReady, Bool.and_eq_true, Bool.and_eq_true, Bool.or_eq_true,
    Bool.not_eq_true'] at hready
  have hallow : (topCore s t).memoryOrder.retireAllowed =
      (topCore s t).effectiveMemoryOrderValid := by
    rcases hready.1.1 with hno | hyes
    · rw [hno, MemoryOrder.retireAllowed,
        show (topCore s t).memoryOrder.valid = false from hno]
      rfl
    · have hv : (topCore s t).memoryOrder.retireAllowed := hyes
      rw [hv]
      rw [MemoryOrder.retireAllowed, Bool.and_eq_true, Bool.and_eq_true, Bool.and_eq_true] at hv
      exact hv.1.1.1.symm
  rw [FrontendCore.memoryEnqueueStore, hr, Bool.true_and, MemoryOrder.enqueueStore, hallow,
    FrontendCore.effectiveMemoryOrderValid, ho]
  show (_ && ((topCore s t).memoryStore || (topCore s t).rawMemoryStore)) = _
  rw [hs]
  rfl

end

/-- A cycle retires its memory operation as it should unless a stray store flag stands beside it. -/
theorem memoryRetires_iff {s : State} {t : TopInputs} (h : Inv s) :
    MemoryRetires s t ↔ strayStore s t = false := by
  have hready : (topCore s t).retire = retireReady s (topCycle s t).coreInputs := retire_eq h
  have hstore : (topWord s t).memoryStore → (topWord s t).memoryOrderValid :=
    fun hs => by rw [RawInsnDecode.memoryOrderValid_eq, hs]; simp
  constructor
  · intro hm
    rw [← Bool.not_eq_true]
    intro hstray
    simp only [strayStore, Bool.and_eq_true, Bool.not_eq_true', ← hready] at hstray
    obtain ⟨⟨⟨⟨hflag, hnot⟩, hraw⟩, hns⟩, hr⟩ := hstray
    have henq := hm.enqueue.mp (by rw [enqueue_of_retire h hr, hflag, hraw]; simp)
    rw [hns, hnot] at henq
    simp at henq
  · intro hstray
    refine ⟨fun hr hacc => complete_of_retire h hr (by simpa [or_assoc] using hacc), ?_⟩
    cases hr : (topCore s t).retire with
    | false => simp [FrontendCore.memoryEnqueueStore, hr]
    | true =>
      rw [strayStore, ← hready, hr] at hstray
      rw [enqueue_of_retire h hr]
      grind

/-- In every reachable state the memory operation of a cycle retires as it should unless the flag of
a store without a valid operation stands beside a raw operation that is no store. So in a run
without such flags every cycle does. -/
theorem memory_retires_iff (s : State) (h : topMachine.Reach s) :
    (∀ t, MemoryRetires s t ↔ strayStore s t = false) ∧
    ∀ ts, (∀ c ∈ topMachine.cycles s ts, strayStore c.1 c.2 = false) →
      ∀ c ∈ topMachine.cycles s ts, MemoryRetires c.1 c.2 := by
  refine ⟨fun t => memoryRetires_iff (inv_reach h.of_comap), fun ts hno c hc => ?_⟩
  exact (memoryRetires_iff (inv_reach (h.of_mem_cycles hc).of_comap)).mpr (hno c hc)

/-- A cycle in AArch64 code with an answered data access, and with or without a store flag. -/
def dataCycle (w : BitVec 32) (flag : Bool) : TopInputs :=
  { pass := { valid := true, memoryStore := flag }
    instrRespValid := true
    instrRespFrontend := frontendAarch64
    instrRespWord := w
    rawDataMemAddr := 0x8000
    rawDataMemRespValid := true }

/-- `str x0, [x1]` retires with its store. -/
theorem memory_retires_iff_str :
    let s := topMachine.step State.reset { pass := aarch64Init }
    (topCore s (dataCycle 0xf9000020 false)).retire = true ∧
      (topCore s (dataCycle 0xf9000020 false)).memoryEnqueueStore = true ∧
      MemoryRetires s (dataCycle 0xf9000020 false) :=
  ⟨by decide, by decide,
    ((memory_retires_iff _ (topReach_reset.next _)).1 _).mpr (by decide)⟩

/-- `ldr x0, [x1]` retires with a store beside it when the store flag of no operation is set. Beside
`add x0, x1, x2` it enqueues nothing. -/
theorem stray_flag_enqueues :
    let s := topMachine.step State.reset { pass := aarch64Init }
    let load := dataCycle 0xf9400020 true
    let add := dataCycle 0x8b020020 true
    topMachine.Reach s ∧ (topWord s load).memoryLoad = true ∧
      (topWord s load).memoryStore = false ∧ load.pass.memoryOrderValid = false ∧
      (topCore s load).retire = true ∧ (topCore s load).memoryEnqueueStore = true ∧
      ¬MemoryRetires s load ∧
      (topCore s add).retire = true ∧ (topCore s add).memoryEnqueueStore = false :=
  ⟨topReach_reset.next _, by decide, by decide, by decide, by decide, by decide,
    fun hm => absurd (hm.enqueue.mp (by decide)) (by decide), by decide, by decide⟩

end Poly
