import Armd64.Rtl.Retire
import Armd64.Spec.Control

/-!
# The retirement gate

What a cycle of `poly_frontend_predecoded_retire` can end in, and what a retired control word has
passed.
-/

namespace Poly

inductive Outcome
  | waitFetch | waitExecute | waitRetire | retire | fault
  deriving DecidableEq, Repr

namespace FrontendPredecodedRetire

variable {r : FrontendPredecodedRetire}

def pending (r : FrontendPredecodedRetire) : Bool :=
  r.olderFaultI || r.fetchFaultI || r.executeFaultI

structure Steps (r : FrontendPredecodedRetire) : Prop where
  valid : r.valid = true
  fetchValid : r.fetchValid = true
  decodeValid : r.decodeValid = true
  executeReady : r.executeReady = true
  trapReturn : r.trapReturnDecode = true → r.trapReturnRestoreValid = true
  unblocked : r.blockRetire = false
  noFault : r.pending = false

theorem stepValid_iff : r.stepValid ↔ r.Steps := by
  constructor
  · intro h
    simp only [stepValid, Bool.and_eq_true, Bool.not_eq_true', Bool.or_eq_true] at h
    obtain ⟨⟨⟨⟨⟨⟨⟨⟨hv, hf⟩, hd⟩, he⟩, ht⟩, hb⟩, h1⟩, h2⟩, h3⟩ := h
    exact ⟨hv, hf, hd, he, fun h => ht.resolve_left (by simp [h]), hb, by simp [pending, h1, h2, h3]⟩
  · rintro ⟨hv, hf, hd, he, ht, hb, hn⟩
    simp only [pending, Bool.or_eq_false_iff] at hn
    cases hr : r.trapReturnDecode
    · simp [stepValid, hv, hf, hd, he, hr, hb, hn]
    · simp [stepValid, hv, hf, hd, he, hr, ht hr, hb, hn]

theorem retire_iff : r.retire ↔ r.Steps ∧ r.frontendHandoff.error = false := by
  simp [retire, stepValid_iff]

theorem Steps.waitFetch (h : r.Steps) : r.waitFetch = false := by
  simp [FrontendPredecodedRetire.waitFetch, h.fetchValid]

theorem Steps.waitExecute (h : r.Steps) : r.waitExecute = false := by
  have ht := h.trapReturn
  cases hr : r.trapReturnDecode <;>
    simp_all [FrontendPredecodedRetire.waitExecute, h.executeReady]

theorem fault_of_retire (h : r.retire) : r.fault = false := by
  obtain ⟨hs, he⟩ := retire_iff.mp h
  have hn := hs.noFault
  simp only [pending, Bool.or_eq_false_iff] at hn
  simp [fault, olderFault, fetchFault, executeFault, controlFault, hn, he]

theorem retire_of_block (h : r.blockRetire) : r.retire = false := by
  simp [retire, stepValid, h]

theorem fault_of_block (h : r.blockRetire) : r.fault = (r.valid && r.pending) := by
  cases hv : r.valid <;> cases h1 : r.olderFaultI <;> cases h2 : r.fetchFaultI <;>
    cases h3 : r.executeFaultI <;>
      simp [fault, olderFault, fetchFault, executeFault, controlFault, stepValid, pending, *]

theorem stall_of_block (h : r.blockRetire) :
    r.waitFetch = false ∧ r.waitExecute = false := by
  simp [waitFetch, waitExecute, h]

theorem quiet (h : r.valid = false) :
    r.fault = false ∧ r.waitFetch = false ∧ r.waitExecute = false ∧ r.retire = false := by
  simp [fault, olderFault, fetchFault, executeFault, controlFault, stepValid, waitFetch, waitExecute,
    retire, h]

theorem commit_of_fault (h : r.fault) :
    r.faultPc = r.pc ∧ r.commitTransition = false ∧ r.commitPushTransition = false ∧
      r.trapReturnRetire = false ∧ r.commitFrontend = r.frontend ∧ r.commitPc = r.pc := by
  have hretire : r.retire = false := by
    rw [← Bool.not_eq_true]
    intro hr
    rw [fault_of_retire hr] at h
    cases h
  simp [faultPc, commitTransition, commitPushTransition, trapReturnRetire, commitFrontend, commitPc,
    h, hretire]

/-- The decoded instruction can be executed: its operands are there, and a trap return has its
location. -/
def ready (r : FrontendPredecodedRetire) : Bool :=
  r.executeReady && (!r.trapReturnDecode || r.trapReturnRestoreValid)

/-- The outcome of a valid cycle: pending faults, then the block, the fetch and the execution, and
last the handoff of a control word. -/
def outcomeOf (r : FrontendPredecodedRetire) : Outcome :=
  if r.pending then .fault
  else if r.blockRetire then .waitRetire
  else if !r.fetchValid then .waitFetch
  else if !r.ready then .waitExecute
  else if r.frontendHandoff.error then .fault
  else .retire

def asserts (r : FrontendPredecodedRetire) : Outcome → Bool
  | .waitFetch => r.waitFetch
  | .waitExecute => r.waitExecute
  | .waitRetire => r.waitRetire
  | .retire => r.retire
  | .fault => r.fault

section

variable (hv : r.valid = true)

include hv

theorem waitFetch_eq :
    r.waitFetch = (!r.pending && !r.blockRetire && !r.fetchValid) := by
  rw [waitFetch, pending, hv]
  grind

theorem waitRetire_eq : r.waitRetire = (!r.pending && r.blockRetire) := by
  rw [waitRetire, pending, hv]
  grind

theorem pendingFault_eq : (r.olderFault || r.fetchFault || r.executeFault) = r.pending := by
  rw [olderFault, fetchFault, executeFault, pending, hv]
  grind

variable (hd : r.fetchValid = true → r.decodeValid = true)

include hd

theorem waitExecute_eq :
    r.waitExecute = (!r.pending && !r.blockRetire && r.fetchValid && !r.ready) := by
  rw [waitExecute, pending, ready, hv]
  cases hf : r.fetchValid with
  | false => simp
  | true =>
    rw [hd hf]
    simp only [Bool.true_and, Bool.and_true, Bool.not_or, Bool.not_and, Bool.not_not]
    ac_rfl

theorem stepValid_eq :
    r.stepValid = (!r.pending && !r.blockRetire && r.fetchValid && r.ready) := by
  rw [stepValid, pending, ready, hv]
  cases hf : r.fetchValid with
  | false => simp
  | true =>
    rw [hd hf]
    simp only [Bool.true_and, Bool.and_true, Bool.not_or]
    ac_rfl

theorem asserts_eq (o : Outcome) : r.asserts o = decide (o = r.outcomeOf) := by
  have hfault : r.fault = (r.pending || (r.stepValid && r.frontendHandoff.error)) := by
    rw [fault, pendingFault_eq hv, controlFault]
  unfold outcomeOf
  cases o with
  | waitFetch => rw [asserts, waitFetch_eq hv]; grind
  | waitExecute => rw [asserts, waitExecute_eq hv hd]; grind
  | waitRetire => rw [asserts, waitRetire_eq hv]; grind
  | retire => rw [asserts, retire, stepValid_eq hv hd]; grind
  | fault => rw [asserts, hfault, stepValid_eq hv hd]; grind

theorem asserts_outcomeOf : r.asserts r.outcomeOf := by
  rw [asserts_eq hv hd, decide_eq_true rfl]

end

theorem outcome (hv : r.valid) (hb : r.blockRetire = false)
    (hd : r.fetchValid → r.decodeValid) :
    r.fault ∨ r.waitFetch ∨ r.waitExecute ∨ r.retire := by
  have ha := asserts_outcomeOf hv hd
  cases ho : r.outcomeOf with
  | fault => rw [ho] at ha; exact .inl ha
  | waitFetch => rw [ho] at ha; exact .inr (.inl ha)
  | waitExecute => rw [ho] at ha; exact .inr (.inr (.inl ha))
  | retire => rw [ho] at ha; exact .inr (.inr (.inr ha))
  | waitRetire =>
    rw [ho, asserts, waitRetire_eq hv, hb, Bool.and_false] at ha
    cases ha

theorem isTrapReturn_eq {f : BitVec 2} (hf : frontendValid f) (op : BitVec 7) :
    isTrapReturn f op = decide (ctrlOp f op = some .trapReturn) := by
  rcases frontendValid_iff.mp hf with rfl | rfl | rfl
  · exact (FrontendHandoff.x86_table op).2.2.1
  · exact (FrontendHandoff.aarch64_table op).2.2.1
  · exact (FrontendHandoff.riscv_table op).2.2.1

end FrontendPredecodedRetire

namespace FrontendHandoff

variable {h : FrontendHandoff} {o : Option CtrlOp}

/-- A handoff of a control word at a known frontend that follows the table. -/
structure Live (h : FrontendHandoff) (o : Option CtrlOp) : Prop where
  decodes : h.decodes = true
  ops : h.Ops o

theorem Live.valid (hl : h.Live o) :
    h.valid ∧ h.polyCtrl ∧ h.currentFrontendValid := by
  have hd := hl.decodes
  simp only [FrontendHandoff.decodes, Bool.and_eq_true] at hd
  exact ⟨hd.1.1, hd.1.2, hd.2⟩

def target (h : FrontendHandoff) : Loc := ⟨h.effectiveTargetFrontend, h.targetPc⟩

def accepts (h : FrontendHandoff) : Option CtrlOp → Bool
  | none => false
  | some .trapReturn => true
  | some .call =>
    h.target.ok && (plainCall h.currentFrontend h.subop || h.signatureSlotValid) &&
      !h.transitionStackFullI
  | some .switch | some .escape | some .landing => h.target.ok

theorem Live.target_checks (hl : h.Live o) (ht : h.targetChecked) :
    (h.invalidFrontend || h.noncanonicalTarget || h.targetAlignFault) = !h.target.ok := by
  obtain ⟨hv, hp, hc⟩ := hl.valid
  have hf : frontendValid h.effectiveTargetFrontend =
      (h.targetFrontendValid || h.targetIsX86Escape) := by
    rw [effectiveTargetFrontend]
    cases h.targetIsX86Escape <;> simp [targetFrontendValid]
  have hi : h.invalidFrontend = !frontendValid h.effectiveTargetFrontend := by
    simp [invalidFrontend, hv, hp, hc, ht, hf]
  cases h1 : frontendValid h.effectiveTargetFrontend <;> cases h2 : canonical64 h.targetPc <;>
    simp [noncanonicalTarget, targetAlignFault, hv, hp, ht, hi, h1, h2, target, Loc.ok]

theorem Live.error_eq (hl : h.Live o) : h.error = !h.accepts o := by
  obtain ⟨hv, hp, hc⟩ := hl.valid
  obtain ⟨hsw, hca, htr, hla, -, hsig⟩ := hl.ops
  have hrec : h.invalidSubop = decide (o = none) := by
    rcases o with _ | op
    · simp [invalidSubop, opRecognized, hv, hp, hc, hsw, hca, htr, hla]
    · cases op <;> simp [invalidSubop, opRecognized, hsw, hca, htr, hla]
  have hslot : h.invalidSignatureSlot =
      (decide (o = some .call) && !plainCall h.currentFrontend h.subop && !h.signatureSlotValid) := by
    rw [invalidSignatureSlot, hv, hp, hsig]
    rfl
  have hfull : h.transitionStackFull = (decide (o = some .call) && h.transitionStackFullI) := by
    rw [transitionStackFull, hv, hp, hca]
    rfl
  have horder : h.error = ((h.invalidFrontend || h.noncanonicalTarget || h.targetAlignFault) ||
      h.invalidSubop || h.invalidSignatureSlot || h.transitionStackFull) := by
    rw [error]
    cases h.invalidSubop <;> simp
  have hcheck : h.targetChecked = decide (o ≠ none ∧ o ≠ some .trapReturn) := by
    rcases o with _ | op
    · simp [targetChecked, hsw, hca, hla]
    · cases op <;> simp [targetChecked, hsw, hca, hla]
  rw [horder, hrec, hslot, hfull]
  rcases o with _ | op
  · simp [accepts]
  · cases op with
    | trapReturn =>
      have hi : h.invalidFrontend = false := by simp [invalidFrontend, hc, hcheck]
      simp [accepts, hi, noncanonicalTarget, targetAlignFault, hcheck]
    | switch | escape | landing | call =>
      rw [hl.target_checks (by rw [hcheck]; decide)]
      simp [accepts, Bool.or_assoc]

theorem Live.accepts (hl : h.Live o) (he : h.error = false) : h.accepts o := by
  simpa [hl.error_eq] using he

theorem Live.recognized (hl : h.Live o) (he : h.error = false) : o ≠ none := by
  rintro rfl
  cases hl.accepts he

theorem Live.call_facts (hl : h.Live (some .call)) (he : h.error = false) :
    h.target.ok ∧ h.transitionStackFullI = false := by
  have ha := hl.accepts he
  simp only [FrontendHandoff.accepts, Bool.and_eq_true, Bool.not_eq_true'] at ha
  exact ⟨ha.1.1, ha.2⟩

theorem Live.transition_eq (hl : h.Live o) (he : h.error = false) :
    h.transition = decide (o = some .switch ∨ o = some .escape ∨ o = some .call) := by
  obtain ⟨hv, hp, -⟩ := hl.valid
  simp [transition, hv, hp, he, hl.ops.switch, hl.ops.call, Bool.or_assoc]

theorem Live.pushTransition_eq (hl : h.Live o) (he : h.error = false) :
    h.pushTransition = decide (o = some .call) := by
  obtain ⟨hv, hp, -⟩ := hl.valid
  simp [pushTransition, hv, hp, he, hl.ops.call]

end FrontendHandoff

end Poly
