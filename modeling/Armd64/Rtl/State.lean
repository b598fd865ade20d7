import Armd64.Rtl.Basic

/-!
# The architectural frontend/pc register (`poly_frontend_state`)

The register takes the location of at most one request a cycle, and only if there is no fault, no
stall, no second request, and the location is one that can be executed.
-/

namespace Poly

inductive RedirectReason
  | none
  | init
  | commit
  | interrupt
  | return
  | trap
  | trapReturn
  deriving DecidableEq, Repr

/-- The ports and the register `loc` of `poly_frontend_state`; a `*_frontend_i` and a `*_pc_i` port
are one location. -/
structure FrontendState where
  loc : Loc
  init : Bool
  initLoc : Loc
  commit : Bool
  commitLoc : Loc
  interruptRestore : Bool
  interruptLoc : Loc
  returnResume : Bool
  returnLoc : Loc
  trapVector : Bool
  trapLoc : Loc
  trapReturn : Bool
  trapReturnLoc : Loc
  fault : Bool
  stall : Bool

namespace FrontendState

variable (q : FrontendState)

def multipleRequests : Bool :=
  (q.commit && q.interruptRestore) || (q.commit && q.returnResume) || (q.commit && q.trapVector) ||
    (q.commit && q.trapReturn) || (q.interruptRestore && q.returnResume) ||
    (q.interruptRestore && q.trapVector) || (q.interruptRestore && q.trapReturn) ||
    (q.returnResume && q.trapVector) || (q.returnResume && q.trapReturn) ||
    (q.trapVector && q.trapReturn)

def conflict : Bool := !q.init && q.multipleRequests

def selectedLoc : Loc :=
  if q.init then q.initLoc
  else if q.returnResume then q.returnLoc
  else if q.interruptRestore then q.interruptLoc
  else if q.trapVector then q.trapLoc
  else if q.trapReturn then q.trapReturnLoc
  else if q.commit then q.commitLoc
  else q.loc

def selectedReason : RedirectReason :=
  if q.init then .init
  else if q.returnResume then .return
  else if q.interruptRestore then .interrupt
  else if q.trapVector then .trap
  else if q.trapReturn then .trapReturn
  else if q.commit then .commit
  else .none

def requestValid : Bool :=
  q.init || q.commit || q.interruptRestore || q.returnResume || q.trapVector || q.trapReturn

def invalidFrontend : Bool :=
  q.requestValid && !q.conflict && !frontendValid q.selectedLoc.frontend

def invalidPc : Bool :=
  q.requestValid && !q.conflict &&
    (!canonical64 q.selectedLoc.pc || !frontendAligned q.selectedLoc.frontend q.selectedLoc.pc)

def error : Bool := q.conflict || q.invalidFrontend || q.invalidPc

def update : Bool := q.requestValid && !q.fault && !q.stall && !q.error

def hold : Bool := !q.update

def redirectValid : Bool := q.update

def redirectLoc : Loc := if q.update then q.selectedLoc else q.loc

def redirectReason : RedirectReason := if q.update then q.selectedReason else .none

def next : Loc := if q.update then q.selectedLoc else q.loc

/-! ## What moves the register -/

variable {q}

theorem error_eq_false_iff (h : q.requestValid) :
    q.error = false ↔ q.conflict = false ∧ q.selectedLoc.ok := by
  cases hc : q.conflict <;> simp [error, invalidFrontend, invalidPc, h, hc, Loc.ok_iff]

theorem update_iff :
    q.update ↔ q.requestValid ∧ q.fault = false ∧ q.stall = false ∧
      q.conflict = false ∧ q.selectedLoc.ok := by
  cases h : q.requestValid
  · simp [update, h]
  · simp [update, h, error_eq_false_iff h, and_assoc]

theorem next_of_update (h : q.update) : q.next = q.selectedLoc := if_pos h

theorem next_of_hold (h : q.update = false) : q.next = q.loc := if_neg (by simp [h])

theorem next_ok (h : q.loc.ok) : q.next.ok := by
  cases hu : q.update
  · rw [next_of_hold hu, h]
  · rw [next_of_update hu, (update_iff.mp hu).2.2.2.2]

theorem next_eq_iff {l : Loc} (h : q.update → q.selectedLoc = l) :
    q.next = l ↔ q.loc = l ∨ q.update := by
  cases hu : q.update
  · simp [next_of_hold hu]
  · simp [next_of_update hu, h hu]

theorem interruptRestore_of_reason (h : q.redirectReason = .interrupt) :
    q.interruptRestore := by
  cases hn : q.interruptRestore
  · simp only [redirectReason, selectedReason, hn] at h
    grind
  · rfl

/-! ## A single request

Without an init, the register follows a request exactly when no other request stands beside it. -/

section

variable (hi : q.init = false)

include hi

theorem update_of_return (h : q.returnResume) :
    q.update ↔ q.fault = false ∧ q.stall = false ∧ q.commit = false ∧
      q.interruptRestore = false ∧ q.trapVector = false ∧ q.trapReturn = false ∧
      q.returnLoc.ok := by
  have hloc : q.selectedLoc = q.returnLoc := by simp [selectedLoc, hi, h]
  simp [update_iff, requestValid, conflict, multipleRequests, hi, h, hloc]
  grind

theorem update_of_interrupt (h : q.interruptRestore) :
    q.update ↔ q.fault = false ∧ q.stall = false ∧ q.commit = false ∧
      q.returnResume = false ∧ q.trapVector = false ∧ q.trapReturn = false ∧
      q.interruptLoc.ok := by
  have hloc : q.returnResume = false → q.selectedLoc = q.interruptLoc := fun hr => by
    simp [selectedLoc, hi, h, hr]
  simp [update_iff, requestValid, conflict, multipleRequests, hi, h]
  grind

theorem update_of_trapVector (h : q.trapVector) :
    q.update ↔ q.fault = false ∧ q.stall = false ∧ q.commit = false ∧
      q.interruptRestore = false ∧ q.returnResume = false ∧ q.trapReturn = false ∧
      q.trapLoc.ok := by
  have hloc : q.returnResume = false → q.interruptRestore = false → q.selectedLoc = q.trapLoc :=
    fun hr hn => by simp [selectedLoc, hi, h, hr, hn]
  simp [update_iff, requestValid, conflict, multipleRequests, hi, h]
  grind

theorem update_of_retire (h : q.commit = !q.trapReturn) :
    q.update ↔ q.fault = false ∧ q.stall = false ∧ q.interruptRestore = false ∧
      q.returnResume = false ∧ q.trapVector = false ∧
      (if q.trapReturn then q.trapReturnLoc else q.commitLoc).ok := by
  have hs : q.returnResume = false → q.interruptRestore = false → q.trapVector = false →
      q.selectedLoc = if q.trapReturn then q.trapReturnLoc else q.commitLoc := fun hr hn hv => by
    cases ht : q.trapReturn <;> simp [selectedLoc, hi, h, hr, hn, hv, ht]
  cases ht : q.trapReturn <;>
    simp [update_iff, requestValid, conflict, multipleRequests, hi, h, ht, and_assoc] <;> grind

theorem selectedLoc_of_return (h : q.returnResume) : q.selectedLoc = q.returnLoc := by
  simp [selectedLoc, hi, h]

theorem selectedLoc_of_interrupt (h : q.interruptRestore) (hu : q.update) :
    q.selectedLoc = q.interruptLoc := by
  obtain ⟨-, -, -, hr, -⟩ := (update_of_interrupt hi h).mp hu
  simp [selectedLoc, hi, h, hr]

theorem selectedLoc_of_trapVector (h : q.trapVector) (hu : q.update) :
    q.selectedLoc = q.trapLoc := by
  obtain ⟨-, -, -, hn, hr, -⟩ := (update_of_trapVector hi h).mp hu
  simp [selectedLoc, hi, h, hr, hn]

theorem selectedLoc_of_retire (h : q.commit = !q.trapReturn) (hu : q.update) :
    q.selectedLoc = if q.trapReturn then q.trapReturnLoc else q.commitLoc := by
  obtain ⟨-, -, hn, hr, hv, -⟩ := (update_of_retire hi h).mp hu
  cases ht : q.trapReturn <;> simp [selectedLoc, hi, h, hr, hn, hv, ht]

end

end FrontendState

end Poly
