import Armd64.Polyexec.Signals

/-!
# Deliveries of signals

The loop over the pending signals takes the lowest one that is not blocked and has a handler, and
drops the lower ones that are not blocked and have none (`Selects`). A delivery enters the handler
if there is a stack for it (`SignalArch.entry`).
-/

namespace Poly.Polyexec

variable {host : SignalHost} {t : SignalThread}

/-! ## The pending mask -/

def Pending (pending : BitVec 32) (signum : Nat) : Prop :=
  1 ≤ signum ∧ pending.getLsbD (signum - 1) = true
  deriving Decidable

theorem pendingBit_eq_twoPow (signum : Nat) :
    pendingBit signum = BitVec.twoPow 32 (signum - 1) := rfl

variable {signum : Nat} {pending : BitVec 32}

theorem and_pendingBit_ne_zero (h1 : 1 ≤ signum) :
    pending &&& pendingBit signum ≠ 0 ↔ Pending pending signum := by
  rw [pendingBit_eq_twoPow, BitVec.and_twoPow, Pending, and_iff_right h1]
  by_cases h : pending.getLsbD (signum - 1) = true
  · have hlt : signum - 1 < 32 := BitVec.lt_of_getLsbD h
    rw [if_pos h]
    refine iff_of_true (fun hzero => ?_) h
    have hbit := congrArg (·.getLsbD (signum - 1)) hzero
    simp [hlt] at hbit
  · simp [h]

theorem pending_clear_iff {other : Nat} (h : 1 ≤ other) :
    Pending (pending &&& ~~~pendingBit other) signum ↔ Pending pending signum ∧ signum ≠ other := by
  unfold Pending
  rw [pendingBit_eq_twoPow, BitVec.getLsbD_and, Bool.and_eq_true, ← and_assoc]
  refine and_congr_right fun hp => ?_
  have hlt : signum - 1 < 32 := BitVec.lt_of_getLsbD hp.2
  simp [hlt]
  omega

/-! ## Selection -/

/-- A pending signal that is not blocked and has a handler, in the mask `pending`. -/
structure Waits (host : SignalHost) (mode : BitVec 32) (t : SignalThread) (pending : BitVec 32)
    (signum : Nat) : Prop where
  pending : Pending pending signum
  unblocked : polyGuestSignalMaskBlocks t signum = false
  deliverable : (polyGuestSignalActionDeliverable host mode t signum).isSome = true

/-- A signal that the loop drops if it is pending: it is not blocked, and has no handler. -/
structure Unhandled (host : SignalHost) (mode : BitVec 32) (t : SignalThread) (signum : Nat) :
    Prop where
  unblocked : polyGuestSignalMaskBlocks t signum = false
  undeliverable : polyGuestSignalActionDeliverable host mode t signum = none

/-- What the loop over the candidates `cs` does. -/
structure Selects (host : SignalHost) (mode : BitVec 32) (t : SignalThread) (cs : List Nat)
    (pending : BitVec 32) (r : BitVec 32 × Option SelectedSignal) : Prop where
  waits : ∀ sig, r.2 = some sig → sig.signum ∈ cs ∧ Waits host mode t pending sig.signum
  action : ∀ sig, r.2 = some sig →
    polyGuestSignalActionDeliverable host mode t sig.signum = some sig.action
  lowest : ∀ signum ∈ cs, (∀ sig, r.2 = some sig → signum < sig.signum) →
    ¬Waits host mode t pending signum
  pending : ∀ signum, Pending r.1 signum ↔ Pending pending signum ∧
    ¬(signum ∈ cs ∧ Unhandled host mode t signum ∧ ∀ sig, r.2 = some sig → signum < sig.signum)

section

variable {mode : BitVec 32} {cs : List Nat} {c : Nat} {r : BitVec 32 × Option SelectedSignal}
  {sig : SelectedSignal}

/-- A candidate that is not pending, or blocked, is passed over. -/
theorem Selects.skip (h : Selects host mode t cs pending r)
    (hc : ¬(Pending pending c ∧ polyGuestSignalMaskBlocks t c = false)) :
    Selects host mode t (c :: cs) pending r where
  waits sig hsig := ⟨List.mem_cons_of_mem c (h.waits sig hsig).1, (h.waits sig hsig).2⟩
  action := h.action
  lowest := List.forall_mem_cons.mpr ⟨fun _ hw => hc ⟨hw.pending, hw.unblocked⟩, h.lowest⟩
  pending signum := by
    rw [h.pending]
    refine and_congr_right fun hp => not_congr (and_congr_left fun hun => ?_)
    rw [List.mem_cons, or_iff_right]
    rintro rfl
    exact hc ⟨hp, hun.1.unblocked⟩

/-- A candidate that waits, and has no lower one that does, is selected with its action. -/
theorem Selects.eq_some (h : Selects host mode t cs pending r) (hmem : sig.signum ∈ cs)
    (hw : Waits host mode t pending sig.signum)
    (hlowest : ∀ signum < sig.signum, ¬Waits host mode t pending signum)
    (haction : polyGuestSignalActionDeliverable host mode t sig.signum = some sig.action) :
    r.2 = some sig := by
  cases hr : r.2 with
  | none => exact absurd hw (h.lowest _ hmem fun _ hsig => by cases hr.symm.trans hsig)
  | some sig' =>
    have hnum : sig'.signum = sig.signum := by
      refine Nat.le_antisymm (Nat.le_of_not_lt fun hlt => ?_) (Nat.le_of_not_lt fun hlt => ?_)
      · refine h.lowest _ hmem (fun s hsig => ?_) hw
        rwa [← Option.some.inj (hr.symm.trans hsig)]
      · exact hlowest _ hlt (h.waits sig' hr).2
    have haction' := h.action sig' hr
    rw [hnum, haction] at haction'
    cases sig
    cases sig'
    cases hnum
    cases haction'
    rfl

theorem selectPending_selects (hcs : ∀ c ∈ cs, 1 ≤ c) (hsorted : cs.Pairwise (· < ·))
    (pending : BitVec 32) :
    Selects host mode t cs pending (selectPending host mode t cs pending) := by
  induction cs generalizing pending with
  | nil =>
    exact ⟨fun _ h => (by cases h), fun _ h => (by cases h), fun _ h => (by cases h),
      fun _ => by simp [selectPending]⟩
  | cons c cs ih =>
    obtain ⟨hc, hcs⟩ := List.forall_mem_cons.mp hcs
    obtain ⟨hlt, hsorted⟩ := List.pairwise_cons.mp hsorted
    replace ih := ih hcs hsorted
    rw [selectPending]
    split
    · next hbit => exact (ih pending).skip fun h => (and_pendingBit_ne_zero hc).mpr h.1 hbit
    split
    · next hblock => exact (ih pending).skip fun h => by simp [h.2] at hblock
    next hbit hblock =>
    replace hbit := (and_pendingBit_ne_zero hc).mp hbit
    replace hblock : polyGuestSignalMaskBlocks t c = false := by simpa using hblock
    split
    · next action haction =>
      have hmin : ∀ signum ∈ c :: cs, ¬signum < c :=
        List.forall_mem_cons.mpr ⟨Nat.lt_irrefl c, fun s hs => Nat.lt_asymm (hlt s hs)⟩
      refine ⟨fun sig h => ?_, fun sig h => ?_, fun signum hmem hlow => ?_, fun signum => ?_⟩
      · cases h
        exact ⟨List.mem_cons_self, hbit, hblock, Option.isSome_of_eq_some haction⟩
      · cases h
        exact haction
      · exact absurd (hlow _ rfl) (hmin signum hmem)
      · exact (and_iff_left fun hno => hmin signum hno.1 (hno.2.2 _ rfl)).symm
    · -- the candidate is dropped
      next hnone =>
      have h := ih (pending &&& ~~~pendingBit c)
      refine ⟨fun sig hsig => ?_, h.action, fun signum hmem hlow hw => ?_, fun signum => ?_⟩
      · obtain ⟨hmem, hw⟩ := h.waits sig hsig
        exact ⟨List.mem_cons_of_mem c hmem, ((pending_clear_iff hc).mp hw.pending).1, hw.unblocked,
          hw.deliverable⟩
      · have hne : signum ≠ c := by
          rintro rfl
          simpa [hnone] using hw.deliverable
        exact h.lowest signum ((List.mem_cons.mp hmem).resolve_left hne) hlow
          ⟨(pending_clear_iff hc).mpr ⟨hw.pending, hne⟩, hw.unblocked, hw.deliverable⟩
      · rw [h.pending, pending_clear_iff hc, and_assoc]
        refine and_congr_right fun _ => ?_
        by_cases hne : signum = c
        · subst hne
          refine iff_of_false (fun hno => hno.1 rfl) fun hno => hno ?_
          exact ⟨List.mem_cons_self, ⟨hblock, hnone⟩, fun sig hsig => hlt _ (h.waits sig hsig).1⟩
        · simp [hne]

theorem mem_candidates : signum ∈ (List.range 31).map (· + 1) ↔ 1 ≤ signum ∧ signum ≤ 31 := by
  simp only [List.mem_map, List.mem_range]
  exact ⟨by omega, fun h => ⟨signum - 1, by omega, by omega⟩⟩

theorem candidates_select (pending : BitVec 32) : Selects host mode t ((List.range 31).map (· + 1))
    pending (selectPending host mode t ((List.range 31).map (· + 1)) pending) :=
  selectPending_selects (fun _ hc => (mem_candidates.mp hc).1) (by decide) pending

section

variable (h : (selectSignal host mode 0 t).2 = some sig)

include h

theorem selectSignal_selects : Selects host mode t ((List.range 31).map (· + 1)) t.pending
    (selectSignal host mode 0 t) := by
  rw [selectSignal, if_neg (fun h => h rfl)] at h ⊢
  split at h
  · cases h
  · next hmode =>
    rw [if_neg hmode]
    exact candidates_select t.pending

theorem selectSignal_selected : Waits host mode t t.pending sig.signum :=
  ((selectSignal_selects h).waits sig h).2

theorem mem_of_lt_selected (h1 : 1 ≤ signum) (hlow : signum < sig.signum) :
    signum ∈ (List.range 31).map (· + 1) := by
  have hmem := ((selectSignal_selects h).waits sig h).1
  rw [mem_candidates] at hmem ⊢
  omega

theorem selectSignal_lowest (hlow : signum < sig.signum) :
    ¬Waits host mode t t.pending signum := fun hw =>
  (selectSignal_selects h).lowest signum (mem_of_lt_selected h hw.pending.1 hlow)
    (fun _ hsig => Option.some.inj (h.symm.trans hsig) ▸ hlow) hw

theorem selectSignal_pending : Pending (selectSignal host mode 0 t).1 signum ↔
      Pending t.pending signum ∧ ¬(signum < sig.signum ∧ Unhandled host mode t signum) := by
  rw [(selectSignal_selects h).pending, h]
  refine and_congr_right fun hp => not_congr ?_
  constructor
  · exact fun ⟨_, hun, hlow⟩ => ⟨hlow sig rfl, hun⟩
  · rintro ⟨hlow, hun⟩
    refine ⟨mem_of_lt_selected h hp.1 hlow, hun, fun sig' hsig => ?_⟩
    cases hsig
    exact hlow

end

variable {forcedSignum : Nat}

theorem selectSignal_kept (hp : Pending t.pending signum) (hn : ¬Unhandled host mode t signum) :
    Pending (selectSignal host mode forcedSignum t).1 signum := by
  rw [selectSignal]
  split
  · split <;> exact hp
  · split
    · exact hp
    · exact ((candidates_select t.pending).pending signum).mpr ⟨hp, fun h => hn h.2.1⟩

theorem selectSignal_forced (hf : forcedSignum ≠ 0) :
    (selectSignal host mode forcedSignum t).1 = t.pending := by
  rw [selectSignal, if_pos hf]
  split <;> rfl

end

/-! ## Handlers -/

/-- The handler that a delivery enters: its signal, and where its stack is. -/
structure HandlerEntry where
  sig : SelectedSignal
  signalSp : BitVec 64
  alt : Bool

namespace SignalArch

variable {μ σ : Type} {A : SignalArch μ σ} {forcedSignum : Nat}
  {faultAddress faultCode x86Rsp : BitVec 64} {e : HandlerEntry} {sig : SelectedSignal}

def stackFor (A : SignalArch μ σ) (host : SignalHost) (forcedSignum : Nat) (t : SignalThread)
    (sig : SelectedSignal) : SignalStack :=
  signalStack host (A.signals t) sig forcedSignum (A.sp (A.saved t.state).gpr)
    (signalTotalSize A.frameSize)

def entry (A : SignalArch μ σ) (host : SignalHost) (forcedSignum : Nat) (t : SignalThread) :
    Option HandlerEntry :=
  if (A.signals t).activeFrame ≠ 0 then none
  else
    match (selectSignal host A.mode forcedSignum t).2 with
    | none => none
    | some sig =>
      match A.stackFor host forcedSignum t sig with
      | .at signalSp alt => some ⟨sig, signalSp, alt⟩
      | _ => none

def entered (A : SignalArch μ σ) (host : SignalHost) (forcedSignum : Nat)
    (faultAddress faultCode x86Rsp : BitVec 64) (e : HandlerEntry) (t : SignalThread) :
    SignalThread :=
  let t := { t with pending := (selectSignal host A.mode forcedSignum t).1 }
  A.enterHandler forcedSignum e.sig e.signalSp
    (A.signalFrame host forcedSignum faultAddress faultCode x86Rsp e.sig e.signalSp e.alt t) t

section

variable (h : A.entry host forcedSignum t = some e)

include h

theorem entry_inv : (A.signals t).activeFrame = 0 ∧
      (selectSignal host A.mode forcedSignum t).2 = some e.sig ∧
      A.stackFor host forcedSignum t e.sig = .at e.signalSp e.alt := by
  unfold entry at h
  split at h
  · cases h
  · next hidle =>
    split at h
    · cases h
    · next sig hsig =>
      split at h
      · next signalSp alt hs =>
        cases h
        exact ⟨not_not.mp hidle, hsig, hs⟩
      · cases h

theorem entry_deliverable : 1 ≤ e.sig.signum ∧
      (polyGuestSignalActionDeliverable host A.mode t e.sig.signum).isSome := by
  have hsel := (entry_inv h).2.1
  by_cases hf : forcedSignum = 0
  · subst hf
    have hw := selectSignal_selected hsel
    exact ⟨hw.pending.1, hw.deliverable⟩
  · rw [selectSignal, if_pos hf] at hsel
    split at hsel
    · cases hsel
    · obtain ⟨action, haction, heq⟩ := Option.map_eq_some_iff.mp hsel
      rw [← heq, haction]
      exact ⟨Nat.one_le_iff_ne_zero.mpr hf, rfl⟩

theorem entry_signum : 1 ≤ e.sig.signum ∧ e.sig.signum < signalActionCount := by
  obtain ⟨h1, hsome⟩ := entry_deliverable h
  refine ⟨h1, Nat.lt_of_not_le fun hle => ?_⟩
  rw [polyGuestSignalActionDeliverable, if_pos (.inl hle)] at hsome
  cases hsome

theorem entry_valid : (t.actions e.sig.signum).1 := by
  obtain ⟨-, hsome⟩ := entry_deliverable h
  refine Bool.of_not_eq_false fun hinvalid => ?_
  rw [polyGuestSignalActionDeliverable, if_pos (.inr hinvalid)] at hsome
  cases hsome

end

/-- What the exits need of an architecture: how it marks the active frame. -/
structure Marks (A : SignalArch μ σ) : Prop where
  active : ∀ a t, (A.signals (A.withActiveFrame a t)).activeFrame = a
  pending : ∀ t p, A.signals { t with pending := p } = A.signals t

/-- The exits of a delivery that enters no handler, and the thread that each of them leaves. -/
inductive NoEntry (A : SignalArch μ σ) (host : SignalHost) (forcedSignum : Nat) (t : SignalThread) :
    SignalThread → Prop
  | active (h : (A.signals t).activeFrame ≠ 0) : NoEntry A host forcedSignum t t
  | noStack (h : ∀ sig, (selectSignal host A.mode forcedSignum t).2 = some sig →
      A.stackFor host forcedSignum t sig = .unavailable) :
      NoEntry A host forcedSignum t
        { t with pending := (selectSignal host A.mode forcedSignum t).1 }
  | suppressed {sig : SelectedSignal} (hidle : (A.signals t).activeFrame = 0)
      (h : (selectSignal host A.mode forcedSignum t).2 = some sig)
      (hs : A.stackFor host forcedSignum t sig = .suppressed) :
      NoEntry A host forcedSignum t
        { t with
          pending := (selectSignal host A.mode forcedSignum t).1 &&& ~~~pendingBit sig.signum }

section

variable (hA : A.Marks)

include hA

theorem tryDeliver_of_entry (h : A.entry host forcedSignum t = some e) :
    A.tryDeliver host forcedSignum faultAddress faultCode x86Rsp t =
      deriveHandler host (handlerDescriptor A.mode e.sig e.signalSp)
        (A.entered host forcedSignum faultAddress faultCode x86Rsp e t) := by
  obtain ⟨hidle, hsig, hs⟩ := entry_inv h
  unfold tryDeliver
  rw [if_neg (not_not.mpr hidle)]
  dsimp only
  rw [hsig]
  dsimp only
  rw [hA.pending, ← stackFor, hs]
  rfl

theorem tryDeliver_noEntry (h : A.entry host forcedSignum t = none) :
    ∃ t', A.tryDeliver host forcedSignum faultAddress faultCode x86Rsp t = (false, t') ∧
      A.NoEntry host forcedSignum t t' := by
  unfold entry at h
  unfold tryDeliver
  split at h
  · next hactive =>
    rw [if_pos hactive]
    exact ⟨t, rfl, .active hactive⟩
  · next hidle =>
    rw [if_neg hidle]
    dsimp only
    cases hsel : (selectSignal host A.mode forcedSignum t).2 with
    | none => exact ⟨_, rfl, .noStack fun sig hsig => by cases hsel.symm.trans hsig⟩
    | some sig =>
      rw [hsel] at h
      dsimp only at h ⊢
      rw [hA.pending, ← stackFor]
      cases hs : A.stackFor host forcedSignum t sig with
      | unavailable =>
        refine ⟨_, rfl, .noStack fun sig' hsig => ?_⟩
        cases hsel.symm.trans hsig
        exact hs
      | suppressed => exact ⟨_, rfl, .suppressed (not_not.mp hidle) hsel hs⟩
      | «at» signalSp alt =>
        rw [hs] at h
        cases h

end

theorem forced_of_suppressed (h : A.stackFor host forcedSignum t sig = .suppressed) :
    forcedSignum = 0 := by
  by_contra hforced
  unfold stackFor signalStack at h
  grind

end SignalArch

theorem deriveHandler_eq (desc : DeriveDescriptor) :
    ∃ s, (deriveHandler host desc t).2 = { t with state := s } := by
  rw [deriveHandler]
  split
  · exact ⟨t.state, rfl⟩
  · exact ⟨_, rfl⟩

theorem aarch64Signals_marks : aarch64Signals.Marks := ⟨fun _ _ => rfl, fun _ _ => rfl⟩

theorem riscvSignals_marks : riscvSignals.Marks := ⟨fun _ _ => rfl, fun _ _ => rfl⟩

end Poly.Polyexec
