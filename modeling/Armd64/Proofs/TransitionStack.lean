import Armd64.Lib.Machine
import Armd64.Rtl.TransitionStack

/-!
# The transition stack is a bounded list

`ListStack` is a stack of frames as a list, with the outputs of the cycle before. A push on a full
stack, a pop on an empty one and both at once are refused, with a flag. The registers follow the
list, request by request, so frames come back in reverse order (`reports_nested`).
-/

namespace Poly

/-- A stack as a list of frames, newest first, with what the last request has led to. -/
structure ListStack where
  frames : List Frame
  /-- The last request was a pop, and removed the last popped frame. -/
  popped : Bool
  lastPopped : Frame
  overflow : Bool
  underflow : Bool
  conflict : Bool

namespace ListStack

def reset : ListStack := ⟨[], false, default, false, false, false⟩

def step (n : Nat) (a : ListStack) (r : TransitionStackReq) : ListStack :=
  match r.push, r.pop with
  | true, true => ⟨a.frames, false, a.lastPopped, false, false, true⟩
  | true, false =>
    if a.frames.length = n then ⟨a.frames, false, a.lastPopped, true, false, false⟩
    else ⟨r.pushFrame :: a.frames, false, a.lastPopped, false, false, false⟩
  | false, true =>
    match a.frames with
    | [] => ⟨[], false, a.lastPopped, false, true, false⟩
    | f :: rest => ⟨rest, true, f, false, false, false⟩
  | false, false => ⟨a.frames, false, a.lastPopped, false, false, false⟩

end ListStack

namespace TransitionStack

variable {n : Nat}

def machine (n : Nat) : Hw.Machine (TransitionStack n) TransitionStackReq := ⟨IsReset, step⟩

structure Refines (t : TransitionStack n) (a : ListStack) : Prop where
  contents : t.contents = a.frames
  depth : t.depth.toNat = a.frames.length
  bounded : a.frames.length ≤ n
  empty : t.empty = a.frames.isEmpty
  full : t.full = (a.frames.length == n)
  peekValid : t.peekValid = a.frames.head?.isSome
  peekFrame : t.peekFrame = a.frames.head?.getD default
  popValid : t.popValid = a.popped
  popFrame : t.popFrame = a.lastPopped
  overflow : t.overflow = a.overflow
  underflow : t.underflow = a.underflow
  conflict : t.conflict = a.conflict

variable {t : TransitionStack n} {a : ListStack} {r : TransitionStackReq}

theorem refines_of_contents (hn : Sized n) (hwf : t.Wf) (hcontents : t.contents = a.frames)
    (houtputs : t.popValid = a.popped ∧ t.popFrame = a.lastPopped ∧ t.overflow = a.overflow ∧
      t.underflow = a.underflow ∧ t.conflict = a.conflict) : Refines t a := by
  obtain ⟨hvalid, hframe, hover, hunder, hconf⟩ := houtputs
  have hlen : t.depth.toNat = a.frames.length := by rw [← hcontents, contents_length hwf]
  have hempty : t.empty = a.frames.isEmpty := by
    rw [Bool.eq_iff_iff, empty_iff, hlen, List.isEmpty_iff, List.length_eq_zero_iff]
  refine ⟨hcontents, hlen, hlen ▸ hwf, hempty, ?_, ?_, ?_, hvalid, hframe, hover, hunder, hconf⟩
  · rw [Bool.eq_iff_iff, full_iff hn, hlen, beq_iff_eq]
  · rw [peekValid, hempty]
    cases a.frames <;> rfl
  · cases he : t.empty with
    | true =>
      rw [hempty, List.isEmpty_iff] at he
      simp [peekFrame, hempty, he]
    | false => rw [← hcontents, contents_eq_cons hwf he, List.head?_cons, Option.getD_some]

theorem Refines.step (hn : Sized n) (hwf : t.Wf) (h : Refines t a) :
    Refines (t.step r) (a.step n r) := by
  have hframe := h.popFrame
  rw [ListStack.step]
  cases hpush : r.push <;> cases hpop : r.pop
  · refine refines_of_contents hn (hwf.step hn) ?_ (by simp [TransitionStack.step, *])
    exact (contents_step_idle (by simp [hpush]) (by simp [hpop])).trans h.contents
  · cases hframes : a.frames with
    | nil =>
      have he : t.empty := by rw [h.empty, hframes]; rfl
      refine refines_of_contents hn (hwf.step hn) ?_ (by simp [TransitionStack.step, *])
      rw [contents_step_idle (by simp [hpush]) (by simp [he]), h.contents, hframes]
    | cons f rest =>
      have he : t.empty = false := by rw [h.empty, hframes]; rfl
      have hpeek : t.read t.topIndex = f := by
        have hframe := h.peekFrame
        rwa [TransitionStack.peekFrame, he, if_neg (by decide), hframes, List.head?_cons,
          Option.getD_some] at hframe
      refine refines_of_contents hn (hwf.step hn) ?_ (by simp [TransitionStack.step, *])
      rw [contents_step_pop hwf hpush hpop he, h.contents, hframes, List.tail_cons]
  · dsimp only
    split
    · rename_i hlen
      have hf : t.full := by rw [h.full, hlen, beq_self_eq_true]
      refine refines_of_contents hn (hwf.step hn) ?_ (by simp [TransitionStack.step, *])
      rw [contents_step_idle (by simp [hf]) (by simp [hpush]), h.contents]
    · rename_i hlen
      have hf : t.full = false := by rw [h.full, beq_eq_false_iff_ne.mpr hlen]
      refine refines_of_contents hn (hwf.step hn) ?_ (by simp [TransitionStack.step, *])
      rw [(contents_step_push hn hwf hpush hpop hf).1, h.contents]
  · refine refines_of_contents hn (hwf.step hn) ?_ (by simp [TransitionStack.step, *])
    exact (contents_step_idle (by simp [hpop]) (by simp [hpush])).trans h.contents

theorem refines_run (hn : Sized n) (hwf : t.Wf) (h : Refines t a) (reqs : List TransitionStackReq) :
    Refines ((machine n).run t reqs) (reqs.foldl (ListStack.step n) a) := by
  induction reqs generalizing t a with
  | nil => exact h
  | cons r reqs ih => exact ih (hwf.step hn) (h.step hn hwf)

theorem wf_of_isReset (h : t.IsReset) : t.Wf := by
  show t.depth.toNat ≤ n
  rw [h.1]
  exact Nat.zero_le n

theorem refines_reset (hn : Sized n) (h : t.IsReset) : Refines t ListStack.reset := by
  refine refines_of_contents hn (wf_of_isReset h) ?_ h.2
  rw [contents, h.1]
  rfl

/-! ## Nested frames -/

def reports (t : TransitionStack n) : List TransitionStackReq → List Frame
  | [] => []
  | r :: reqs =>
    (if (t.step r).popValid then [(t.step r).popFrame] else []) ++ reports (t.step r) reqs

def pushReq (f : Frame) : TransitionStackReq := ⟨true, f, false⟩

def popReq : TransitionStackReq := ⟨false, default, true⟩

theorem reports_pushes (hn : Sized n) (hwf : t.Wf) (h : Refines t a) (fs : List Frame)
    (hfit : a.frames.length + fs.length ≤ n) (rest : List TransitionStackReq) :
    ∃ t' : TransitionStack n, ∃ a', t'.Wf ∧ Refines t' a' ∧ a'.frames = fs.reverse ++ a.frames ∧
      reports t (fs.map pushReq ++ rest) = reports t' rest ∧
      (machine n).run t (fs.map pushReq ++ rest) = (machine n).run t' rest := by
  induction fs generalizing t a with
  | nil => exact ⟨t, a, hwf, h, rfl, rfl, rfl⟩
  | cons f fs ih =>
    rw [List.length_cons] at hfit
    have hstep := h.step (r := pushReq f) hn hwf
    have hframes : (a.step n (pushReq f)).frames = f :: a.frames := by
      rw [ListStack.step, pushReq]
      rw [if_neg (by omega)]
    have hquiet : (t.step (pushReq f)).popValid = false := by
      rw [hstep.popValid, ListStack.step, pushReq]
      rw [if_neg (by omega)]
    obtain ⟨t', a', hwf', h', hlist, hreports, hrun⟩ := ih (hwf.step hn) hstep (by
      rw [hframes, List.length_cons]
      omega)
    refine ⟨t', a', hwf', h', ?_, ?_, hrun⟩
    · rw [hlist, hframes, List.reverse_cons, List.append_assoc, List.singleton_append]
    · rw [List.map_cons, List.cons_append, reports, hquiet, if_neg (by decide), List.nil_append,
        hreports]

theorem reports_pops (hn : Sized n) (hwf : t.Wf) (h : Refines t a) {fs rest : List Frame}
    (hframes : a.frames = fs ++ rest) :
    reports t (List.replicate fs.length popReq) = fs ∧
      ((machine n).run t (List.replicate fs.length popReq)).contents = rest := by
  induction fs generalizing t a with
  | nil => exact ⟨rfl, h.contents.trans hframes⟩
  | cons f fs ih =>
    have hstep := h.step (r := popReq) hn hwf
    have hlist : a.step n popReq = ⟨fs ++ rest, true, f, false, false, false⟩ := by
      rw [ListStack.step, popReq, hframes]
      rfl
    rw [hlist] at hstep
    obtain ⟨hreports, hcontents⟩ := ih (hwf.step hn) hstep rfl
    rw [List.length_cons, List.replicate_succ]
    refine ⟨?_, hcontents⟩
    rw [reports, hstep.popValid, hstep.popFrame, hreports]
    rfl

theorem reports_nested (hn : Sized n) (hwf : t.Wf) (h : Refines t a) (fs : List Frame)
    (hfit : a.frames.length + fs.length ≤ n) :
    reports t (fs.map pushReq ++ List.replicate fs.length popReq) = fs.reverse ∧
      ((machine n).run t (fs.map pushReq ++ List.replicate fs.length popReq)).contents =
        t.contents := by
  obtain ⟨t', a', hwf', h', hlist, hreports, hrun⟩ :=
    reports_pushes hn hwf h fs hfit (List.replicate fs.length popReq)
  have hpops := reports_pops hn hwf' h' hlist
  rw [List.length_reverse] at hpops
  rw [hreports, hrun, h.contents]
  exact hpops

def Refused (t : TransitionStack n) (r : TransitionStackReq) : Prop :=
  (r.push = true ∧ r.pop = true) ∨ (r.push = true ∧ t.full = true) ∨
    (r.pop = true ∧ t.empty = true)

theorem step_of_refused (h : Refused t r) :
    (t.step r).slots = t.slots ∧ (t.step r).depth = t.depth ∧
      (t.step r).popFrame = t.popFrame := by
  unfold TransitionStack.step
  rcases h with ⟨hpush, hpop⟩ | ⟨hpush, hfull⟩ | ⟨hpop, hempty⟩
  · simp [hpush, hpop]
  · cases hpop : r.pop <;> simp [hpush, hfull]
  · cases hpush : r.push <;> cases hfull : t.full <;> simp [hpop, hempty]

/-- From reset the stack is a list of at most `n` frames: it follows the list through all requests,
a refused one writes only its flag, and nested frames come back in reverse order. -/
theorem transition_stack_refines (n : Nat) (hn : Sized n) (t₀ : TransitionStack n)
    (h₀ : t₀.IsReset) (reqs : List TransitionStackReq) :
    let t := (machine n).run t₀ reqs
    Refines t (reqs.foldl (ListStack.step n) ListStack.reset) ∧
      (∀ r, Refused t r → (t.step r).slots = t.slots ∧ (t.step r).depth = t.depth ∧
        (t.step r).popFrame = t.popFrame) ∧
      ∀ fs : List Frame, t.contents.length + fs.length ≤ n →
        reports t (fs.map pushReq ++ List.replicate fs.length popReq) = fs.reverse ∧
          ((machine n).run t (fs.map pushReq ++ List.replicate fs.length popReq)).contents =
            t.contents := by
  have hinv : (machine n).Inductive Wf := ⟨fun _ => wf_of_isReset, fun _ _ hwf => hwf.step hn⟩
  have hwf := hinv.run (wf_of_isReset h₀) reqs
  have hrefines := refines_run hn (wf_of_isReset h₀) (refines_reset hn h₀) reqs
  refine ⟨hrefines, fun _ => step_of_refused, fun fs hfit => ?_⟩
  rw [hrefines.contents] at hfit
  exact reports_nested hn hwf hrefines fs hfit

def emptyStack3 : TransitionStack 3 :=
  ⟨Vector.replicate 3 default, 0, false, default, false, false, false⟩

/-- A stack of three frames refuses a fourth; after two pops two frames are nested above the
first. -/
theorem transition_stack_refines_three :
    let f : Frame := ⟨frontendX86, 0x1000#64, 0x8000#64, 0#32⟩
    let g : Frame := ⟨frontendAarch64, 0x4004#64, 0x7f00#64, 1#32⟩
    let t := (machine 3).run emptyStack3 ([f, g, f, g].map pushReq ++ [popReq, popReq])
    Refines t ⟨[f], true, g, false, false, false⟩ ∧
      reports t [pushReq g, pushReq f, popReq, popReq] = [f, g] := by
  intro f g t
  have h := transition_stack_refines 3 ⟨by decide, by decide⟩ emptyStack3
    ⟨rfl, rfl, rfl, rfl, rfl, rfl⟩ ([f, g, f, g].map pushReq ++ [popReq, popReq])
  exact ⟨h.1, (h.2.2 [g, f] (by rw [h.1.contents]; decide)).1⟩

end TransitionStack

end Poly
