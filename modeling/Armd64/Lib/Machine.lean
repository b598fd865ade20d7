import Mathlib.Data.List.Induction
import Mathlib.Tactic.Common

/-!
# Synchronous machines, their runs and their histories

A clocked circuit is a machine: registers, the values they may hold after reset, and the values they
hold after one clock edge with given inputs. An output is a function of the registers and the inputs
of one cycle.

* `Machine.run`, `Machine.cycles`: the registers after an input sequence, and its cycles in order.
* `Machine.Reach`, `Machine.Inductive`: the values that are reached, and invariants of them.
* `Machine.comap`: a machine with a combinational circuit before its input ports.
* `Machine.run_simulates`: a run follows a path of abstract steps if each of its cycles does.
* `Machine.suffix_of_deep`: a stack keeps its lower part while it stays deep enough.
* `NoneSince bad mark cs`: no `bad` cycle is later than the last `mark` cycle.
* `Machine.Separated`: no two `fire` cycles see the same number of earlier `move` cycles.
-/

namespace Hw

/-- A synchronous machine: the register values after reset, and one clock edge. -/
structure Machine (σ ι : Type) where
  reset : σ → Prop
  step : σ → ι → σ

namespace Machine

variable {σ ι : Type} (M : Machine σ ι)

/-- The registers after the inputs `is`. -/
def run (s : σ) (is : List ι) : σ := is.foldl M.step s

/-- The cycles of the inputs `is` from `s`: the registers before each edge, with its inputs. -/
def cycles (s : σ) : List ι → List (σ × ι)
  | [] => []
  | i :: is => (s, i) :: cycles (M.step s i) is

/-- The register values that an input sequence reaches from reset. -/
def Reach (s : σ) : Prop := ∃ s₀ is, M.reset s₀ ∧ M.run s₀ is = s

/-- An inductive invariant: it holds after reset and every edge keeps it. -/
structure Inductive (I : σ → Prop) : Prop where
  reset : ∀ s, M.reset s → I s
  step : ∀ s i, I s → I (M.step s i)

/-- The machine with a combinational circuit before its input ports. -/
def comap {κ : Type} (f : σ → κ → ι) : Machine σ κ := ⟨M.reset, fun s k => M.step s (f s k)⟩

variable {M}

@[simp] theorem run_cons (s : σ) (i : ι) (is : List ι) :
    M.run s (i :: is) = M.run (M.step s i) is := rfl

theorem run_append (s : σ) (is js : List ι) : M.run s (is ++ js) = M.run (M.run s is) js :=
  List.foldl_append

@[simp] theorem cycles_nil (s : σ) : M.cycles s [] = [] := rfl

@[simp] theorem cycles_cons (s : σ) (i : ι) (is : List ι) :
    M.cycles s (i :: is) = (s, i) :: M.cycles (M.step s i) is := rfl

theorem cycles_append (s : σ) (is js : List ι) :
    M.cycles s (is ++ js) = M.cycles s is ++ M.cycles (M.run s is) js := by
  induction is generalizing s with
  | nil => rfl
  | cons i is ih => simp [ih]

variable {s : σ} {I P : σ → Prop} {is : List ι} {α ε : Type}

theorem Reach.init (h : M.reset s) : M.Reach s := ⟨s, [], h, rfl⟩

theorem Reach.run (h : M.Reach s) (is : List ι) : M.Reach (M.run s is) := by
  obtain ⟨s₀, js, h₀, rfl⟩ := h
  exact ⟨s₀, js ++ is, h₀, run_append s₀ js is⟩

theorem Reach.next (h : M.Reach s) (i : ι) : M.Reach (M.step s i) := h.run [i]

theorem Inductive.run (h : M.Inductive I) (hs : I s) (is : List ι) : I (M.run s is) := by
  induction is generalizing s with
  | nil => exact hs
  | cons i is ih => exact ih (h.step s i hs)

theorem Inductive.reach (h : M.Inductive I) (hs : M.Reach s) : I s := by
  obtain ⟨s₀, is, h₀, rfl⟩ := hs
  exact h.run (h.reset s₀ h₀) is

/-- The state of a cycle of a run is reachable if the start of the run is. -/
theorem Reach.of_mem_cycles (h : M.Reach s) {c : σ × ι} (hc : c ∈ M.cycles s is) : M.Reach c.1 := by
  induction is generalizing s with
  | nil => simp at hc
  | cons i is ih =>
    rcases List.mem_cons.mp hc with rfl | hc
    · exact h
    · exact ih (h.next i) hc

/-- What is reachable with a circuit before the input ports is reachable without it. -/
theorem Reach.of_comap {κ : Type} {f : σ → κ → ι} (h : (M.comap f).Reach s) : M.Reach s := by
  have hinv : (M.comap f).Inductive M.Reach :=
    ⟨fun _ h₀ => .init h₀, fun s k hs => hs.next (f s k)⟩
  exact hinv.reach h

theorem run_induction (h0 : P s) (hstep : ∀ c ∈ M.cycles s is, P c.1 → P (M.step c.1 c.2)) :
    P (M.run s is) := by
  induction is generalizing s with
  | nil => exact h0
  | cons i is ih =>
    refine ih (hstep (s, i) (by simp) h0) fun c hc => hstep c ?_
    exact List.mem_cons_of_mem _ hc

/-- A fact holds all through a run exactly if each cycle keeps it. The invariant `I` holds in any
case. -/
theorem throughout_iff {Q : σ × ι → Prop} (hkeep : ∀ s i, I s → I (M.step s i))
    (hstep : ∀ s i, I s → P s → (P (M.step s i) ↔ Q (s, i))) (hI : I s) (hP : P s) (is : List ι) :
    (∀ js, js <+: is → P (M.run s js)) ↔ ∀ c ∈ M.cycles s is, Q c := by
  induction is generalizing s with
  | nil =>
    refine iff_of_true (fun js hjs => ?_) (by simp)
    rw [List.prefix_nil.mp hjs]
    exact hP
  | cons i is ih =>
    rw [cycles_cons, List.forall_mem_cons, ← hstep s i hI hP]
    constructor
    · intro h
      have hnext : P (M.step s i) := h [i] ⟨is, rfl⟩
      refine ⟨hnext, (ih (hkeep s i hI) hnext).mp fun js hjs => ?_⟩
      exact h (i :: js) (List.cons_prefix_cons.mpr ⟨rfl, hjs⟩)
    · rintro ⟨hnext, hrest⟩ js hjs
      rcases List.prefix_cons_iff.mp hjs with rfl | ⟨js', rfl, hjs'⟩
      · exact hP
      · exact (ih (hkeep s i hI) hnext).mpr hrest js' hjs'

/-- A register that each edge writes or leaves alone holds the value of the last write. -/
theorem run_eq_lastWrite (reg : σ → α) (write : ι → Option α)
    (hstep : ∀ s i, reg (M.step s i) = (write i).getD (reg s)) (s : σ) (is : List ι) :
    reg (M.run s is) = (is.reverse.findSome? write).getD (reg s) := by
  induction is using List.reverseRecOn with
  | nil => rfl
  | append_singleton is i ih =>
    rw [run_append, List.reverse_append, List.reverse_singleton, List.singleton_append,
      List.findSome?_cons]
    refine (hstep _ i).trans ?_
    cases write i with
    | some a => rfl
    | none => exact ih

/-- A path of the labelled steps `R`. -/
def Path {α ε : Type} (R : ε → α → α → Prop) : List ε → α → α → Prop
  | [], a, b => a = b
  | e :: es, a, c => ∃ b, R e a b ∧ Path R es b c

theorem Path.append {R : ε → α → α → Prop} {es fs : List ε} {a b c : α} (h : Path R es a b)
    (h' : Path R fs b c) : Path R (es ++ fs) a c := by
  induction es generalizing a with
  | nil => exact (show a = b from h) ▸ h'
  | cons e es ih =>
    obtain ⟨a', he, hes⟩ := h
    exact ⟨a', he, ih hes⟩

/-- A run whose cycles each follow a path of abstract steps follows these paths one after another. -/
theorem run_simulates {R : ε → α → α → Prop} {A : σ → α → Prop} {E : σ × ι → List ε} {a : α}
    (h : A s a)
    (hstep : ∀ c ∈ M.cycles s is, ∀ a, A c.1 a →
      ∃ a', Path R (E c) a a' ∧ A (M.step c.1 c.2) a') :
    ∃ a', Path R ((M.cycles s is).flatMap E) a a' ∧ A (M.run s is) a' := by
  induction is generalizing s a with
  | nil => exact ⟨a, rfl, h⟩
  | cons i is ih =>
    obtain ⟨b, hb, hA⟩ := hstep (s, i) (by simp) a h
    obtain ⟨c, hc, hA'⟩ := ih hA fun c hc => hstep c (by simp [hc])
    exact ⟨c, hb.append hc, hA'⟩

/-- The lower part of a stack stays as it is while the stack is at least as deep. -/
theorem suffix_of_deep (stack : σ → List α) {base : List α}
    (hstep : ∀ c ∈ M.cycles s is, stack (M.step c.1 c.2) = stack c.1 ∨
      (∃ x, stack (M.step c.1 c.2) = x :: stack c.1) ∨
      stack (M.step c.1 c.2) = (stack c.1).tail)
    (hdeep : ∀ c ∈ M.cycles s is, base.length ≤ (stack (M.step c.1 c.2)).length)
    (h : base <:+ stack s) : base <:+ stack (M.run s is) := by
  refine M.run_induction (P := fun s => base <:+ stack s) h fun c hc hbase => ?_
  have hlen := hdeep c hc
  rcases hstep c hc with hsame | ⟨x, hpush⟩ | hpop
  · rwa [hsame]
  · rw [hpush]
    exact hbase.trans (List.suffix_cons x _)
  · rw [hpop] at hlen ⊢
    cases hst : stack c.1 with
    | nil => rwa [hst] at hbase
    | cons x xs =>
      rw [hst] at hbase hlen
      rcases List.suffix_cons_iff.mp hbase with rfl | hxs
      · rw [List.tail_cons, List.length_cons] at hlen
        omega
      · exact hxs

end Machine

/-! ## Histories -/

/-- In the history `cs` no `bad` cycle is later than the last `mark` cycle. -/
def NoneSince {κ : Type} (bad mark : κ → Prop) (cs : List κ) : Prop :=
  ∀ l c r, cs = l ++ c :: r → bad c → ∃ m ∈ r, mark m

section

variable {κ : Type} {bad mark : κ → Prop}

theorem noneSince_nil : NoneSince bad mark [] := fun l c r h => by simp at h

variable {cs : List κ} {c : κ}

theorem noneSince_of_mark (hm : mark c) (hb : ¬ bad c) : NoneSince bad mark (cs ++ [c]) := by
  intro l c' r h hbad
  rcases List.eq_nil_or_concat r with rfl | ⟨r', d, rfl⟩
  · obtain ⟨-, rfl⟩ : cs = l ∧ c = c' := by simpa using List.append_inj' h (by simp)
    exact absurd hbad hb
  · have h' : cs ++ [c] = (l ++ c' :: r') ++ [d] := by simpa using h
    obtain ⟨-, rfl⟩ : cs = l ++ c' :: r' ∧ c = d := by simpa using List.append_inj' h' (by simp)
    exact ⟨c, by simp, hm⟩

theorem NoneSince.snoc (h : NoneSince bad mark cs) (hb : ¬ bad c) :
    NoneSince bad mark (cs ++ [c]) := by
  intro l c' r hcs hbad
  rcases List.eq_nil_or_concat r with rfl | ⟨r', d, rfl⟩
  · obtain ⟨-, rfl⟩ : cs = l ∧ c = c' := by simpa using List.append_inj' hcs (by simp)
    exact absurd hbad hb
  · have h' : cs ++ [c] = (l ++ c' :: r') ++ [d] := by simpa using hcs
    obtain ⟨rfl, -⟩ : cs = l ++ c' :: r' ∧ c = d := by simpa using List.append_inj' h' (by simp)
    obtain ⟨m, hm, hmark⟩ := h l c' r' rfl hbad
    exact ⟨m, by simp [hm], hmark⟩

end

namespace Machine

variable {σ ι : Type} {M : Machine σ ι}

variable {is : List ι}

/-- A flip-flop that a `bad` cycle sets and only a `mark` clears: while it is clear, no `bad` cycle
is later than the last `mark`. -/
theorem flag_noneSince (flag : σ → Bool) {bad mark : σ × ι → Prop} {s₀ : σ}
    (hset : ∀ c ∈ M.cycles s₀ is, bad c → flag (M.step c.1 c.2))
    (hkeep : ∀ c ∈ M.cycles s₀ is, flag c.1 → ¬ mark c → flag (M.step c.1 c.2))
    (hf : flag (M.run s₀ is) = false) : NoneSince bad mark (M.cycles s₀ is) := by
  -- The induction is on the last cycle, so that the flag before it is known.
  induction is using List.reverseRecOn with
  | nil => exact noneSince_nil
  | append_singleton is i ih =>
    rw [cycles_append] at hset hkeep ⊢
    rw [run_append] at hf
    have hb : ¬ bad (M.run s₀ is, i) := fun hbad => by
      have := hset (M.run s₀ is, i) (by simp) hbad
      rw [show M.run (M.run s₀ is) [i] = M.step (M.run s₀ is) i from rfl, this] at hf
      cases hf
    by_cases hm : mark (M.run s₀ is, i)
    · exact noneSince_of_mark hm hb
    · refine NoneSince.snoc (ih (fun c hc => hset c (by simp [hc]))
        (fun c hc => hkeep c (by simp [hc])) ?_) hb
      cases hfl : flag (M.run s₀ is) with
      | false => rfl
      | true =>
        have := hkeep (M.run s₀ is, i) (by simp) hfl hm
        rw [show M.run (M.run s₀ is) [i] = M.step (M.run s₀ is) i from rfl, this] at hf
        cases hf

/-- Two `fire` cycles of the run never see the same number of earlier `move` cycles. -/
def Separated (M : Machine σ ι) (fire move : σ → ι → Bool) (s : σ) (is : List ι) : Prop :=
  ∀ l c m d r, M.cycles s is = l ++ c :: (m ++ d :: r) → fire c.1 c.2 = true →
    fire d.1 d.2 = true →
      l.countP (fun k => move k.1 k.2) < (l ++ c :: m).countP (fun k => move k.1 k.2)

/-- If `fire` always comes with `move`, the `fire` cycles are separated. -/
theorem separated_of_moves {fire move : σ → ι → Bool} {s : σ}
    (h : ∀ c ∈ M.cycles s is, fire c.1 c.2 → move c.1 c.2) :
    M.Separated fire move s is := by
  intro l c m d r hcs hc _
  have hm : move c.1 c.2 := h c (by rw [hcs]; simp) hc
  have : (c :: m).countP (fun k => move k.1 k.2) = m.countP (fun k => move k.1 k.2) + 1 :=
    List.countP_cons_of_pos hm
  rw [List.countP_append, this]
  omega

end Machine

end Hw
