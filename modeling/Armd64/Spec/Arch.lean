import Armd64.Rtl.TransitionStack

/-!
# The architecture behind the core

What a program of the three frontends can tell: where it executes, who waits for a return, and which
raw context an interrupt has put aside. The three belong together. A call, a return, an interrupt
entry and a restore each change two of them, and do so in one step.
-/

namespace Poly

@[ext] structure Arch where
  loc : Loc
  calls : List Frame
  interrupted : Option Loc
  loc_ok : loc.ok = true
  calls_valid : ∀ f ∈ calls, frontendValid f.frontend = true
  calls_bound : calls.length ≤ 8
  interrupted_ok : ∀ l ∈ interrupted, frontendRaw l.frontend = true ∧ l.ok = true

namespace Arch

inductive Event
  /-- Execution continues at `l`: after an instruction, at a trap vector or at a new start. -/
  | go (l : Loc)
  | call (l : Loc) (f : Frame)
  | ret
  | drop
  /-- An interrupt puts a raw context aside and continues in x86 at the same pc. -/
  | enter
  | restore
  deriving DecidableEq, Repr

def Step (e : Event) (a a' : Arch) : Prop :=
  match e with
  | .go l => a'.loc = l ∧ a'.calls = a.calls ∧ a'.interrupted = a.interrupted
  | .call l f =>
    f.frontend = a.loc.frontend ∧ a'.loc = l ∧ a'.calls = f :: a.calls ∧
      a'.interrupted = a.interrupted
  | .ret => ∃ f, a.calls = f :: a'.calls ∧ a'.loc = f.loc ∧ a'.interrupted = a.interrupted
  | .drop => ∃ f, a.calls = f :: a'.calls ∧ a'.loc = a.loc ∧ a'.interrupted = a.interrupted
  | .enter =>
    frontendRaw a.loc.frontend = true ∧ a'.loc = ⟨frontendX86, a.loc.pc⟩ ∧ a'.calls = a.calls ∧
      a'.interrupted = some a.loc
  | .restore => a.interrupted = some a'.loc ∧ a'.calls = a.calls ∧ a'.interrupted = none

end Arch

end Poly
