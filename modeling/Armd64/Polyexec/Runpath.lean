import Armd64.Lib.Tokens
import Armd64.Lib.TracedLoop
import Armd64.Polyexec.Dependencies
import Armd64.Polyexec.Relocations

/-!
# Expansion of the entries of a search path (`polyexec.c`)

An entry of `DT_RUNPATH` may name the directory of the file that it is in, and other parts of a
path, by tokens. They are replaced in a buffer of a fixed size; the writes to it are logged
(`BufferWrite`).
-/

namespace Poly.Polyexec

open Hw (Traced TracedLoop)
open Hw.Tokens (atStart)

structure OutBuffer where
  bytes : CodeBytes
  len : Nat

structure BufferWrite where
  offset : Nat
  size : Nat
  deriving DecidableEq, Repr

def OutBuffer.text (out : OutBuffer) : CString := (List.range out.len).map out.bytes

def slash : BitVec 8 := 0x2f

def strrchr (c : BitVec 8) : CString → Option Nat
  | [] => none
  | b :: s => match strrchr c s with
    | some i => some (i + 1)
    | none => if b = c then some 0 else none

def appendPathBytes (outSize : Nat) (data : CString) (out : OutBuffer) :
    Traced BufferWrite OutBuffer :=
  if outSize < out.len + data.length + 1 then .fail
  else do
    let bytes ← Traced.emit ⟨out.len, data.length⟩ (patch out.bytes out.len data)
    let len := out.len + data.length
    let bytes ← Traced.emit ⟨len, 1⟩ (patch bytes len [0])
    pure ⟨bytes, len⟩

def originDir (ownerPath : CString) : CString :=
  ownerPath.take ((strrchr slash ownerPath).getD 0)

def appendOriginDir (ownerPath : CString) (outSize : Nat) (out : OutBuffer) :
    Traced BufferWrite OutBuffer :=
  appendPathBytes outSize (originDir ownerPath) out

inductive RunpathToken
  | origin
  | lib
  | platform
  deriving DecidableEq, Repr

/-- The tokens, in the order of their tests. Those for the platform are tested if it has a name. -/
def runpathTokens (hasPlatform : Bool) : List (CString × RunpathToken) :=
  [(textBytes "$\x7bORIGIN\x7d", .origin), (textBytes "$ORIGIN", .origin),
    (textBytes "$\x7bLIB\x7d", .lib), (textBytes "$LIB", .lib)] ++
  if hasPlatform then
    [(textBytes "$\x7bPLATFORM\x7d", .platform), (textBytes "$PLATFORM", .platform)]
  else []

theorem runpathTokens_prefixFree (hasPlatform : Bool) :
    Hw.Tokens.PrefixFree (runpathTokens hasPlatform) := by
  cases hasPlatform
  · exact ⟨by decide +kernel, by decide +kernel⟩
  · exact ⟨by decide +kernel, by decide +kernel⟩

section

variable (ownerPath : CString) (platformName : Option CString) (outSize : Nat)

def appendToken : RunpathToken → OutBuffer → Traced BufferWrite OutBuffer
  | .origin => appendOriginDir ownerPath outSize
  | .lib => appendPathBytes outSize (textBytes "lib")
  | .platform => appendPathBytes outSize (platformName.getD [])

def expandBody (s : CString × OutBuffer) : Traced BufferWrite (OutBuffer ⊕ CString × OutBuffer) :=
  match s.1 with
  | [] => pure (.inl s.2)
  | c :: rest =>
    match atStart (runpathTokens platformName.isSome) (c :: rest) with
    | some (token, kind) => do
      let out ← appendToken ownerPath platformName outSize kind s.2
      pure (.inr ((c :: rest).drop token.length, out))
    | none => do
      let out ← appendPathBytes outSize [c] s.2
      pure (.inr (rest, out))

def expandLoop : TracedLoop BufferWrite (CString × OutBuffer) OutBuffer where
  body := expandBody ownerPath platformName outSize
  measure s := s.1.length
  decreases := by
    rintro ⟨entry, out⟩ s' h
    unfold expandBody at h
    split at h
    · cases h
    · rename_i c rest hentry
      rw [hentry]
      split at h
      · rename_i token kind htoken
        obtain ⟨out', -, h⟩ := Traced.value_bind.mp h
        cases h
        exact (runpathTokens_prefixFree _).drop_length_lt htoken
      · obtain ⟨out', -, h⟩ := Traced.value_bind.mp h
        cases h
        exact Nat.lt_succ_self _

def expandRunpathEntry (entry : CString) (bytes : CodeBytes) : Traced BufferWrite OutBuffer :=
  if outSize = 0 then .fail
  else do
    let bytes ← Traced.emit ⟨0, 1⟩ (patch bytes 0 [0])
    let out ← (expandLoop ownerPath platformName outSize).run (entry, ⟨bytes, 0⟩)
    if out.len = 0 then .fail else pure out

end

end Poly.Polyexec
