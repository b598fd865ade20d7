import Armd64.Polyexec.Runpath
import Armd64.Proofs.RelocPatch

/-!
# Expansion of the entries of a search path

The expansion of an entry is its text with the tokens replaced, and it stays in its buffer. What
stands for `$ORIGIN` is the directory of the file, if the path of the file has a slash.
-/

namespace Poly.Polyexec

open Hw (Traced TracedLoop)
open Hw.Traced
open Hw.Tokens (Piece Scans atStart)

/-! ## The buffer -/

namespace OutBuffer

variable (out : OutBuffer) (data : CString)

@[simp] theorem length_text : out.text.length = out.len := by simp [text]

def append : OutBuffer :=
  ⟨patch (patch out.bytes out.len data) (out.len + data.length) [0], out.len + data.length⟩

theorem text_append : (out.append data).text = out.text ++ data := by
  unfold text append
  rw [List.range_add, List.map_append, List.map_map]
  congr 1
  · refine List.map_congr_left fun i hi => ?_
    have hlt := List.mem_range.mp hi
    dsimp only
    rw [patch_outside (by omega), patch_outside (by omega)]
  · refine List.ext_getElem (by simp) fun i h₁ h₂ => ?_
    rw [List.getElem_map, List.getElem_range]
    show patch (patch out.bytes out.len data) (out.len + data.length) [0] (out.len + i) = data[i]
    rw [patch_outside (by omega), patch_inside (List.getElem?_eq_getElem h₂)]

theorem append_bytes_len : (out.append data).bytes (out.append data).len = 0 :=
  patch_inside (i := 0) rfl

end OutBuffer

section

variable {outSize : Nat} {data : CString} {out : OutBuffer}

theorem appendPathBytes_of_le (h : out.len + data.length < outSize) :
    (appendPathBytes outSize data out).value = some (out.append data) := by
  rw [appendPathBytes, if_neg (by omega)]
  rfl

theorem appendPathBytes_of_lt (h : outSize ≤ out.len + data.length) :
    (appendPathBytes outSize data out).value = none := by
  rw [appendPathBytes, if_pos (by omega)]
  rfl

def BufferWrite.InBuffer (outSize : Nat) (w : BufferWrite) : Prop := w.offset + w.size ≤ outSize

theorem appendPathBytes_inBuffer : (appendPathBytes outSize data out).All (·.InBuffer outSize) := by
  unfold appendPathBytes
  split
  · exact all_fail
  · refine (Ensures.emit_bind (J := fun _ => True) ?_ (.emit_bind ?_ (.pure trivial))).all
    · show out.len + data.length ≤ outSize
      omega
    · show out.len + data.length + 1 ≤ outSize
      omega

end

/-! ## The loop -/

section

variable (origin : CString) (platform : Option CString)

def tokenText : RunpathToken → CString
  | .origin => origin
  | .lib => textBytes "lib"
  | .platform => platform.getD []

def pieceText : Piece (BitVec 8) RunpathToken → CString
  | .token k => tokenText origin platform k
  | .item c => [c]

def expansion (ps : List (Piece (BitVec 8) RunpathToken)) : CString :=
  ps.flatMap (pieceText origin platform)

theorem expansion_cons (p : Piece (BitVec 8) RunpathToken)
    (ps : List (Piece (BitVec 8) RunpathToken)) :
    expansion origin platform (p :: ps) =
      pieceText origin platform p ++ expansion origin platform ps := List.flatMap_cons

theorem expansion_congr {ps : List (Piece (BitVec 8) RunpathToken)} (h : .token .origin ∉ ps)
    (origin' : CString) : expansion origin platform ps = expansion origin' platform ps := by
  refine List.flatMap_congr fun p hp => ?_
  rcases p with (_ | _ | _) | c
  · exact absurd hp h
  · rfl
  · rfl
  · rfl

theorem length_expansion (ps : List (Piece (BitVec 8) RunpathToken)) :
    (expansion origin platform ps).length =
      (expansion [] platform ps).length + ps.count (.token .origin) * origin.length := by
  induction ps with
  | nil => simp [expansion]
  | cons p ps ih =>
    rw [expansion_cons, expansion_cons, List.length_append, List.length_append, ih, List.count_cons]
    rcases p with (_ | _ | _) | c
    · simp [pieceText, tokenText, Nat.add_mul]
      omega
    · simp [pieceText, tokenText, Nat.add_assoc]
    · simp [pieceText, tokenText, Nat.add_assoc]
    · simp [pieceText, Nat.add_assoc]

end

section

variable {ownerPath : CString} {platformName : Option CString} {outSize : Nat}

theorem appendToken_eq (kind : RunpathToken) (out : OutBuffer) :
    appendToken ownerPath platformName outSize kind out =
      appendPathBytes outSize (tokenText (originDir ownerPath) platformName kind) out := by
  cases kind <;> rfl

theorem expandLoop_nil (out : OutBuffer) :
    (expandLoop ownerPath platformName outSize).run ([], out) = pure out := by
  rw [TracedLoop.run_eq]
  rfl

variable {entry : CString}

theorem expandLoop_token {t : CString} {kind : RunpathToken}
    (h : atStart (runpathTokens platformName.isSome) entry = some (t, kind)) (hne : entry ≠ [])
    (out : OutBuffer) :
    (expandLoop ownerPath platformName outSize).run (entry, out) =
      appendPathBytes outSize (tokenText (originDir ownerPath) platformName kind) out >>= fun out =>
        (expandLoop ownerPath platformName outSize).run (entry.drop t.length, out) := by
  obtain ⟨c, rest, rfl⟩ := List.exists_cons_of_ne_nil hne
  rw [TracedLoop.run_eq]
  show expandBody ownerPath platformName outSize (c :: rest, out) >>= _ = _
  unfold expandBody
  dsimp only
  rw [h]
  dsimp only
  rw [appendToken_eq, bind_assoc]
  rfl

theorem expandLoop_item {c : BitVec 8} {rest : CString}
    (h : atStart (runpathTokens platformName.isSome) (c :: rest) = none) (out : OutBuffer) :
    (expandLoop ownerPath platformName outSize).run (c :: rest, out) =
      appendPathBytes outSize [c] out >>= fun out =>
        (expandLoop ownerPath platformName outSize).run (rest, out) := by
  rw [TracedLoop.run_eq]
  show expandBody ownerPath platformName outSize (c :: rest, out) >>= _ = _
  unfold expandBody
  dsimp only
  rw [h]
  rw [bind_assoc]
  rfl

theorem appendPathBytes_bind {f : OutBuffer → Traced BufferWrite OutBuffer} {data more : CString}
    {out : OutBuffer}
    (hf : out.len + data.length < outSize →
      if out.len + data.length + more.length < outSize then
        ∃ out', (f (out.append data)).value = some out' ∧
          out'.text = (out.append data).text ++ more ∧ out'.bytes out'.len = 0
      else (f (out.append data)).value = none) :
    if out.len + (data ++ more).length < outSize then
      ∃ out', (appendPathBytes outSize data out >>= f).value = some out' ∧
        out'.text = out.text ++ (data ++ more) ∧ out'.bytes out'.len = 0
    else (appendPathBytes outSize data out >>= f).value = none := by
  rw [List.length_append, ← Nat.add_assoc, ← List.append_assoc, ← OutBuffer.text_append]
  by_cases hdata : out.len + data.length < outSize
  · rw [bind_some (appendPathBytes_of_le hdata)]
    exact hf hdata
  · rw [if_neg (by omega), bind_none (appendPathBytes_of_lt (by omega))]

theorem expandLoop_of_scans (ownerPath : CString) {ps : List (Piece (BitVec 8) RunpathToken)}
    (h : Scans (runpathTokens platformName.isSome) entry ps) (out : OutBuffer)
    (hroom : out.len < outSize) (hend : out.bytes out.len = 0) :
    let text := expansion (originDir ownerPath) platformName ps
    let t := (expandLoop ownerPath platformName outSize).run (entry, out)
    if out.len + text.length < outSize then
      ∃ out', t.value = some out' ∧ out'.text = out.text ++ text ∧ out'.bytes out'.len = 0
    else t.value = none := by
  intro text t
  induction h generalizing out with
  | nil =>
    have ht : t = pure out := expandLoop_nil out
    rw [if_pos (by simpa [text, expansion] using hroom), ht]
    exact ⟨out, rfl, (List.append_nil _).symm, hend⟩
  | @token token rest kind ps hmem hrest ih =>
    have hfree := runpathTokens_prefixFree platformName.isSome
    have hne : token ++ rest ≠ [] := List.append_ne_nil_of_left_ne_nil (hfree.ne_nil _ hmem) rest
    have hstart : atStart (runpathTokens platformName.isSome) (token ++ rest) =
        some (token, kind) :=
      Hw.Tokens.atStart_of_mem hfree hmem (List.prefix_append token rest)
    have ht : t = _ := expandLoop_token hstart hne out
    rw [ht, List.drop_left]
    exact appendPathBytes_bind fun hdata => ih _ hdata (out.append_bytes_len _)
  | @item c rest ps hno hrest ih =>
    have ht : t = _ := expandLoop_item (Hw.Tokens.atStart_of_forall hno) out
    rw [ht]
    exact appendPathBytes_bind fun hdata => ih _ hdata (out.append_bytes_len _)

end

/-! ## Directories -/

section

variable {c : BitVec 8} {s path : CString}

theorem strrchr_eq_none : strrchr c s = none ↔ c ∉ s := by
  induction s with
  | nil => simp [strrchr]
  | cons b s ih =>
    rw [strrchr]
    cases h : strrchr c s with
    | some i =>
      have hmem : c ∈ s := by_contra fun hno => by rw [ih.mpr hno] at h; cases h
      simp [hmem]
    | none =>
      have hno := ih.mp h
      by_cases hb : b = c
      · simp [hb]
      · simp [hno, hb, Ne.symm hb]

theorem strrchr_eq_some {i : Nat} (h : strrchr c s = some i) :
    s.take i ++ c :: s.drop (i + 1) = s := by
  induction s generalizing i with
  | nil => cases h
  | cons b s ih =>
    rw [strrchr] at h
    cases hs : strrchr c s with
    | some j =>
      rw [hs] at h
      cases h
      rw [List.take_succ_cons, List.drop_succ_cons, List.cons_append, ih hs]
    | none =>
      rw [hs] at h
      dsimp only at h
      split at h
      · rename_i hb
        cases h
        rw [hb]
        rfl
      · cases h

def basename (path : CString) : CString :=
  (strrchr slash path).elim path fun i => path.drop (i + 1)

theorem originDir_basename (h : slash ∈ path) :
    originDir path ++ slash :: basename path = path := by
  cases hs : strrchr slash path with
  | none => exact absurd h (strrchr_eq_none.mp hs)
  | some i =>
    rw [originDir, basename, hs, Option.getD_some, Option.elim_some]
    exact strrchr_eq_some hs

theorem originDir_of_notMem (h : slash ∉ path) : originDir path = [] := by
  rw [originDir, strrchr_eq_none.mpr h]
  rfl

theorem basename_of_notMem (h : slash ∉ path) : basename path = path := by
  rw [basename, strrchr_eq_none.mpr h]
  rfl

def isAbsolute (path : CString) : Bool := path.head? = some slash

/-- The names in a path, without those that say nothing: empty ones, and `.`. -/
def components (path : CString) : List CString :=
  (path.splitOn slash).filter fun name => name ≠ [] ∧ name ≠ textBytes "."

structure SamePath (path path' : CString) : Prop where
  isAbsolute : isAbsolute path = isAbsolute path'
  components : components path = components path'

def IsDirOf (dir path : CString) : Prop := SamePath (dir ++ slash :: basename path) path

theorem isDirOf_originDir (h : slash ∈ path) : IsDirOf (originDir path) path := by
  rw [IsDirOf, originDir_basename h]
  exact ⟨rfl, rfl⟩

theorem isAbsolute_of_notMem (h : slash ∉ path) : isAbsolute path = false := by
  cases path with
  | nil => rfl
  | cons b path =>
    have hb : b ≠ slash := fun heq => h (heq ▸ List.mem_cons_self)
    simp [isAbsolute, hb]

theorem isDirOf_dot (h : slash ∉ path) : IsDirOf (textBytes ".") path := by
  have hsplit : (textBytes "." ++ slash :: path).splitOn slash =
      textBytes "." :: path.splitOn slash := by
    rw [List.splitOn_eq_splitOnP, List.splitOn_eq_splitOnP,
      List.splitOnP_append_cons_of_forall_mem (by decide) slash (by simp)]
  rw [IsDirOf, basename_of_notMem h]
  refine ⟨(isAbsolute_of_notMem h).symm ▸ rfl, ?_⟩
  rw [components, hsplit, components, List.filter_cons_of_neg (by simp)]

theorem ne_nil_of_isDirOf {dir : CString} (h : slash ∉ path) (hdir : IsDirOf dir path) :
    dir ≠ [] := by
  rintro rfl
  have habs := hdir.isAbsolute
  rw [isAbsolute_of_notMem h] at habs
  cases habs

end

/-! ## The expansion -/

section

variable (ownerPath : CString) (platformName : Option CString) (outSize : Nat)

theorem expandLoop_inBuffer (s : CString × OutBuffer) :
    ((expandLoop ownerPath platformName outSize).run s).All (·.InBuffer outSize) := by
  have happend : ∀ data (out : OutBuffer), Ensures (·.InBuffer outSize) (fun _ => True)
      (appendPathBytes outSize data out) :=
    fun data out => ⟨appendPathBytes_inBuffer, fun _ => trivial⟩
  refine (TracedLoop.ensures (I := fun _ => True) (Q := fun _ => True) (fun s _ => ?_) trivial).all
  show Ensures _ _ (expandBody ownerPath platformName outSize s)
  unfold expandBody
  split
  · exact .pure trivial
  split
  · rw [appendToken_eq]
    exact (happend _ _).bind fun out _ => .pure trivial
  · exact (happend _ _).bind fun out _ => .pure trivial

theorem expandRunpathEntry_inBuffer (entry : CString) (bytes : CodeBytes) :
    (expandRunpathEntry ownerPath platformName outSize entry bytes).All (·.InBuffer outSize) := by
  unfold expandRunpathEntry
  split
  · exact all_fail
  refine (Ensures.emit_bind (J := fun _ => True) ?_ (Ensures.bind (I := fun _ => True)
    ⟨expandLoop_inBuffer ownerPath platformName outSize _, fun _ => trivial⟩ fun out _ => ?_)).all
  · show 0 + 1 ≤ outSize
    omega
  · split
    · exact .fail
    · exact .pure trivial

theorem exists_isDirOf_iff (ps : List (Piece (BitVec 8) RunpathToken)) :
    (∃ dir, IsDirOf dir ownerPath ∧
        expansion (originDir ownerPath) platformName ps = expansion dir platformName ps) ↔
      slash ∈ ownerPath ∨ .token .origin ∉ ps := by
  constructor
  · rintro ⟨dir, hdir, heq⟩
    by_contra hnot
    obtain ⟨hslash, htoken⟩ := not_or.mp hnot
    -- the text for an empty directory is shorter
    rw [originDir_of_notMem hslash] at heq
    have hlen := congrArg List.length heq
    rw [length_expansion dir] at hlen
    have hcount : 0 < ps.count (.token .origin) := List.count_pos_iff.mpr (not_not.mp htoken)
    have hdirlen : 0 < dir.length := List.length_pos_iff.mpr (ne_nil_of_isDirOf hslash hdir)
    have hpos := Nat.mul_pos hcount hdirlen
    omega
  · intro h
    by_cases hslash : slash ∈ ownerPath
    · exact ⟨originDir ownerPath, isDirOf_originDir hslash, rfl⟩
    · have htoken := h.resolve_left hslash
      exact ⟨textBytes ".", isDirOf_dot hslash, expansion_congr _ platformName htoken _⟩

variable {ownerPath platformName outSize}

theorem expandRunpathEntry_eq_some {entry : CString} {ps : List (Piece (BitVec 8) RunpathToken)}
    (h : Scans (runpathTokens platformName.isSome) entry ps) {bytes : CodeBytes} {out : OutBuffer}
    (hout : (expandRunpathEntry ownerPath platformName outSize entry bytes).value = some out) :
    out.len < outSize ∧ out.bytes out.len = 0 ∧
      out.text = expansion (originDir ownerPath) platformName ps := by
  unfold expandRunpathEntry at hout
  split at hout
  · cases hout
  rename_i hsize
  obtain ⟨start, hstart, hout⟩ := value_bind.mp hout
  cases hstart
  obtain ⟨out', hrun, hout⟩ := value_bind.mp hout
  split at hout
  · cases hout
  cases hout
  have hloop := expandLoop_of_scans ownerPath h ⟨patch bytes 0 [0], 0⟩
    (Nat.pos_of_ne_zero hsize) rfl
  dsimp only at hloop
  split at hloop
  · rename_i hfits
    obtain ⟨out', hvalue, htext, hend⟩ := hloop
    cases hvalue.symm.trans hrun
    refine ⟨?_, hend, htext⟩
    rw [← out.length_text, htext]
    simpa [OutBuffer.text] using hfits
  · cases hloop.symm.trans hrun

end

end Poly.Polyexec
