import Armd64.Lib.Lists
import Armd64.Polyexec.Walks

/-!
# Bridges in notes, byte by byte (`polyexec.c`)

`parse_process_bridge_specs_notes` with the pointers that it moves through the file. It logs all
that it reads (`ImageRead`), whether or not this is in the segment.
-/

namespace Poly.Polyexec

namespace ElfFile

variable (f : ElfFile)

theorem length_bytes (offset n : Nat) : (f.bytes offset n).length = n := by simp [bytes]

/-- What is left of a text at `p`, when one byte is taken. -/
theorem bytes_of_lt {p limit : Nat} (h : p < limit) :
    f.bytes p (limit - p) = f.byte p :: f.bytes (p + 1) (limit - (p + 1)) := by
  obtain ⟨n, rfl⟩ : ∃ n, limit = p + 1 + n := ⟨limit - (p + 1), by omega⟩
  have hlen : p + 1 + n - p = n + 1 := by omega
  rw [hlen, Nat.add_sub_cancel_left, bytes, bytes, List.range_succ_eq_map, List.map_cons,
    List.map_map]
  simp [Function.comp_def, Nat.add_assoc, Nat.add_comm 1]

theorem bytes_of_le {p limit : Nat} (h : limit ≤ p) : f.bytes p (limit - p) = [] := by
  rw [Nat.sub_eq_zero_of_le h]
  rfl

end ElfFile

namespace Walk

open Hw (Traced TracedLoop)

/-! ## Scanning -/

section

variable (f : ElfFile) (limit : Nat) (test : BitVec 8 → Bool)

/-- The body of a loop `while (p < limit && test(*p)) p++`. -/
def scanBody (p : Nat) : Traced ImageRead (Nat ⊕ Nat) :=
  if limit ≤ p then pure (.inl p)
  else do
    let c ← Traced.emit ⟨p, 1⟩ (f.byte p)
    pure (if test c then .inr (p + 1) else .inl p)

theorem value_scanBody (p : Nat) : (scanBody f limit test p).value =
    some (if p < limit ∧ test (f.byte p) then .inr (p + 1) else .inl p) := by
  unfold scanBody
  by_cases h : limit ≤ p
  · rw [if_pos h, if_neg fun hp => Nat.not_lt.mpr h hp.1]
    rfl
  · rw [if_neg h]
    simp only [Nat.not_le.mp h, true_and]
    rfl

def scan : TracedLoop ImageRead Nat Nat where
  body := scanBody f limit test
  measure p := limit - p
  decreases := by
    intro p q h
    rw [value_scanBody, Option.some_inj] at h
    split at h
    · cases h
      omega
    · cases h

variable {limit}

/-- The scan ends where the run at its start does. -/
theorem scan_spec {p : Nat} {xs : List (BitVec 8)} (hle : p ≤ limit)
    (hxs : f.bytes p (limit - p) = xs) :
    ∃ q, ((scan f limit test).run p).value = some q ∧ p ≤ q ∧ q ≤ limit ∧
      f.bytes p (q - p) = xs.takeWhile test ∧ f.bytes q (limit - q) = xs.dropWhile test := by
  subst hxs
  induction p using (scan f limit test).induction with
  | step p ih =>
    have hbody : ((scan f limit test).body p).value = _ := value_scanBody f limit test p
    rw [TracedLoop.run_eq, Traced.bind_some hbody]
    by_cases hp : p < limit ∧ test (f.byte p)
    · rw [if_pos hp] at hbody ⊢
      obtain ⟨q, hq, hpq, hqle, htake, hdrop⟩ := ih (p + 1) hbody hp.1
      refine ⟨q, hq, by omega, hqle, ?_, ?_⟩
      · rw [f.bytes_of_lt (by omega : p < q), f.bytes_of_lt hp.1, htake,
          List.takeWhile_cons_of_pos hp.2]
      · rw [f.bytes_of_lt hp.1, hdrop, List.dropWhile_cons_of_pos hp.2]
    · rw [if_neg hp]
      refine ⟨p, rfl, Nat.le_refl p, hle, ?_⟩
      rw [f.bytes_of_le (Nat.le_refl p)]
      by_cases hlt : p < limit
      · have htest : ¬ test (f.byte p) := fun h => hp ⟨hlt, h⟩
        rw [f.bytes_of_lt hlt, List.takeWhile_cons_of_neg htest, List.dropWhile_cons_of_neg htest]
        exact ⟨rfl, rfl⟩
      · rw [f.bytes_of_le (Nat.not_lt.mp hlt)]
        exact ⟨rfl, rfl⟩

end

/-! ## Lines -/

variable (f : ElfFile)

/-- `memcpy`, or the bytes that `memcmp` compares. -/
def copy (offset n : Nat) : Traced ImageRead (List (BitVec 8)) := .emit ⟨offset, n⟩ (f.bytes offset n)

def appendProcessBridgeSpec (specs : List ProcessBridgeSpec)
    (symbol symbolLen bridge bridgeLen : Nat) : Traced ImageRead (List ProcessBridgeSpec) :=
  if symbolLen = 0 ∨ 80 ≤ symbolLen ∨ bridgeLen = 0 ∨ 40 ≤ bridgeLen ∨
      maxProcessBridgeSpecs ≤ specs.length then .fail
  else do
    let bridgeName ← copy f bridge bridgeLen
    let bridgeKind ← Traced.ofOption (processBridgeKindFromName bridgeName)
    let symbol ← copy f symbol symbolLen
    pure (specs ++ [⟨symbol, bridgeKind⟩])

/-- The body of the loop of `parse_process_bridge_specs_text`: the start of a line and the entries
so far. -/
def textBody (limit : Nat) (s : Nat × List ProcessBridgeSpec) :
    Traced ImageRead (List ProcessBridgeSpec ⊕ Nat × List ProcessBridgeSpec) :=
  if limit ≤ s.1 then pure (.inl s.2)
  else do
    let lineEnd ← (scan f limit (!· == 0x0a)).run s.1
    let line ← (scan f lineEnd isBlank).run s.1
    let space ← (scan f lineEnd (!isBlank ·)).run line
    let bridge ← (scan f lineEnd isBlank).run space
    let bridgeEnd ← (scan f lineEnd (!isBlank ·)).run bridge
    let specs ←
      if line < space ∧ bridge < bridgeEnd then
        appendProcessBridgeSpec f s.2 line (space - line) bridge (bridgeEnd - bridge)
      else pure s.2
    pure (.inr (if lineEnd < limit then lineEnd + 1 else limit, specs))

variable {f}

theorem value_appendProcessBridgeSpec (specs : List ProcessBridgeSpec)
    (symbol symbolLen bridge bridgeLen : Nat) :
    (appendProcessBridgeSpec f specs symbol symbolLen bridge bridgeLen).value =
      Polyexec.appendProcessBridgeSpec specs (f.bytes symbol symbolLen)
        (f.bytes bridge bridgeLen) := by
  unfold appendProcessBridgeSpec Polyexec.appendProcessBridgeSpec
  rw [f.length_bytes, f.length_bytes]
  split
  · rfl
  · cases h : processBridgeKindFromName (f.bytes bridge bridgeLen) with
    | none => simp [Traced.value_bind_eq, copy, Traced.emit, Traced.ofOption, h]
    | some kind =>
      simp [Traced.value_bind_eq, copy, Traced.emit, Traced.ofOption, h]
      rfl

/-- One line is the bytes up to a newline. -/
theorem value_textBody {limit : Nat} {s : Nat × List ProcessBridgeSpec} (hlt : s.1 < limit) :
    ∃ lineEnd, s.1 ≤ lineEnd ∧ lineEnd ≤ limit ∧
      f.bytes s.1 (lineEnd - s.1) = (f.bytes s.1 (limit - s.1)).takeWhile (!· == 0x0a) ∧
      f.bytes lineEnd (limit - lineEnd) = (f.bytes s.1 (limit - s.1)).dropWhile (!· == 0x0a) ∧
      (textBody f limit s).value =
        (parseProcessBridgeSpecsLine s.2 (f.bytes s.1 (lineEnd - s.1))).map fun specs =>
          .inr (if lineEnd < limit then lineEnd + 1 else limit, specs) := by
  obtain ⟨lineEnd, hlineEnd, hle, hlimit, hline, hrest⟩ :=
    scan_spec f (!· == 0x0a) (Nat.le_of_lt hlt) rfl
  obtain ⟨line, hline', -, hle₁, -, htext⟩ := scan_spec f isBlank hle rfl
  obtain ⟨space, hspace, -, hle₂, hsymbol, hafter⟩ := scan_spec f (!isBlank ·) hle₁ htext
  obtain ⟨bridge, hbridge, -, hle₃, -, hafter'⟩ := scan_spec f isBlank hle₂ hafter
  obtain ⟨bridgeEnd, hbridgeEnd, -, -, hname, -⟩ := scan_spec f (!isBlank ·) hle₃ hafter'
  refine ⟨lineEnd, hle, hlimit, hline, hrest, ?_⟩
  have hempty : ∀ {p q : Nat}, p < q ↔ f.bytes p (q - p) ≠ [] := by
    intro p q
    rw [← List.length_pos_iff, f.length_bytes]
    omega
  unfold textBody parseProcessBridgeSpecsLine
  rw [if_neg (Nat.not_le.mpr hlt), Traced.bind_some hlineEnd, Traced.bind_some hline',
    Traced.bind_some hspace, Traced.bind_some hbridge, Traced.bind_some hbridgeEnd]
  dsimp only
  rw [← hsymbol, ← hname]
  by_cases hfound : line < space ∧ bridge < bridgeEnd
  · rw [if_pos hfound, if_pos ((and_congr hempty hempty).mp hfound), Traced.value_bind_eq,
      value_appendProcessBridgeSpec]
    exact Option.map_eq_bind.symm
  · rw [if_neg hfound, if_neg (mt (and_congr hempty hempty).mpr hfound)]
    rfl

def text (f : ElfFile) (limit : Nat) :
    TracedLoop ImageRead (Nat × List ProcessBridgeSpec) (List ProcessBridgeSpec) where
  body := textBody f limit
  measure s := limit - s.1
  decreases := by
    intro s s' h
    by_cases hlt : s.1 < limit
    · obtain ⟨lineEnd, hle, -, -, -, hvalue⟩ := value_textBody (f := f) hlt
      rw [hvalue, Option.map_eq_some_iff] at h
      obtain ⟨specs, -, hs'⟩ := h
      cases hs'
      dsimp only
      split <;> omega
    · rw [textBody, if_pos (Nat.not_lt.mp hlt)] at h
      cases h

theorem value_text {limit : Nat} {s : Nat × List ProcessBridgeSpec} (hle : s.1 ≤ limit) :
    ((text f limit).run s).value =
      parseProcessBridgeSpecsText s.2 (f.bytes s.1 (limit - s.1)) := by
  induction s using (text f limit).induction with
  | step s ih =>
    rw [TracedLoop.run_eq, Traced.value_bind_eq]
    by_cases hlt : s.1 < limit
    · obtain ⟨lineEnd, hle, hlimit, hline, hrest, hvalue⟩ := value_textBody (f := f) hlt
      have hbody : ((text f limit).body s).value = _ := hvalue
      -- The text is the line, and what follows its newline if there is one.
      have hsplit : parseProcessBridgeSpecsText s.2 (f.bytes s.1 (limit - s.1)) =
          (parseProcessBridgeSpecsLine s.2 (f.bytes s.1 (lineEnd - s.1))).bind fun specs =>
            parseProcessBridgeSpecsText specs (f.bytes (if lineEnd < limit then lineEnd + 1
              else limit) (limit - if lineEnd < limit then lineEnd + 1 else limit)) := by
        unfold parseProcessBridgeSpecsText
        rw [List.splitOn, Hw.splitOnP_eq, ← hline, ← hrest, List.foldlM_cons]
        by_cases hnewline : lineEnd < limit
        · rw [if_pos hnewline, f.bytes_of_lt hnewline]
          rfl
        · rw [if_neg hnewline, f.bytes_of_le (Nat.not_lt.mp hnewline), f.bytes_of_le (Nat.le_refl _)]
          rfl
      rw [hsplit, hbody]
      cases hspecs : parseProcessBridgeSpecsLine s.2 (f.bytes s.1 (lineEnd - s.1)) with
      | none => rfl
      | some specs =>
        rw [hspecs] at hbody
        refine ih _ hbody ?_
        dsimp only
        split <;> omega
    · have hbody : (text f limit).body s = pure (.inl s.2) := if_pos (Nat.not_lt.mp hlt)
      rw [hbody, f.bytes_of_le (Nat.not_lt.mp hlt)]
      rfl

/-! ## Notes -/

/-- The body of the loop of `parse_process_bridge_specs_notes`, as `noteBody` with its reads. -/
def noteBody (f : ElfFile) (limit : Nat) (s : Nat × List ProcessBridgeSpec) :
    Traced ImageRead (List ProcessBridgeSpec ⊕ Nat × List ProcessBridgeSpec) :=
  if limit ≤ s.1 then pure (.inl s.2)
  else if limit - s.1 < 12 then .fail
  else do
    let namesz ← Traced.emit ⟨s.1, 4⟩ (f.u32 s.1)
    let descsz ← Traced.emit ⟨s.1 + 4, 4⟩ (f.u32 (s.1 + 4))
    let name := s.1 + 12
    if limit - name < namesz.toNat then .fail
    else
      let desc := name + noteAlign namesz
      if limit < desc ∨ limit - desc < descsz.toNat then .fail
      else
        let next := desc + noteAlign descsz
        if limit < next then .fail
        else if namesz = 8 then do
          let owner ← copy f name 8
          if owner = textBytes "POLYABI" ++ [0] then
            let specs ← (text f (desc + descsz.toNat)).run (desc, s.2)
            pure (.inr (next, specs))
          else pure (.inr (next, s.2))
        else pure (.inr (next, s.2))

theorem value_noteBody (f : ElfFile) (limit : Nat) (s : Nat × List ProcessBridgeSpec) :
    (noteBody f limit s).value = TracedLoop.next (Polyexec.noteBody f limit s) := by
  have htext : ∀ desc n, ((text f (desc + n)).run (desc, s.2)).value =
      parseProcessBridgeSpecsText s.2 (f.bytes desc n) := fun desc n => by
    rw [value_text (Nat.le_add_right desc n), Nat.add_sub_cancel_left]
  unfold noteBody Polyexec.noteBody
  dsimp only
  split
  · rfl
  split
  · rfl
  show (ite _ _ _ : Traced _ _).value = _
  split
  · rfl
  split
  · rfl
  split
  · rfl
  by_cases hsz : f.u32 s.1 = 8
  · rw [if_pos hsz]
    by_cases howner : f.bytes (s.1 + 12) 8 = textBytes "POLYABI" ++ [0]
    · rw [if_pos ⟨hsz, howner⟩]
      show (ite _ _ _ : Traced _ _).value = _
      rw [if_pos howner, Traced.value_bind_eq, htext]
      cases parseProcessBridgeSpecsText s.2 _ <;> rfl
    · rw [if_neg fun h => howner h.2]
      show (ite _ _ _ : Traced _ _).value = _
      rw [if_neg howner]
      rfl
  · rw [if_neg hsz, if_neg fun h => hsz h.1]
    rfl

def notes (f : ElfFile) (limit : Nat) :
    TracedLoop ImageRead (Nat × List ProcessBridgeSpec) (List ProcessBridgeSpec) where
  body := noteBody f limit
  measure s := limit - s.1
  decreases := by
    intro s s' h
    rw [value_noteBody] at h
    exact noteBody_decreases (TracedLoop.eq_ok_of_next h)

def parseProcessBridgeSpecsNotes (f : ElfFile) (specs : List ProcessBridgeSpec)
    (offset noteSize : Nat) : Traced ImageRead (List ProcessBridgeSpec) :=
  if f.size < offset ∨ f.size - offset < noteSize then .fail
  else (notes f (offset + noteSize)).run (offset, specs)

theorem value_parseProcessBridgeSpecsNotes (f : ElfFile) (specs : List ProcessBridgeSpec)
    (offset noteSize : Nat) : (parseProcessBridgeSpecsNotes f specs offset noteSize).value =
      Polyexec.parseProcessBridgeSpecsNotes f specs offset noteSize := by
  unfold parseProcessBridgeSpecsNotes Polyexec.parseProcessBridgeSpecsNotes
  split
  · rfl
  · exact TracedLoop.value_run (value_noteBody f _) _

end Walk

/-- `process_bridge_kind_for_symbol`, which compares with `strcmp`. -/
def processBridgeKindForSymbol (specs : List ProcessBridgeSpec) :
    Option (List (BitVec 8)) → ProcessBridge
  | none => .default
  | some symbolName =>
    ((specs.find? fun spec => cString spec.symbol == cString symbolName).map (·.bridgeKind)).getD
      .default

end Poly.Polyexec
