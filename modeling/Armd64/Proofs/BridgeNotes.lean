import Mathlib.Data.List.Forall2
import Armd64.Lib.Layout
import Armd64.Polyexec.BridgeNotes

/-!
# The bridges of a note segment

A segment is a sequence of notes (`Notes`). In a POLYABI note each line with two fields is an entry,
of a symbol and the name of a bridge.
-/

namespace Poly.Polyexec

/-! ## Reads -/

def ImageRead.Inside (lo hi : Nat) (r : ImageRead) : Prop := lo ≤ r.offset ∧ r.offset + r.size ≤ hi

theorem ImageRead.inside_mk {lo hi offset size : Nat} (hlo : lo ≤ offset)
    (hhi : offset + size ≤ hi) :
    ImageRead.Inside lo hi ⟨offset, size⟩ := ⟨hlo, hhi⟩

namespace Walk

open Hw (Traced TracedLoop)

variable {f : ElfFile} {lo hi limit p : Nat} {specs : List ProcessBridgeSpec}

theorem scan_inside (test : BitVec 8 → Bool) (hlo : lo ≤ p) (hle : p ≤ limit) (hhi : limit ≤ hi) :
    Traced.Ensures (ImageRead.Inside lo hi) (fun q => p ≤ q ∧ q ≤ limit)
      ((scan f limit test).run p) := by
  refine TracedLoop.ensures (I := fun q => p ≤ q ∧ q ≤ limit) (fun q hq => ?_)
    ⟨Nat.le_refl p, hle⟩
  show Traced.Ensures _ _ (scanBody f limit test q)
  unfold scanBody
  split
  · exact .pure hq
  · refine .emit_bind (ImageRead.inside_mk (by omega) (by omega)) (.pure ?_)
    split
    · exact ⟨by omega, by omega⟩
    · exact hq

theorem append_inside {symbol symbolLen bridge bridgeLen : Nat} (hsymbol : lo ≤ symbol)
    (hsymbolLen : symbol + symbolLen ≤ hi) (hbridge : lo ≤ bridge)
    (hbridgeLen : bridge + bridgeLen ≤ hi) :
    Traced.Ensures (ImageRead.Inside lo hi) (fun _ => True)
      (appendProcessBridgeSpec f specs symbol symbolLen bridge bridgeLen) := by
  unfold appendProcessBridgeSpec
  split
  · exact .fail
  · refine .emit_bind ⟨hbridge, hbridgeLen⟩ ?_
    refine .bind (I := fun _ => True) (.ofOption fun _ _ => trivial) fun kind _ => ?_
    exact .emit_bind ⟨hsymbol, hsymbolLen⟩ (.pure trivial)

theorem text_inside (hlo : lo ≤ p) (hle : p ≤ limit) (hhi : limit ≤ hi) :
    Traced.Ensures (ImageRead.Inside lo hi) (fun _ => True) ((text f limit).run (p, specs)) := by
  refine TracedLoop.ensures (I := fun s => lo ≤ s.1 ∧ s.1 ≤ limit) (fun s hs => ?_) ⟨hlo, hle⟩
  show Traced.Ensures _ _ (textBody f limit s)
  unfold textBody
  split
  · exact .pure trivial
  refine (scan_inside _ hs.1 hs.2 hhi).bind fun lineEnd hlineEnd => ?_
  refine (scan_inside _ hs.1 hlineEnd.1 (by omega)).bind fun line hline => ?_
  refine (scan_inside _ (by omega) hline.2 (by omega)).bind fun space hspace => ?_
  refine (scan_inside _ (by omega) hspace.2 (by omega)).bind fun bridge hbridge => ?_
  refine (scan_inside _ (by omega) hbridge.2 (by omega)).bind fun bridgeEnd hbridgeEnd => ?_
  have hnext : lo ≤ (if lineEnd < limit then lineEnd + 1 else limit) ∧
      (if lineEnd < limit then lineEnd + 1 else limit) ≤ limit := by
    split <;> omega
  dsimp only
  split
  · refine .bind (append_inside ?_ ?_ ?_ ?_) fun _ _ => .pure hnext
    all_goals omega
  · exact .pure hnext

theorem notes_inside {offset : Nat} : Traced.Ensures (ImageRead.Inside offset limit)
    (fun _ => True) ((notes f limit).run (offset, specs)) := by
  refine TracedLoop.ensures (I := fun s => offset ≤ s.1) (fun s hs => ?_) (Nat.le_refl offset)
  show Traced.Ensures _ _ (noteBody f limit s)
  unfold noteBody
  split
  · exact .pure trivial
  split
  · exact .fail
  refine .emit_bind (ImageRead.inside_mk hs (by omega)) ?_
  refine .emit_bind (ImageRead.inside_mk (by omega) (by omega)) ?_
  dsimp only
  split
  · exact .fail
  split
  · exact .fail
  split
  · exact .fail
  split
  next hname hdesc hnext hsz =>
    have hsz : (f.u32 s.1).toNat = 8 := by
      rw [hsz]
      rfl
    refine .emit_bind (ImageRead.inside_mk (by omega) (by omega)) ?_
    split
    · refine .bind (text_inside (by omega) (Nat.le_add_right _ _) (by omega)) fun _ _ => .pure ?_
      show offset ≤ _
      omega
    · refine .pure ?_
      show offset ≤ _
      omega
  next =>
    refine .pure ?_
    show offset ≤ _
    omega

theorem parse_inside (f : ElfFile) (specs : List ProcessBridgeSpec) (offset noteSize : Nat) :
    ∀ r ∈ (parseProcessBridgeSpecsNotes f specs offset noteSize).log,
      r.Inside offset (offset + noteSize) ∧ offset + noteSize ≤ f.size := by
  unfold parseProcessBridgeSpecsNotes
  split
  · intro r hr
    cases hr
  · exact fun r hr => ⟨notes_inside.all r hr, by omega⟩

end Walk

/-! ## Entries -/

def hasEntry (line : List (BitVec 8)) : Bool := 2 ≤ (Hw.fieldsOf isBlank line).length

/-- The entry of a line is its first two fields. -/
def IsEntry (line : List (BitVec 8)) (spec : ProcessBridgeSpec) : Prop :=
  ∃ bridge rest, Hw.fieldsOf isBlank line = spec.symbol :: bridge :: rest ∧
    processBridgeKindFromName bridge = some spec.bridgeKind

/-- The entries of some lines, after those that are there. -/
def Adds (lines : List (List (BitVec 8))) (specs specs' : List ProcessBridgeSpec) : Prop :=
  ∃ added, specs' = specs ++ added ∧ List.Forall₂ IsEntry lines added

section

variable {lines lines' : List (List (BitVec 8))} {a b c : List ProcessBridgeSpec}

theorem Adds.refl : Adds [] a a := ⟨[], (List.append_nil a).symm, .nil⟩

theorem Adds.trans (h : Adds lines a b) (h' : Adds lines' b c) : Adds (lines ++ lines') a c := by
  obtain ⟨added, rfl, hadded⟩ := h
  obtain ⟨added', rfl, hadded'⟩ := h'
  exact ⟨added ++ added', List.append_assoc _ _ _, List.rel_append hadded hadded'⟩

theorem line_adds {line : List (BitVec 8)} (h : parseProcessBridgeSpecsLine a line = some b) :
    Adds ([line].filter hasEntry) a b := by
  unfold parseProcessBridgeSpecsLine at h
  dsimp only at h
  split at h
  next hfound =>
    have hfields := Hw.fieldsOf_eq_cons line hfound.1
    rw [Hw.fieldsOf_eq_cons _ hfound.2] at hfields
    unfold appendProcessBridgeSpec at h
    split at h
    · cases h
    obtain ⟨kind, hkind, rfl⟩ := Option.map_eq_some_iff.mp h
    have hentry : hasEntry line = true := by simp [hasEntry, hfields]
    rw [List.filter_cons_of_pos hentry]
    exact ⟨_, rfl, .cons ⟨_, _, hfields, hkind⟩ .nil⟩
  next hmissing =>
    have hentry : ¬ hasEntry line = true := by
      by_cases hsymbol : (line.dropWhile isBlank).takeWhile (!isBlank ·) = []
      · simp [hasEntry, Hw.fieldsOf_eq_nil line hsymbol]
      · have hbridge := Hw.fieldsOf_eq_nil _ (not_not.mp fun h => hmissing ⟨hsymbol, h⟩)
        simp [hasEntry, Hw.fieldsOf_eq_cons line hsymbol, hbridge]
    cases h
    rw [List.filter_cons_of_neg hentry]
    exact .refl

theorem lines_add (h : lines.foldlM parseProcessBridgeSpecsLine a = some b) :
    Adds (lines.filter hasEntry) a b := by
  induction lines generalizing a with
  | nil =>
    cases h
    exact .refl
  | cons line lines ih =>
    rw [List.foldlM_cons] at h
    obtain ⟨specs, hline, h⟩ := Option.bind_eq_some_iff.mp h
    rw [← List.singleton_append, List.filter_append]
    exact (line_adds hline).trans (ih h)

end

/-! ## Notes -/

structure Note where
  name : List (BitVec 8)
  desc : List (BitVec 8)
  deriving DecidableEq, Repr

/-- The notes from `offset` up to `limit`: two sizes and a type, then a name and a text of these
sizes, both filled up to a multiple of four bytes. -/
inductive Notes (f : ElfFile) (limit : Nat) : Nat → List Note → Prop
  | nil : Notes f limit limit []
  | cons {offset namesz descsz : Nat} {notes : List Note} :
      (f.u32 offset).toNat = namesz → (f.u32 (offset + 4)).toNat = descsz →
      offset + 12 + Hw.alignUp 4 namesz + Hw.alignUp 4 descsz ≤ limit →
      Notes f limit (offset + 12 + Hw.alignUp 4 namesz + Hw.alignUp 4 descsz) notes →
      Notes f limit offset (⟨f.bytes (offset + 12) namesz,
        f.bytes (offset + 12 + Hw.alignUp 4 namesz) descsz⟩ :: notes)

def Note.isPolyabi (note : Note) : Bool := note.name = textBytes "POLYABI" ++ [0]

/-- The lines of the POLYABI notes that have at least two fields. -/
def bridgeLines (notes : List Note) : List (List (BitVec 8)) :=
  (notes.filter Note.isPolyabi).flatMap fun note => (note.desc.splitOn 0x0a).filter hasEntry

theorem bridgeLines_singleton (note : Note) : bridgeLines [note] =
    if note.isPolyabi then (note.desc.splitOn 0x0a).filter hasEntry else [] := by
  cases h : note.isPolyabi <;> simp [bridgeLines, h]

theorem noteAlign_eq {n : BitVec 32} (h : n.toNat + 3 < 2 ^ 32) :
    noteAlign n = Hw.alignUp 4 n.toNat := by
  have hsum : (n + 3).toNat = n.toNat + 3 := by bv_omega
  rw [noteAlign, Hw.toNat_and_not_mask (k := 2) (by decide), hsum]
  rfl

section

variable {f : ElfFile} {limit : Nat} {s s' : Nat × List ProcessBridgeSpec}

theorem noteBody_error {specs : List ProcessBridgeSpec}
    (h : noteBody f limit s = .error (some specs)) : limit ≤ s.1 ∧ specs = s.2 := by
  rw [noteBody] at h
  dsimp only at h
  split at h
  next hle =>
    cases h
    exact ⟨hle, rfl⟩
  · repeat' split at h
    all_goals cases h

theorem noteBody_adds (hlimit : limit < 2 ^ 32) (h : noteBody f limit s = .ok s') :
    ∃ note, Adds (bridgeLines [note]) s.2 s'.2 ∧
      ∀ notes, Notes f limit s'.1 notes → Notes f limit s.1 (note :: notes) := by
  obtain ⟨hname, hdesc, hnext, hle, hspecs⟩ := noteBody_ok h
  rw [noteAlign_eq (by omega)] at hdesc hnext hspecs
  rw [noteAlign_eq (by omega)] at hnext
  rw [hnext] at hle ⊢
  refine ⟨_, ?_, fun notes => .cons rfl rfl hle⟩
  -- The size of the name is tested before the name.
  have howner : (f.u32 s.1 = 8 ∧ f.bytes (s.1 + 12) 8 = textBytes "POLYABI" ++ [0]) ↔
      f.bytes (s.1 + 12) (f.u32 s.1).toNat = textBytes "POLYABI" ++ [0] := by
    constructor
    · rintro ⟨hsz, hname⟩
      rw [hsz]
      exact hname
    · intro hname
      have hsz : (f.u32 s.1).toNat = 8 := by
        rw [← f.length_bytes (s.1 + 12) (f.u32 s.1).toNat, hname]
        rfl
      exact ⟨BitVec.eq_of_toNat_eq hsz, by rwa [hsz] at hname⟩
  rw [bridgeLines_singleton]
  split
  next hpoly =>
    rw [if_pos (howner.mpr (of_decide_eq_true hpoly))] at hspecs
    exact lines_add hspecs
  next hpoly =>
    rw [if_neg fun h => hpoly (decide_eq_true (howner.mp h))] at hspecs
    rw [hspecs]
    exact .refl

theorem notes_add (hlimit : limit < 2 ^ 32) (s : Nat × List ProcessBridgeSpec) :
    s.1 ≤ limit → ∀ specs, (noteLoop f limit).exit s = some specs →
      ∃ notes, Notes f limit s.1 notes ∧ Adds (bridgeLines notes) s.2 specs := by
  induction s using (noteLoop f limit).induction with
  | exit s e h =>
    intro hle specs hspecs
    rw [Hw.Loop.exit_error h] at hspecs
    obtain ⟨hge, rfl⟩ := noteBody_error (hspecs ▸ h)
    exact ⟨[], Nat.le_antisymm hle hge ▸ .nil, .refl⟩
  | next s s' h ih =>
    intro hle specs hspecs
    rw [Hw.Loop.exit_ok h] at hspecs
    obtain ⟨note, hadds, hnotes⟩ := noteBody_adds hlimit h
    obtain ⟨notes, hrest, hadds'⟩ := ih (noteBody_ok h).2.2.2.1 specs hspecs
    refine ⟨note :: notes, hnotes notes hrest, ?_⟩
    rw [← List.singleton_append, bridgeLines, List.filter_append, List.flatMap_append]
    exact hadds.trans hadds'

end

/-! ## Lookup -/

/-- The bridge that the first line with a symbol names. -/
def lineKind (symbol : List (BitVec 8)) (lines : List (List (BitVec 8))) : Option ProcessBridge :=
  (lines.find? fun line =>
    (Hw.fieldsOf isBlank line).head?.map cString == some (cString symbol)).bind fun line =>
      (Hw.fieldsOf isBlank line)[1]?.bind processBridgeKindFromName

theorem find_eq_lineKind {lines : List (List (BitVec 8))} {added : List ProcessBridgeSpec}
    (h : List.Forall₂ IsEntry lines added) (symbol : List (BitVec 8)) :
    (added.find? fun spec => cString spec.symbol == cString symbol).map (·.bridgeKind) =
      lineKind symbol lines := by
  induction h with
  | nil => rfl
  | @cons line spec lines added hentry _ ih =>
    obtain ⟨bridge, rest, hfields, hkind⟩ := hentry
    unfold lineKind at ih ⊢
    cases hsymbol : cString spec.symbol == cString symbol with
    | false => simpa [List.find?_cons, hfields, hsymbol] using ih
    | true => simp [hfields, hsymbol, hkind]

theorem bridge_notes_parsed (f : ElfFile) (specs : List ProcessBridgeSpec) (offset noteSize : Nat)
    (hsize : f.size < 2 ^ 32) :
    let parsed := Walk.parseProcessBridgeSpecsNotes f specs offset noteSize
    (∀ r ∈ parsed.log, r.Inside offset (offset + noteSize) ∧ offset + noteSize ≤ f.size) ∧
      ∀ specs', parsed.value = some specs' →
        ∃ notes added, Notes f (offset + noteSize) offset notes ∧ specs' = specs ++ added ∧
          List.Forall₂ IsEntry (bridgeLines notes) added ∧
          ∀ symbol, processBridgeKindForSymbol specs' (some symbol) =
            (((specs.find? fun spec => cString spec.symbol == cString symbol).map
              (·.bridgeKind)).or (lineKind symbol (bridgeLines notes))).getD .default := by
  refine ⟨Walk.parse_inside f specs offset noteSize, fun specs' h => ?_⟩
  rw [Walk.value_parseProcessBridgeSpecsNotes, parseProcessBridgeSpecsNotes] at h
  split at h
  · cases h
  obtain ⟨notes, hnotes, added, rfl, hadded⟩ :=
    notes_add (by omega) (offset, specs) (Nat.le_add_right offset noteSize) specs' h
  refine ⟨notes, added, hnotes, rfl, hadded, fun symbol => ?_⟩
  rw [← find_eq_lineKind hadded, processBridgeKindForSymbol, List.find?_append, Option.map_or]

/-- A segment with a note of another owner, and a note whose text has four lines: one has a single
field, one a third field, and two are for one symbol. -/
def polyabiFile : ElfFile where
  size := 72
  byte i := ([4, 0, 0, 0, 4, 0, 0, 0, 0, 0, 0, 0] ++ textBytes "GNU" ++ [0] ++ [1, 2, 3, 4] ++
    [8, 0, 0, 0, 29, 0, 0, 0, 0, 0, 0, 0] ++ textBytes "POLYABI" ++ [0] ++
    textBytes "f fp64\ng\n h fp64 x\nf default\n").getD i 0

theorem bridge_notes_parsed_lines :
    let specs' := [⟨textBytes "e", .fp64⟩, ⟨textBytes "f", .fp64⟩, ⟨textBytes "h", .fp64⟩,
      ⟨textBytes "f", .default⟩]
    (Walk.parseProcessBridgeSpecsNotes polyabiFile [⟨textBytes "e", .fp64⟩] 0 72).value =
        some specs' ∧
      ∃ notes, Notes polyabiFile 72 0 notes ∧
        List.Forall₂ IsEntry (bridgeLines notes) specs'.tail ∧
        (lineKind (textBytes "f") (bridgeLines notes)).getD .default = .fp64 := by
  intro specs'
  have hvalue : (Walk.parseProcessBridgeSpecsNotes polyabiFile [⟨textBytes "e", .fp64⟩] 0 72).value =
      some specs' := by
    rw [Walk.value_parseProcessBridgeSpecsNotes]
    decide +kernel
  obtain ⟨notes, added, hnotes, hadded, hentries, hlookup⟩ :=
    (bridge_notes_parsed polyabiFile _ 0 72 (by decide)).2 _ hvalue
  obtain rfl : specs'.tail = added := List.cons.inj hadded |>.2
  have hkind : processBridgeKindForSymbol specs' (some (textBytes "f")) = .fp64 := by decide
  exact ⟨hvalue, notes, hnotes, hentries, (hlookup (textBytes "f")).symm.trans hkind⟩

end Poly.Polyexec
