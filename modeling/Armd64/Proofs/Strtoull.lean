import Mathlib.Data.Nat.Digits.Defs
import Armd64.Polyexec.CStrings

/-!
# `strtoull` of the runtime and of C

C takes the longest text after the white space that is a number with an optional sign. The runtime
takes a prefix of a number (`0`, `0x`) as soon as it sees it, and computes modulo 2^64.
-/

namespace Poly.Polyexec

/-! ## Numbers -/

def AllDigits (base : Nat) (ds : List (BitVec 8)) : Prop := ∀ c ∈ ds, (digitOf base c).isSome

def numberOf (base : Nat) (ds : List (BitVec 8)) : Nat :=
  Nat.ofDigits base (ds.map fun c => (digitOf base c).getD 0).reverse

/-- The texts of numbers in a base, without a sign. Base 0 stands for the integer constants of C. -/
inductive Numeral : Int → List (BitVec 8) → Nat → Prop
  | digits {base : Int} {ds : List (BitVec 8)} : base ≠ 0 → ds ≠ [] → AllDigits base.toNat ds →
      Numeral base ds (numberOf base.toNat ds)
  | hexadecimal {base : Int} {x : BitVec 8} {ds : List (BitVec 8)} : base = 0 ∨ base = 16 →
      x = 0x78 ∨ x = 0x58 → ds ≠ [] → AllDigits 16 ds →
      Numeral base (0x30 :: x :: ds) (numberOf 16 ds)
  | octal {ds : List (BitVec 8)} : AllDigits 8 ds → Numeral 0 (0x30 :: ds) (numberOf 8 ds)
  | decimal {d : BitVec 8} {ds : List (BitVec 8)} : d ≠ 0x30 → AllDigits 10 (d :: ds) →
      Numeral 0 (d :: ds) (numberOf 10 (d :: ds))

/-- A number with an optional sign: its text, whether it is negative, and its magnitude. -/
inductive Subject (base : Int) : List (BitVec 8) → Bool → Nat → Prop
  | unsigned {body : List (BitVec 8)} {v : Nat} : Numeral base body v → Subject base body false v
  | plus {body : List (BitVec 8)} {v : Nat} :
      Numeral base body v → Subject base (0x2b :: body) false v
  | minus {body : List (BitVec 8)} {v : Nat} :
      Numeral base body v → Subject base (0x2d :: body) true v

/-- The value for a subject: `ULLONG_MAX` for a magnitude of more than 64 bits. -/
def prescribedValue (negative : Bool) (v : Nat) : BitVec 64 :=
  if 2 ^ 64 ≤ v then BitVec.allOnes 64
  else if negative then -BitVec.ofNat 64 v
  else BitVec.ofNat 64 v

/-- The results of `strtoull` in C: the value of the longest subject and its end, or 0 and the start
of the text. -/
def Prescribed (nptr : List (BitVec 8)) (base : Int) (r : BitVec 64 × Nat) : Prop :=
  let spaces := nptr.takeWhile asciiIsspace
  let rest := nptr.dropWhile asciiIsspace
  (∃ subject negative v, Subject base subject negative v ∧ subject <+: rest ∧
      (∀ subject' negative' v', Subject base subject' negative' v' → subject' <+: rest →
        subject'.length ≤ subject.length) ∧
      r = (prescribedValue negative v, spaces.length + subject.length)) ∨
    (∀ subject negative v, Subject base subject negative v → ¬ subject <+: rest) ∧ r = (0, 0)

/-! ## Digits -/

def digitRun (base : Nat) (text : List (BitVec 8)) : List (BitVec 8) :=
  text.takeWhile fun c => (digitOf base c).isSome

variable {base : Nat} {ds text : List (BitVec 8)}

theorem allDigits_digitRun : AllDigits base (digitRun base text) := by
  intro c hc
  have hall : (digitRun base text).all fun c => (digitOf base c).isSome := List.all_takeWhile
  exact List.all_eq_true.mp hall c hc

theorem prefix_digitRun (hds : AllDigits base ds) (h : ds <+: text) :
    ds <+: digitRun base text := by
  obtain ⟨rest, rfl⟩ := h
  rw [digitRun, List.takeWhile_append_of_pos hds]
  exact List.prefix_append _ _

variable {c x : BitVec 8} {v : Nat} {rest body nptr : List (BitVec 8)} {chosen : Int × Nat}
  {negative : Bool}

theorem numberOf_cons {d : Nat} (hd : digitOf base c = some d) :
    numberOf base (c :: ds) = d * base ^ ds.length + numberOf base ds := by
  simp [numberOf, hd, Nat.ofDigits_append, Nat.add_comm, Nat.mul_comm]

theorem strtoullDigits_eq (base : Nat) (text : List (BitVec 8)) (acc : Nat) :
    strtoullDigits base text (BitVec.ofNat 64 acc) =
      (BitVec.ofNat 64
        (acc * base ^ (digitRun base text).length + numberOf base (digitRun base text)),
        (digitRun base text).length) := by
  induction text generalizing acc with
  | nil => simp [strtoullDigits, digitRun, numberOf]
  | cons c rest ih =>
    cases hd : digitOf base c with
    | none => simp [strtoullDigits, digitRun, hd, numberOf]
    | some d =>
      have hrun : digitRun base (c :: rest) = c :: digitRun base rest := by simp [digitRun, hd]
      have hacc : BitVec.ofNat 64 acc * BitVec.ofNat 64 base + BitVec.ofNat 64 d =
          BitVec.ofNat 64 (acc * base + d) := by
        rw [BitVec.ofNat_add, BitVec.ofNat_mul]
      rw [strtoullDigits, hd, hrun]
      dsimp only
      rw [hacc, ih, numberOf_cons hd, List.length_cons, Nat.pow_succ', Nat.add_mul, Nat.mul_assoc,
        Nat.add_assoc]

/-! ## The longest number -/

inductive PrefixView (base : Int) : List (BitVec 8) → Int × Nat → Prop
  | hexadecimal {x : BitVec 8} {rest : List (BitVec 8)} : base = 0 ∨ base = 16 →
      x = 0x78 ∨ x = 0x58 → PrefixView base (0x30 :: x :: rest) (16, 2)
  | octal {rest : List (BitVec 8)} : base = 0 → ¬ (rest[0]? = some 0x78 ∨ rest[0]? = some 0x58) →
      PrefixView base (0x30 :: rest) (8, 1)
  | decimal {text : List (BitVec 8)} : base = 0 → text[0]? ≠ some 0x30 →
      PrefixView base text (10, 0)
  | plain {text : List (BitVec 8)} : base ≠ 0 →
      (base = 16 → text[0]? = some 0x30 → ¬ (text[1]? = some 0x78 ∨ text[1]? = some 0x58)) →
      PrefixView base text (base, 0)

theorem strtoullPrefix_view (base : Int) (text : List (BitVec 8)) :
    PrefixView base text (strtoullPrefix base text) := by
  unfold strtoullPrefix
  split
  · rename_i h
    obtain ⟨hbase, hzero, hx⟩ := h
    match text, hzero, hx with
    | zero :: x :: rest, hzero, hx =>
      cases hzero
      exact .hexadecimal hbase (by simpa using hx)
  · rename_i hhex
    split
    · rename_i h
      obtain ⟨hbase, hzero⟩ := h
      match text, hzero with
      | zero :: rest, hzero =>
        cases hzero
        exact .octal hbase fun hx => hhex ⟨.inl hbase, rfl, hx⟩
    · rename_i hoct
      split
      · rename_i hbase
        exact .decimal hbase fun hzero => hoct ⟨hbase, hzero⟩
      · rename_i hbase
        exact .plain hbase fun h16 hzero hx => hhex ⟨.inr h16, hzero, hx⟩

/-- The longest number that a text begins with: its length and its value. A prefix without digits
after it is the number 0. -/
def longestNumeral (base : Int) (text : List (BitVec 8)) : Option (Nat × Nat) :=
  let chosen := strtoullPrefix base text
  let run := digitRun chosen.1.toNat (text.drop chosen.2)
  if run = [] then if chosen.2 = 0 then none else some (1, 0)
  else some (chosen.2 + run.length, numberOf chosen.1.toNat run)

theorem digitOf_zero (hbase : 0 < base) : digitOf base 0x30 = some 0 := by
  rw [digitOf, show digitValue 0x30 = some 0 from rfl, Option.filter_some,
    if_pos (by simpa using hbase)]

theorem take_length_digitRun : text.take (digitRun base text).length = digitRun base text :=
  (List.prefix_iff_eq_take.mp (List.takeWhile_prefix _)).symm

theorem length_digitRun_le : (digitRun base text).length ≤ text.length :=
  (List.takeWhile_prefix _).length_le

theorem digitRun_ne_nil (hne : ds ≠ []) (h : ds <+: digitRun base text) :
    digitRun base text ≠ [] := by
  intro hrun
  rw [hrun] at h
  exact hne (List.prefix_nil.mp h)

theorem numberOf_of_length (h : ds <+: digitRun base text)
    (hlen : ds.length = (digitRun base text).length) :
    numberOf base ds = numberOf base (digitRun base text) := by
  rw [h.eq_of_length hlen]

theorem digitOf_x (hx : x = 0x78 ∨ x = 0x58) (hbase : base ≤ 16) : digitOf base x = none := by
  have hvalue : digitValue x = some 33 := by
    rcases hx with rfl | rfl <;> rfl
  rw [digitOf, hvalue, Option.filter_some, if_neg]
  simp
  omega

theorem eq_nil_of_prefix_x (hx : x = 0x78 ∨ x = 0x58) (hbase : base ≤ 16) (hds : AllDigits base ds)
    (h : ds <+: x :: rest) : ds = [] := by
  cases ds with
  | nil => rfl
  | cons d ds =>
    have hd : d = x := (List.cons_prefix_cons.mp h).1
    have hdigit := hds d List.mem_cons_self
    rw [hd, digitOf_x hx hbase] at hdigit
    cases hdigit

variable {base : Int}

theorem numeral_zero (hbase : base = 0 ∨ 2 ≤ base) : Numeral base [0x30] 0 := by
  rcases hbase with rfl | hbase
  · exact .octal fun c hc => by cases hc
  · have hpos : 0 < base.toNat := by omega
    have hnumber : numberOf base.toNat [0x30] = 0 := by
      rw [numberOf_cons (digitOf_zero hpos), Nat.zero_mul]
      rfl
    rw [← hnumber]
    refine .digits (by omega) (by simp) fun c hc => ?_
    rw [List.mem_singleton.mp hc, digitOf_zero hpos]
    rfl

theorem PrefixView.numeral (h : PrefixView base text chosen) (hne : ds ≠ [])
    (hds : AllDigits chosen.1.toNat ds) (hpre : ds <+: text.drop chosen.2) :
    Numeral base (text.take chosen.2 ++ ds) (numberOf chosen.1.toNat ds) := by
  cases h with
  | hexadecimal hb hx => exact .hexadecimal hb hx hne hds
  | octal hb =>
    subst hb
    exact .octal hds
  | decimal hb hzero =>
    subst hb
    obtain ⟨d, ds, rfl⟩ := List.exists_cons_of_ne_nil hne
    obtain ⟨rest, rfl⟩ := hpre
    refine .decimal ?_ hds
    rintro rfl
    exact hzero rfl
  | plain hb => exact .digits hb hne hds

theorem numeral_longestNumeral (hbase : base = 0 ∨ 2 ≤ base) {l : Nat}
    (h : longestNumeral base text = some (l, v)) :
    Numeral base (text.take l) v ∧ l ≤ text.length := by
  unfold longestNumeral at h
  have hview := strtoullPrefix_view base text
  generalize strtoullPrefix base text = chosen at h hview
  dsimp only at h
  split at h
  · split at h
    · cases h
    · rename_i hpos
      cases h
      cases hview with
      | hexadecimal => exact ⟨numeral_zero hbase, by simp⟩
      | octal => exact ⟨numeral_zero hbase, by simp⟩
      | decimal => exact absurd rfl hpos
      | plain => exact absurd rfl hpos
  · rename_i hrun
    cases h
    have hle : (digitRun chosen.1.toNat (text.drop chosen.2)).length ≤ _ := length_digitRun_le
    have hlen := List.length_pos_iff.mpr hrun
    rw [List.length_drop] at hle
    refine ⟨?_, by omega⟩
    rw [List.take_add, take_length_digitRun]
    exact hview.numeral hrun allDigits_digitRun (List.takeWhile_prefix _)

theorem longestNumeral_of_zero (hchosen : strtoullPrefix base text = chosen)
    (hpos : 0 < chosen.2) :
    ∃ l m, longestNumeral base text = some (l, m) ∧ 1 ≤ l ∧ (1 = l → 0 = m) := by
  unfold longestNumeral
  rw [hchosen]
  dsimp only
  split
  · rw [if_neg (Nat.ne_of_gt hpos)]
    exact ⟨1, 0, rfl, Nat.le_refl 1, fun _ => rfl⟩
  · rename_i hrun
    have hlen := List.length_pos_iff.mpr hrun
    exact ⟨_, _, rfl, by omega, fun h => by omega⟩

theorem longestNumeral_of_digits (hchosen : strtoullPrefix base text = chosen)
    (hds : AllDigits chosen.1.toNat ds) (hne : ds ≠ []) (h : ds <+: text.drop chosen.2) :
    ∃ l m, longestNumeral base text = some (l, m) ∧ chosen.2 + ds.length ≤ l ∧
      (chosen.2 + ds.length = l → numberOf chosen.1.toNat ds = m) := by
  have hrun := prefix_digitRun hds h
  unfold longestNumeral
  rw [hchosen]
  rw [if_neg (digitRun_ne_nil hne hrun)]
  refine ⟨_, _, rfl, Nat.add_le_add_left hrun.length_le _, fun hlen => ?_⟩
  exact numberOf_of_length hrun (Nat.add_left_cancel hlen)

theorem longestNumeral_of_numeral (h : Numeral base body v) (hpre : body <+: text) :
    ∃ l m, longestNumeral base text = some (l, m) ∧ body.length ≤ l ∧
      (body.length = l → v = m) := by
  have hview := strtoullPrefix_view base text
  generalize hchosen : strtoullPrefix base text = chosen at hview
  cases h with
  | digits hb hne hds =>
    cases hview with
    | hexadecimal h16 hx =>
      -- the digits of base 16 end at the letter: the number is the zero before it
      obtain rfl : base = 16 := h16.resolve_left hb
      obtain ⟨d, ds, rfl⟩ := List.exists_cons_of_ne_nil hne
      obtain ⟨rfl, hrest⟩ := List.cons_prefix_cons.mp hpre
      obtain rfl := eq_nil_of_prefix_x hx (Nat.le_refl 16)
        (fun c hc => hds c (List.mem_cons_of_mem _ hc)) hrest
      exact longestNumeral_of_zero hchosen (by decide)
    | octal h0 => exact absurd h0 hb
    | decimal h0 => exact absurd h0 hb
    | plain => simpa using longestNumeral_of_digits hchosen hds hne hpre
  | hexadecimal hb hx hne hds =>
    rename_i x ds
    obtain ⟨rest, rfl⟩ := hpre
    cases hview with
    | hexadecimal =>
      have h := longestNumeral_of_digits hchosen hds hne (List.prefix_append ds rest)
      rwa [Nat.add_comm] at h
    | octal _ hno => exact absurd (by simpa using hx) hno
    | decimal _ hno => exact absurd rfl hno
    | plain h0 hno => exact absurd (by simpa using hx) (hno (hb.resolve_left h0) rfl)
  | octal hds =>
    rename_i ds
    obtain ⟨rest, rfl⟩ := hpre
    generalize htext : (0x30 :: ds ++ rest : List (BitVec 8)) = text at hchosen hview
    cases hview with
    | hexadecimal _ hx =>
      have htail : ds ++ rest = _ := (List.cons.inj htext).2
      obtain rfl := eq_nil_of_prefix_x hx (by decide) hds (htail ▸ List.prefix_append ds rest)
      exact longestNumeral_of_zero hchosen (by decide)
    | octal =>
      have htail : ds ++ rest = _ := (List.cons.inj htext).2
      by_cases hne : ds = []
      · subst hne
        exact longestNumeral_of_zero hchosen (by decide)
      · have h := longestNumeral_of_digits hchosen hds hne (htail ▸ List.prefix_append ds rest)
        rwa [Nat.add_comm] at h
    | decimal _ hno => exact absurd (by rw [← htext]; rfl) hno
    | plain h0 => exact absurd rfl h0
  | decimal hd hds =>
    rename_i d ds
    cases hview with
    | hexadecimal => exact absurd (List.cons_prefix_cons.mp hpre).1 hd
    | octal => exact absurd (List.cons_prefix_cons.mp hpre).1 hd
    | decimal =>
      have h := longestNumeral_of_digits hchosen hds (List.cons_ne_nil d ds) hpre
      simpa using h
    | plain h0 => exact absurd rfl h0

/-! ## The sign -/

theorem Numeral.digit_head (h : Numeral base (c :: body) v) : c ≠ 0x2b ∧ c ≠ 0x2d := by
  have hdigit : (digitValue c).isSome := by
    cases h with
    | digits _ _ hds =>
      obtain ⟨d, hd⟩ := Option.isSome_iff_exists.mp (hds c List.mem_cons_self)
      rw [(Option.filter_eq_some_iff.mp hd).1]
      rfl
    | hexadecimal => rfl
    | octal => rfl
    | decimal _ hds =>
      obtain ⟨d, hd⟩ := Option.isSome_iff_exists.mp (hds c List.mem_cons_self)
      rw [(Option.filter_eq_some_iff.mp hd).1]
      rfl
  constructor
  · rintro rfl
    cases hdigit
  · rintro rfl
    cases hdigit

theorem Numeral.ne_nil (h : Numeral base body v) : body ≠ [] := by
  cases h with
  | digits _ hne => exact hne
  | hexadecimal => exact List.cons_ne_nil _ _
  | octal => exact List.cons_ne_nil _ _
  | decimal => exact List.cons_ne_nil _ _

theorem subject_iff {subject : List (BitVec 8)} :
    (Subject base subject negative v ∧ subject <+: text) ↔
      ∃ body, Numeral base body v ∧ body <+: text.drop (strtoullSign text).1 ∧
        subject = text.take (strtoullSign text).1 ++ body ∧ negative = (strtoullSign text).2 := by
  unfold strtoullSign
  constructor
  · rintro ⟨h, hpre⟩
    obtain ⟨rest, rfl⟩ := hpre
    cases h with
    | unsigned hbody =>
      obtain ⟨c, body, rfl⟩ := List.exists_cons_of_ne_nil hbody.ne_nil
      obtain ⟨hplus, hminus⟩ := hbody.digit_head
      have hsign : ¬ ((c :: body ++ rest)[0]? = some 0x2b ∨
          (c :: body ++ rest)[0]? = some 0x2d) := by
        rintro (h | h)
        · exact hplus (Option.some.inj h)
        · exact hminus (Option.some.inj h)
      rw [if_neg hsign]
      exact ⟨c :: body, hbody, List.prefix_append _ _, rfl, rfl⟩
    | plus hbody =>
      rename_i body
      exact ⟨body, hbody, by simp⟩
    | minus hbody =>
      rename_i body
      exact ⟨body, hbody, by simp⟩
  · rintro ⟨body, hbody, hpre, rfl, rfl⟩
    split at hpre
    · rename_i hsign
      match text, hsign, hpre with
      | c :: text, hsign, hpre =>
        obtain ⟨rest, hrest⟩ := hpre
        have htext : text = body ++ rest := hrest.symm
        subst htext
        rcases hsign with hsign | hsign
        · cases hsign
          exact ⟨.plus hbody, by simp⟩
        · cases hsign
          exact ⟨.minus hbody, by simp⟩
    · rename_i hsign
      rw [if_neg hsign]
      exact ⟨.unsigned hbody, hpre⟩

/-! ## The prescribed result -/

/-- The part of the text that a number may be in: after the white space and the sign. -/
def numberText (nptr : List (BitVec 8)) : List (BitVec 8) :=
  let rest := nptr.dropWhile asciiIsspace
  rest.drop (strtoullSign rest).1

def numberStart (nptr : List (BitVec 8)) : Nat :=
  (nptr.takeWhile asciiIsspace).length + (strtoullSign (nptr.dropWhile asciiIsspace)).1

def numberNegative (nptr : List (BitVec 8)) : Bool :=
  (strtoullSign (nptr.dropWhile asciiIsspace)).2

theorem length_take_sign (hne : body ≠ []) (h : body <+: rest.drop (strtoullSign rest).1) :
    (rest.take (strtoullSign rest).1).length = (strtoullSign rest).1 := by
  have hle := h.length_le
  have hpos := List.length_pos_iff.mpr hne
  rw [List.length_drop] at hle
  rw [List.length_take]
  omega

theorem prescribed_iff (hbase : base = 0 ∨ 2 ≤ base) {r : BitVec 64 × Nat} :
    Prescribed nptr base r ↔
      r = match longestNumeral base (numberText nptr) with
        | none => (0, 0)
        | some (l, v) => (prescribedValue (numberNegative nptr) v, numberStart nptr + l) := by
  unfold Prescribed numberText numberStart numberNegative
  generalize nptr.dropWhile asciiIsspace = rest
  cases hlongest : longestNumeral base (rest.drop (strtoullSign rest).1) with
  | none =>
    have hnone : ∀ subject negative v, Subject base subject negative v → ¬ subject <+: rest := by
      intro subject negative v h hpre
      obtain ⟨body, hbody, hin, -⟩ := subject_iff.mp ⟨h, hpre⟩
      obtain ⟨l, m, hsome, -⟩ := longestNumeral_of_numeral hbody hin
      rw [hlongest] at hsome
      cases hsome
    constructor
    · rintro (⟨subject, negative, v, h, hpre, -⟩ | ⟨-, rfl⟩)
      · exact absurd hpre (hnone _ _ _ h)
      · rfl
    · rintro rfl
      exact .inr ⟨hnone, rfl⟩
  | some lv =>
    obtain ⟨l, v⟩ := lv
    obtain ⟨hnumeral, hle⟩ := numeral_longestNumeral hbase hlongest
    have hin : (rest.drop (strtoullSign rest).1).take l <+: rest.drop (strtoullSign rest).1 :=
      List.take_prefix _ _
    have hlength : ((rest.drop (strtoullSign rest).1).take l).length = l :=
      List.length_take_of_le hle
    have hsign := length_take_sign hnumeral.ne_nil hin
    obtain ⟨hsubject, hpre⟩ := subject_iff.mpr ⟨_, hnumeral, hin, rfl, rfl⟩
    constructor
    · rintro (⟨subject, negative, v', h, hpre', hmax, rfl⟩ | ⟨hnone, -⟩)
      · obtain ⟨body, hbody, hin', rfl, rfl⟩ := subject_iff.mp ⟨h, hpre'⟩
        obtain ⟨l', m, hsome, hle', heq⟩ := longestNumeral_of_numeral hbody hin'
        obtain ⟨rfl, rfl⟩ : l = l' ∧ v = m := by simpa [hlongest] using hsome
        have hlong := hmax _ _ _ hsubject hpre
        rw [List.length_append, List.length_append, hlength] at hlong
        have hlen : body.length = l := by omega
        rw [heq hlen, List.length_append, hsign, hlen, ← Nat.add_assoc]
      · exact absurd hpre (hnone _ _ _ hsubject)
    · rintro rfl
      refine .inl ⟨_, _, v, hsubject, hpre, fun subject' negative' v' h hpre' => ?_, ?_⟩
      · obtain ⟨body, hbody, hin', rfl, -⟩ := subject_iff.mp ⟨h, hpre'⟩
        obtain ⟨l', m, hsome, hle', -⟩ := longestNumeral_of_numeral hbody hin'
        obtain ⟨rfl, -⟩ : l = l' ∧ v = m := by simpa [hlongest] using hsome
        rw [List.length_append, List.length_append, hlength]
        omega
      · rw [List.length_append, hsign, hlength, ← Nat.add_assoc]

/-! ## The runtime's result -/

def chosenBase (nptr : List (BitVec 8)) (base : Int) : Nat :=
  (strtoullPrefix base (numberText nptr)).1.toNat

def chosenPrefix (nptr : List (BitVec 8)) (base : Int) : Nat :=
  (strtoullPrefix base (numberText nptr)).2

def chosenDigits (nptr : List (BitVec 8)) (base : Int) : List (BitVec 8) :=
  digitRun (chosenBase nptr base) ((numberText nptr).drop (chosenPrefix nptr base))

def wrappedValue (negative : Bool) (v : Nat) : BitVec 64 :=
  if negative then -BitVec.ofNat 64 v else BitVec.ofNat 64 v

theorem drop_takeWhile_length {α : Type} (p : α → Bool) (xs : List α) :
    xs.drop (xs.takeWhile p).length = xs.dropWhile p := by
  have hsplit : xs.takeWhile p ++ xs.dropWhile p = xs := List.takeWhile_append_dropWhile
  calc xs.drop (xs.takeWhile p).length
      = (xs.takeWhile p ++ xs.dropWhile p).drop (xs.takeWhile p).length := by rw [hsplit]
    _ = xs.dropWhile p := List.drop_left

section

variable (hbase : base = 0 ∨ 2 ≤ base ∧ base ≤ 36)

include hbase

theorem strtoullPrefix_bounds :
    ¬ ((strtoullPrefix base text).1 < 2 ∨ 36 < (strtoullPrefix base text).1) := by
  have hview := strtoullPrefix_view base text
  generalize strtoullPrefix base text = chosen at hview
  cases hview with
  | hexadecimal => decide
  | octal => decide
  | decimal => decide
  | plain hne => omega

theorem polyexecStrtoullC_eq : polyexecStrtoullC nptr base =
      if chosenDigits nptr base = [] then (0, 0)
      else
        (wrappedValue (numberNegative nptr)
            (numberOf (chosenBase nptr base) (chosenDigits nptr base)),
          numberStart nptr + (chosenPrefix nptr base + (chosenDigits nptr base).length)) := by
  have htext : nptr.drop (numberStart nptr) = numberText nptr := by
    rw [numberStart, ← List.drop_drop, drop_takeWhile_length, numberText]
  have hdigits : nptr.drop (numberStart nptr + chosenPrefix nptr base) =
      (numberText nptr).drop (chosenPrefix nptr base) := by
    rw [← List.drop_drop, htext]
  have hloop := strtoullDigits_eq (chosenBase nptr base)
    ((numberText nptr).drop (chosenPrefix nptr base)) 0
  unfold polyexecStrtoullC
  dsimp only
  rw [drop_takeWhile_length, ← numberStart, htext, if_neg (strtoullPrefix_bounds hbase),
    ← chosenPrefix, hdigits, ← chosenBase]
  rw [show (0 : BitVec 64) = BitVec.ofNat 64 0 from rfl, hloop, Nat.zero_mul, Nat.zero_add,
    ← chosenDigits, ← numberNegative, Nat.add_assoc]
  by_cases hnil : chosenDigits nptr base = []
  · rw [if_pos hnil, if_pos (by rw [hnil]; rfl)]
  · rw [if_neg hnil, if_neg (by simpa using hnil)]
    rfl

end

/-- The prefix that the text chooses is followed by a digit, and the number has 64 bits or is
`ULLONG_MAX` modulo 2^64. -/
structure Exact (nptr : List (BitVec 8)) (base : Int) : Prop where
  digits : chosenPrefix nptr base ≠ 0 → chosenDigits nptr base ≠ []
  number : numberOf (chosenBase nptr base) (chosenDigits nptr base) < 2 ^ 64 ∨
    wrappedValue (numberNegative nptr) (numberOf (chosenBase nptr base) (chosenDigits nptr base)) =
      BitVec.allOnes 64

theorem prescribedValue_eq_iff :
    wrappedValue negative v = prescribedValue negative v ↔
      v < 2 ^ 64 ∨ wrappedValue negative v = BitVec.allOnes 64 := by
  unfold prescribedValue
  by_cases hv : 2 ^ 64 ≤ v
  · rw [if_pos hv]
    exact ⟨.inr, fun h => h.resolve_left (Nat.not_lt.mpr hv)⟩
  · rw [if_neg hv]
    exact ⟨fun _ => .inl (Nat.lt_of_not_le hv), fun _ => rfl⟩

/-- The runtime's result is the one that C prescribes exactly if the text is `Exact`. -/
theorem strtoull_prescribed_iff (nptr : List (BitVec 8)) (base : Int)
    (hbase : base = 0 ∨ 2 ≤ base ∧ base ≤ 36) :
    Prescribed nptr base (polyexecStrtoullC nptr base) ↔ Exact nptr base := by
  rw [prescribed_iff (hbase.imp_right And.left), polyexecStrtoullC_eq hbase]
  have hlongest : longestNumeral base (numberText nptr) =
      if chosenDigits nptr base = [] then
        if chosenPrefix nptr base = 0 then none else some (1, 0)
      else
        some (chosenPrefix nptr base + (chosenDigits nptr base).length,
          numberOf (chosenBase nptr base) (chosenDigits nptr base)) := rfl
  rw [hlongest]
  by_cases hnil : chosenDigits nptr base = []
  · rw [if_pos hnil, if_pos hnil]
    by_cases hzero : chosenPrefix nptr base = 0
    · rw [if_pos hzero]
      refine ⟨fun _ => ⟨fun h => absurd hzero h, .inl ?_⟩, fun _ => rfl⟩
      rw [hnil]
      exact Nat.two_pow_pos 64
    · rw [if_neg hzero]
      constructor
      · intro h
        have hend : 0 = numberStart nptr + 1 := congrArg Prod.snd h
        exact absurd hend (Nat.succ_ne_zero _).symm
      · intro h
        exact absurd hnil (h.digits hzero)
  · rw [if_neg hnil, if_neg hnil]
    constructor
    · intro h
      exact ⟨fun _ => hnil, prescribedValue_eq_iff.mp (congrArg Prod.fst h)⟩
    · intro h
      exact Prod.ext (prescribedValue_eq_iff.mpr h.number) rfl

/-- The text `0x1F` in base 16. -/
theorem strtoull_prescribed_iff_hex :
    (2 ≤ (16 : Int) ∧ (16 : Int) ≤ 36) ∧
      Prescribed [0x30, 0x78, 0x31, 0x46] 16 (polyexecStrtoullC [0x30, 0x78, 0x31, 0x46] 16) ∧
      polyexecStrtoullC [0x30, 0x78, 0x31, 0x46] 16 = (0x1f, 4) := by
  refine ⟨by decide, ?_, by decide⟩
  exact (strtoull_prescribed_iff [0x30, 0x78, 0x31, 0x46] 16 (by decide)).mpr
    ⟨fun _ => by decide, .inl (by decide)⟩

/-- The text `0` in base 0: C prescribes the end of the text, and the runtime returns its start. -/
theorem strtoull_lone_zero :
    Prescribed [0x30] 0 (0, 1) ∧ polyexecStrtoullC [0x30] 0 = (0, 0) ∧
      ¬ Prescribed [0x30] 0 (polyexecStrtoullC [0x30] 0) := by
  have hresult : polyexecStrtoullC [0x30] 0 = (0, 0) := by decide
  have hlongest : longestNumeral 0 (numberText [0x30]) = some (1, 0) := by decide
  refine ⟨(prescribed_iff (.inl rfl)).mpr (by rw [hlongest]; decide), hresult, fun h => ?_⟩
  rw [hresult, prescribed_iff (.inl rfl), hlongest] at h
  exact absurd h (by decide)

end Poly.Polyexec
