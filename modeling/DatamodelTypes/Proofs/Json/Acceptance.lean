/-
DatamodelTypes.Proofs.Json.Acceptance — the reader takes nothing but what
spells a value.

`Proofs.Json.Reading` shows that every spelling is read. This module is
the other direction, and `read_eq_ok` is both: the texts that the reader
accepts as a value are exactly those that spell it.

## How the proof goes

`StartsWith Piece cs rest` says what a reader that succeeded has done: it
took a piece of the right kind off `cs` and left `rest`. There is one
lemma for each reader, from the digits of an escape outwards, and the
readers of a container are treated for any reader of the values inside
(`OnlyReads`). The induction on the nesting limit comes last.

Blanks are skipped before a token and never behind it. So a value is a
piece of `skipBlanks cs` and not of `cs`; the blanks around it are put
back by `StartsWith.padded`, where it is known which token follows.
-/
import DatamodelTypes.Proofs.Json.Reading
import Mathlib.Data.List.TakeWhile

namespace DatamodelTypes.Json

open Text (Fault)

/-- A text that starts with a piece of some kind, and what is left behind
the piece. -/
def StartsWith (Piece : List Char → Prop) (cs rest : List Char) : Prop :=
  ∃ piece, Piece piece ∧ cs = piece ++ rest

/-! ## 1. Blanks -/

theorem startsWith_blank (cs : List Char) : StartsWith Blank cs (skipBlanks cs) := by
  refine ⟨cs.takeWhile isBlank, ?_, List.takeWhile_append_dropWhile.symm⟩
  intro c hc
  exact List.all_eq_true.1 List.all_takeWhile c hc

/-- The blanks on both sides of a piece, put back. -/
theorem StartsWith.padded {Piece : List Char → Prop} {cs rest : List Char}
    (h : StartsWith Piece (skipBlanks cs) rest) :
    StartsWith (Padded Piece) cs (skipBlanks rest) := by
  obtain ⟨piece, hpiece, hskip⟩ := h
  obtain ⟨before, hbefore, hcs⟩ := startsWith_blank cs
  obtain ⟨after, hafter, hrest⟩ := startsWith_blank rest
  refine ⟨before ++ piece ++ after, .intro hbefore hpiece hafter, ?_⟩
  rw [hskip] at hcs
  rw [hcs]
  conv => lhs; rw [hrest]
  simp only [List.append_assoc]

theorem skipBlanks_eq_nil {cs : List Char} : skipBlanks cs = [] ↔ Blank cs := by
  rw [skipBlanks, List.dropWhile_eq_nil_iff, Blank]

/-- A text ends where nothing but blanks are left. -/
theorem expectEnd_eq_ok {cs : List Char} {value : Unit} :
    expectEnd cs = .ok value ↔ Blank cs := by
  rw [← skipBlanks_eq_nil, expectEnd]
  cases skipBlanks cs with
  | nil => simp
  | cons c rest => simp

/-! ## 2. Strings -/

/-- Four hexadecimal digits write a number of 16 bits. -/
theorem hexQuad?_lt {a b c d : Char} {unit : Nat} (h : hexQuad? a b c d = some unit) :
    unit < 0x10000 := by
  have hlt : unit < (0 + 1) * Nat.pow 16 4 := Text.ofHexDigits?_lt h
  exact hlt

theorem startsWith_of_readUnit {cs rest : List Char} {unit : Nat}
    (h : readUnit cs = .ok (unit, rest)) :
    StartsWith (UnitSpelling unit) ('\\' :: 'u' :: cs) rest ∧ unit < 0x10000 := by
  unfold readUnit at h
  split at h
  · rename_i a b c d tail
    split at h
    · rename_i value hvalue
      cases h
      exact ⟨⟨_, .digits hvalue, rfl⟩, hexQuad?_lt hvalue⟩
    · cases h
  · cases h

theorem expectInPair_eq_ok {c : Char} {cs rest : List Char} (h : expectInPair c cs = .ok rest) :
    cs = c :: rest := by
  unfold expectInPair at h
  split at h
  · cases h
  · split at h
    · rename_i hd
      cases h
      rw [hd]
    · cases h

theorem startsWith_of_readLowSurrogate {cs rest : List Char} {low : Nat}
    (h : readLowSurrogate cs = .ok (low, rest)) :
    StartsWith (UnitSpelling low) cs rest ∧ isLowSurrogate low = true := by
  simp only [readLowSurrogate, bind_eq_ok] at h
  obtain ⟨behindSlash, hslash, behindU, hu, ⟨unit, rest⟩, hunit, h⟩ := h
  split at h
  · rename_i hlow
    cases h
    rw [expectInPair_eq_ok hslash, expectInPair_eq_ok hu]
    exact ⟨(startsWith_of_readUnit hunit).1, hlow⟩
  · cases h

/-- A unit that is no half of a pair is the number of a character. -/
theorem toNat_ofNat_of_not_surrogate {unit : Nat} (h : unit < 0x10000)
    (hhigh : isHighSurrogate unit = false) (hlow : isLowSurrogate unit = false) :
    (Char.ofNat unit).toNat = unit := by
  simp only [isHighSurrogate, isLowSurrogate, Bool.and_eq_false_iff, decide_eq_false_iff_not]
    at hhigh hlow
  have hvalid : unit.isValidChar := by
    unfold Nat.isValidChar
    omega
  unfold Char.ofNat
  rw [dif_pos hvalid]
  rfl

theorem startsWith_of_readCodePoint {cs rest : List Char} {c : Char}
    (h : readCodePoint cs = .ok (c, rest)) :
    StartsWith (CharSpelling c) ('\\' :: 'u' :: cs) rest := by
  simp only [readCodePoint, bind_eq_ok] at h
  obtain ⟨⟨unit, behindUnit⟩, hunit, h⟩ := h
  obtain ⟨⟨piece, spelled, hpiece⟩, hbound⟩ := startsWith_of_readUnit hunit
  rw [hpiece]
  split at h
  · cases h
  · rename_i hlow
    split at h
    · rename_i hhigh
      simp only [bind_eq_ok] at h
      obtain ⟨⟨low, behindLow⟩, hreadLow, h⟩ := h
      obtain ⟨rfl, rfl⟩ : surrogatePair unit low = c ∧ behindLow = rest := by simpa using h
      obtain ⟨⟨lowPiece, spelledLow, rfl⟩, hisLow⟩ := startsWith_of_readLowSurrogate hreadLow
      refine ⟨piece ++ lowPiece, .pair spelled spelledLow hhigh hisLow rfl, ?_⟩
      rw [List.append_assoc]
    · rename_i hhigh
      cases h
      have hunit := toNat_ofNat_of_not_surrogate hbound (by simpa using hhigh) (by simpa using hlow)
      exact ⟨piece, .unit (hunit.symm ▸ spelled), rfl⟩

theorem startsWith_of_readEscape {cs rest : List Char} {c : Char}
    (h : readEscape cs = .ok (c, rest)) : StartsWith (CharSpelling c) ('\\' :: cs) rest := by
  unfold readEscape at h
  split at h
  · cases h
  · rename_i letter tail
    split at h
    · rename_i escaped hescaped
      cases h
      exact ⟨['\\', letter], .short hescaped, rfl⟩
    · split at h
      · rename_i hu
        rw [hu]
        exact startsWith_of_readCodePoint h
      · cases h

theorem startsWith_of_readStringWithin {bound : Nat} {cs body rest : List Char}
    (h : readStringWithin bound cs = .ok (body, rest)) :
    StartsWith (TextSpelling body) cs ('"' :: rest) := by
  induction bound generalizing cs body with
  | zero => cases h
  | succ bound ih =>
    unfold readStringWithin at h
    split at h
    · contradiction
    · cases h
    · rename_i bound' c tail hbound
      obtain rfl : bound = bound' := Nat.succ.inj hbound
      split at h
      · rename_i hquote
        cases h
        exact ⟨[], .nil, by rw [hquote]; rfl⟩
      · rename_i hquote
        split at h
        · rename_i hslash
          simp only [bind_eq_ok] at h
          obtain ⟨⟨escaped, behind⟩, hescape, ⟨others, _⟩, hothers, h⟩ := h
          cases h
          obtain ⟨piece, spelled, hpiece⟩ := startsWith_of_readEscape hescape
          obtain ⟨text, spelledOthers, rfl⟩ := ih hothers
          refine ⟨piece ++ text, .cons spelled spelledOthers, ?_⟩
          rw [hslash, hpiece, List.append_assoc]
        · rename_i hslash
          split at h
          · cases h
          · rename_i hcontrol
            simp only [bind_eq_ok] at h
            obtain ⟨⟨others, _⟩, hothers, h⟩ := h
            cases h
            obtain ⟨text, spelledOthers, rfl⟩ := ih hothers
            exact ⟨[c] ++ text, .cons (.plain hquote hslash (by simpa using hcontrol)) spelledOthers,
              rfl⟩

theorem startsWith_of_readString {cs rest : List Char} {text : String}
    (h : readString cs = .ok (text, rest)) :
    StartsWith (StringSpelling text) ('"' :: cs) rest := by
  simp only [readString, bind_eq_ok] at h
  obtain ⟨⟨body, behind⟩, hread, h⟩ := h
  cases h
  obtain ⟨piece, spelled, rfl⟩ := startsWith_of_readStringWithin hread
  refine ⟨'"' :: piece ++ ['"'], .quoted ?_, by simp⟩
  rw [String.toList_ofList]
  exact spelled

/-! ## 3. Numbers -/

theorem digits_of_scanDigits {atEnd : Cause} {cs digits rest : List Char}
    (h : scanDigits atEnd cs = .ok (digits, rest)) : Digits digits ∧ cs = digits ++ rest := by
  unfold scanDigits at h
  split at h
  · cases h
  · rename_i c tail
    split at h
    · rename_i hc
      have hspan : spanDigits (c :: tail) = (digits, rest) := by simpa using h
      have hsplit := spanDigits_append (c :: tail)
      have hall : ∀ d ∈ (spanDigits (c :: tail)).1, d.isDigit = true :=
        fun _ hd => isDigit_of_mem_spanDigits hd
      rw [hspan] at hsplit hall
      refine ⟨⟨?_, hall⟩, hsplit.symm⟩
      rintro rfl
      simp [spanDigits, hc] at hspan
    · cases h

theorem whole_of_scanWhole {atEnd : Cause} {cs whole rest : List Char}
    (h : scanWhole atEnd cs = .ok (whole, rest)) : WholeSpelling whole ∧ cs = whole ++ rest := by
  unfold scanWhole at h
  split at h
  · split at h
    · split at h
      · cases h
      · cases h
        exact ⟨.zero, rfl⟩
    · cases h
      exact ⟨.zero, rfl⟩
  · rename_i hzero
    obtain ⟨hdigits, rfl⟩ := digits_of_scanDigits h
    refine ⟨.digits hdigits ?_, rfl⟩
    intro hhead
    obtain ⟨tail, rfl⟩ := List.head?_eq_some_iff.1 hhead
    exact hzero _ rfl

theorem startsWith_of_scanFraction {atEnd : Cause} {cs rest : List Char}
    {fraction : Option (List Char)} (h : scanFraction atEnd cs = .ok (fraction, rest)) :
    StartsWith (FractionSpelling fraction) cs rest := by
  unfold scanFraction at h
  split at h
  · simp only [bind_eq_ok] at h
    obtain ⟨⟨digits, behind⟩, hscan, h⟩ := h
    cases h
    obtain ⟨hdigits, rfl⟩ := digits_of_scanDigits hscan
    exact ⟨'.' :: digits, .digits hdigits, rfl⟩
  · cases h
    exact ⟨[], .none, rfl⟩

theorem startsWith_of_scanExponentSign (cs : List Char) :
    StartsWith (ExponentSignSpelling (scanExponentSign cs).1) cs (scanExponentSign cs).2 := by
  unfold scanExponentSign
  split
  · exact ⟨['+'], .plus, rfl⟩
  · exact ⟨['-'], .sign .minus, rfl⟩
  · exact ⟨[], .sign .none, rfl⟩

theorem startsWith_of_scanExponent {atEnd : Cause} {cs rest : List Char}
    {exponent : Option (Bool × List Char)} (h : scanExponent atEnd cs = .ok (exponent, rest)) :
    StartsWith (ExponentSpelling exponent) cs rest := by
  unfold scanExponent at h
  split at h
  · rename_i c tail
    split at h
    · rename_i hmark
      obtain ⟨sign, spelledSign, htail⟩ := startsWith_of_scanExponentSign tail
      simp only [bind_eq_ok] at h
      obtain ⟨⟨digits, behind⟩, hscan, h⟩ := h
      cases h
      obtain ⟨hdigits, hbehind⟩ := digits_of_scanDigits hscan
      refine ⟨c :: sign ++ digits, .digits hmark spelledSign hdigits, ?_⟩
      rw [htail, hbehind]
      simp
    · cases h
      exact ⟨[], .none, rfl⟩
  · cases h
    exact ⟨[], .none, rfl⟩

theorem startsWith_of_scanNumeral {atEnd : Cause} {cs rest : List Char} {numeral : Numeral}
    (h : scanNumeral atEnd cs = .ok (numeral, rest)) :
    StartsWith (NumeralSpelling numeral) cs rest := by
  unfold scanNumeral at h
  split at h
  rename_i negative unsigned hsign
  have hstart : StartsWith (SignSpelling negative) cs unsigned := by
    split at hsign
    · cases hsign
      exact ⟨['-'], .minus, rfl⟩
    · cases hsign
      exact ⟨[], .none, rfl⟩
  obtain ⟨sign, spelledSign, rfl⟩ := hstart
  simp only [bind_eq_ok] at h
  obtain ⟨⟨whole, _⟩, hwhole, ⟨fraction, _⟩, hfraction, ⟨exponent, _⟩, hexponent, h⟩ := h
  cases h
  obtain ⟨spelledWhole, rfl⟩ := whole_of_scanWhole hwhole
  obtain ⟨fractionText, spelledFraction, rfl⟩ := startsWith_of_scanFraction hfraction
  obtain ⟨exponentText, spelledExponent, rfl⟩ := startsWith_of_scanExponent hexponent
  exact ⟨sign ++ whole ++ fractionText ++ exponentText,
    .parts spelledSign spelledWhole spelledFraction spelledExponent, by simp⟩

theorem startsWith_of_readNumber {cs rest : List Char} {value : Json}
    (h : readNumber cs = .ok (value, rest)) : StartsWith (ScalarSpelling value) cs rest := by
  simp only [readNumber, bind_eq_ok] at h
  obtain ⟨⟨numeral, behind⟩, hscan, h⟩ := h
  obtain ⟨piece, spelled, rfl⟩ := startsWith_of_scanNumeral hscan
  split at h
  · rename_i hvalue
    cases h
    exact ⟨piece, .number spelled hvalue, rfl⟩
  · cases h

/-! ## 4. Values without containers -/

theorem readKeyword_eq_ok {keyword cs rest : List Char} (h : readKeyword keyword cs = .ok rest) :
    cs = keyword ++ rest := by
  induction keyword generalizing cs with
  | nil =>
    cases h
    rfl
  | cons k keyword ih =>
    cases cs with
    | nil => cases h
    | cons c cs =>
      unfold readKeyword at h
      split at h
      · rename_i hc
        rw [hc, ih h, List.cons_append]
      · cases h

theorem startsWith_of_readScalar {cs rest : List Char} {value : Json}
    (h : readScalar cs = .ok (value, rest)) : StartsWith (ScalarSpelling value) cs rest := by
  have hkeyword : ∀ {keyword cs : List Char} {found : Json},
      ((do return (found, ← readKeyword keyword cs)) : Except (Fault Cause) (Json × List Char))
        = .ok (value, rest) → value = found ∧ cs = keyword ++ rest := by
    intro keyword cs found h
    simp only [bind_eq_ok] at h
    obtain ⟨behind, hread, h⟩ := h
    cases h
    exact ⟨rfl, readKeyword_eq_ok hread⟩
  unfold readScalar at h
  split at h
  · cases h
  · obtain ⟨rfl, rfl⟩ := hkeyword h
    exact ⟨_, .null, rfl⟩
  · obtain ⟨rfl, rfl⟩ := hkeyword h
    exact ⟨_, .true, rfl⟩
  · obtain ⟨rfl, rfl⟩ := hkeyword h
    exact ⟨_, .false, rfl⟩
  · simp only [bind_eq_ok] at h
    obtain ⟨⟨text, behind⟩, hread, h⟩ := h
    cases h
    obtain ⟨piece, spelled, hpiece⟩ := startsWith_of_readString hread
    exact ⟨piece, .string spelled, hpiece⟩
  · split at h
    · exact startsWith_of_readNumber h
    · cases h

/-! ## 5. Containers -/

/-- A reader that takes nothing but spelled values. -/
def OnlyReads (item : ValueReader) (Inner : Json → List Char → Prop) : Prop :=
  ∀ {cs rest : List Char} {value : Json}, item cs = .ok (value, rest) →
    StartsWith (Inner value) (skipBlanks cs) rest

section Containers

variable {item : ValueReader} {Inner : Json → List Char → Prop}

theorem startsWith_of_readItems (only : OnlyReads item Inner) {bound : Nat}
    {cs rest : List Char} {values : List Json} (h : readItems item bound cs = .ok (values, rest)) :
    StartsWith (ItemsSpelling Inner values) cs (']' :: rest) := by
  induction bound generalizing cs values with
  | zero => cases h
  | succ bound ih =>
    simp only [readItems, bind_eq_ok] at h
    obtain ⟨⟨value, behind⟩, hitem, h⟩ := h
    obtain ⟨piece, spelled, hcs⟩ := (only hitem).padded
    split at h
    · rename_i hbracket
      cases h
      rw [hbracket] at hcs
      exact ⟨piece, .last spelled, hcs⟩
    · rename_i tail hcomma
      rw [hcomma] at hcs
      split at h
      · cases h
      · simp only [bind_eq_ok] at h
        obtain ⟨⟨others, _⟩, hothers, h⟩ := h
        cases h
        obtain ⟨text, spelledOthers, rfl⟩ := ih hothers
        exact ⟨piece ++ ',' :: text, .next spelled spelledOthers, by simp [hcs]⟩
    · cases h
    · cases h

theorem startsWith_of_readArray (only : OnlyReads item Inner) {cs rest : List Char} {value : Json}
    (h : readArray item cs = .ok (value, rest)) :
    StartsWith (ContainerSpelling Inner value) ('[' :: cs) rest := by
  unfold readArray at h
  split at h
  · rename_i hbracket
    cases h
    obtain ⟨blanks, hblank, hcs⟩ := startsWith_blank cs
    rw [hbracket] at hcs
    exact ⟨'[' :: blanks ++ [']'], .emptyArray hblank, by simp [hcs]⟩
  · cases h
  · simp only [bind_eq_ok] at h
    obtain ⟨⟨values, behind⟩, hread, h⟩ := h
    cases h
    obtain ⟨text, spelled, rfl⟩ := startsWith_of_readItems only hread
    exact ⟨'[' :: text ++ [']'], .array spelled, by simp⟩

theorem readColon_eq_ok {cs rest : List Char} (h : readColon cs = .ok rest) :
    skipBlanks cs = ':' :: rest := by
  unfold readColon at h
  split at h
  · rename_i hcolon
    cases h
    exact hcolon
  · cases h
  · cases h

theorem startsWith_of_readKey {cs rest : List Char} {name : String}
    (h : readKey cs = .ok (name, rest)) :
    StartsWith (Padded (StringSpelling name)) cs (':' :: rest) := by
  unfold readKey at h
  split at h
  · rename_i tail hquote
    simp only [bind_eq_ok] at h
    obtain ⟨⟨key, behind⟩, hread, _, hcolon, h⟩ := h
    cases h
    have hkey := startsWith_of_readString hread
    rw [← hquote] at hkey
    rw [← readColon_eq_ok hcolon]
    exact hkey.padded
  · cases h
  · cases h

theorem startsWith_of_readMembers (only : OnlyReads item Inner) {bound : Nat}
    {cs rest : List Char} {members : List (String × Json)}
    (h : readMembers item bound cs = .ok (members, rest)) :
    StartsWith (MembersSpelling Inner members) cs ('}' :: rest) := by
  induction bound generalizing cs members with
  | zero => cases h
  | succ bound ih =>
    simp only [readMembers, bind_eq_ok] at h
    obtain ⟨⟨name, behindName⟩, hname, ⟨value, behind⟩, hitem, h⟩ := h
    dsimp only at hitem h
    obtain ⟨namePiece, spelledName, rfl⟩ := startsWith_of_readKey hname
    obtain ⟨piece, spelled, hbehind⟩ := (only hitem).padded
    have hmember : MemberSpelling Inner (name, value) (namePiece ++ ':' :: piece) :=
      .pair spelledName spelled
    split at h
    · rename_i hbrace
      cases h
      rw [hbrace] at hbehind
      exact ⟨_, .last hmember, by simp [hbehind]⟩
    · rename_i tail hcomma
      rw [hcomma] at hbehind
      split at h
      · cases h
      · simp only [bind_eq_ok] at h
        obtain ⟨⟨others, _⟩, hothers, h⟩ := h
        cases h
        obtain ⟨text, spelledOthers, rfl⟩ := ih hothers
        exact ⟨_, .next hmember spelledOthers, by simp [hbehind]⟩
    · cases h
    · cases h

theorem startsWith_of_readObject (only : OnlyReads item Inner) {cs rest : List Char} {value : Json}
    (h : readObject item cs = .ok (value, rest)) :
    StartsWith (ContainerSpelling Inner value) ('{' :: cs) rest := by
  unfold readObject at h
  split at h
  · rename_i hbrace
    cases h
    obtain ⟨blanks, hblank, hcs⟩ := startsWith_blank cs
    rw [hbrace] at hcs
    exact ⟨'{' :: blanks ++ ['}'], .emptyObject hblank, by simp [hcs]⟩
  · cases h
  · simp only [bind_eq_ok] at h
    obtain ⟨⟨members, behind⟩, hread, h⟩ := h
    cases h
    obtain ⟨text, spelled, rfl⟩ := startsWith_of_readMembers only hread
    exact ⟨'{' :: text ++ ['}'], .object spelled, by simp⟩

end Containers

/-! ## 6. Values and texts -/

/-- The induction on the number of containers that may be open, as for
`finds_readValue`. -/
theorem onlyReads_readValue (depth : Nat) : OnlyReads (readValue depth) (ValueSpelling depth) := by
  induction depth with
  | zero =>
    intro cs rest value h
    simp only [readValue] at h
    split at h
    · cases h
    · cases h
    · exact startsWith_of_readScalar h
  | succ depth ih =>
    intro cs rest value h
    simp only [readValue] at h
    split at h
    · rename_i hbracket
      obtain ⟨piece, spelled, hpiece⟩ := startsWith_of_readArray ih h
      exact ⟨piece, .inr spelled, hbracket.trans hpiece⟩
    · rename_i hbrace
      obtain ⟨piece, spelled, hpiece⟩ := startsWith_of_readObject ih h
      exact ⟨piece, .inr spelled, hbrace.trans hpiece⟩
    · obtain ⟨piece, spelled, hpiece⟩ := startsWith_of_readScalar h
      exact ⟨piece, .inl spelled, hpiece⟩

theorem spells_of_read {text : String} {value : Json} (h : read text = .ok value) :
    Spells text value := by
  rw [read, mapError_eq_ok] at h
  simp only [readText, bind_eq_ok] at h
  obtain ⟨⟨_, rest⟩, hread, _, hend, h⟩ := h
  cases h
  obtain ⟨piece, spelled, htext⟩ := (onlyReads_readValue maxDepth hread).padded
  rw [skipBlanks_eq_nil.2 (expectEnd_eq_ok.1 hend), List.append_nil] at htext
  rw [Spells, htext]
  exact spelled

/-- A text is accepted as a value exactly when it spells that value. -/
theorem read_eq_ok {text : String} {value : Json} : read text = .ok value ↔ Spells text value :=
  ⟨spells_of_read, read_of_spells⟩

end DatamodelTypes.Json
