/-
DatamodelTypes.Proofs.Json.Reading — the reader finds the value that a
text spells.

The main statement is `read_of_spells`. It is proved along the relations
of `Proofs.Json.Spelling`, one lemma for each: a spelling with more text
behind it is read as what it spells, and the text behind it is left over.

Two side conditions come up. A number ends only where no character can
extend it, which `EndsNumber` says of the text behind it. And the loops
over items and members look ahead for a bracket behind a comma: no value
starts with one (`ValueSpelling.head`).
-/
import DatamodelTypes.Proofs.Cutting
import DatamodelTypes.Proofs.Except
import DatamodelTypes.Proofs.Json.Spelling

namespace DatamodelTypes.Json

open Text (Fault)

/-! ## 1. Blanks -/

theorem skipBlanks_append {before : List Char} (h : Blank before) (rest : List Char) :
    skipBlanks (before ++ rest) = skipBlanks rest :=
  List.dropWhile_append_of_pos h

theorem skipBlanks_cons {c : Char} (h : isBlank c = false) (rest : List Char) :
    skipBlanks (c :: rest) = c :: rest := by
  simp [skipBlanks, h]

/-- What a token starts with is found behind blanks. -/
theorem skipBlanks_append_cons {before : List Char} (h : Blank before) {c : Char}
    (hc : isBlank c = false) (rest : List Char) :
    skipBlanks (before ++ c :: rest) = c :: rest := by
  rw [skipBlanks_append h, skipBlanks_cons hc]

/-! ## 2. Strings -/

theorem UnitSpelling.readUnit {unit : Nat} {cs : List Char} (h : UnitSpelling unit cs)
    (rest : List Char) :
    ∃ digits, cs = '\\' :: 'u' :: digits ∧ readUnit (digits ++ rest) = .ok (unit, rest) := by
  cases h with
  | @digits a b c d _ value => exact ⟨[a, b, c, d], rfl, by simp [Json.readUnit, value]⟩

/-- No character is half of a surrogate pair. -/
theorem not_surrogate (c : Char) :
    isHighSurrogate c.toNat = false ∧ isLowSurrogate c.toNat = false := by
  have hvalid : c.toNat < 0xD800 ∨ 0xDFFF < c.toNat ∧ c.toNat < 0x110000 := c.valid
  simp only [isHighSurrogate, isLowSurrogate, Bool.and_eq_false_iff, decide_eq_false_iff_not]
  omega

theorem not_low_of_high {unit : Nat} (h : isHighSurrogate unit = true) :
    isLowSurrogate unit = false := by
  simp only [isHighSurrogate, isLowSurrogate, Bool.and_eq_true, Bool.and_eq_false_iff,
    decide_eq_true_eq, decide_eq_false_iff_not] at h ⊢
  omega

/-- An escape is read as the character that it spells. -/
theorem CharSpelling.readEscape {c : Char} {cs : List Char} (h : CharSpelling c ('\\' :: cs))
    (rest : List Char) : readEscape (cs ++ rest) = .ok (c, rest) := by
  generalize htext : '\\' :: cs = text at h
  cases h with
  | plain notQuote notBackslash notControl =>
    obtain ⟨rfl, -⟩ := List.cons.inj htext
    exact absurd rfl notBackslash
  | short escaped =>
    obtain ⟨-, rfl⟩ := List.cons.inj htext
    simp [Json.readEscape, escaped]
  | unit spelled =>
    obtain ⟨digits, rfl, hread⟩ := spelled.readUnit rest
    obtain ⟨-, rfl⟩ := List.cons.inj htext
    obtain ⟨hhigh, hlow⟩ := not_surrogate c
    have hpoint : readCodePoint (digits ++ rest) = .ok (c, rest) := by
      simp [readCodePoint, hread, hhigh, hlow]
    simpa [Json.readEscape, shortEscape?] using hpoint
  | @pair _ high low hs ls spelledHigh spelledLow isHigh isLow value =>
    obtain ⟨lowDigits, rfl, hreadLow⟩ := spelledLow.readUnit rest
    obtain ⟨highDigits, rfl, hreadHigh⟩ :=
      spelledHigh.readUnit ('\\' :: 'u' :: lowDigits ++ rest)
    obtain ⟨-, rfl⟩ := List.cons.inj htext
    have hlow : readLowSurrogate ('\\' :: 'u' :: lowDigits ++ rest) = .ok (low, rest) := by
      simp [readLowSurrogate, expectInPair, hreadLow, isLow]
    have hpoint : readCodePoint (highDigits ++ ('\\' :: 'u' :: lowDigits ++ rest))
        = .ok (c, rest) := by
      simp only [readCodePoint, hreadHigh, hlow, ok_bind, pure_eq, isHigh, not_low_of_high isHigh,
        value, Bool.false_eq_true, if_false, if_true]
    simpa [Json.readEscape, shortEscape?] using hpoint

/-- Every spelling of a character takes at least one character. -/
theorem CharSpelling.ne_nil {c : Char} {cs : List Char} (h : CharSpelling c cs) : cs ≠ [] := by
  cases h with
  | plain => simp
  | short => simp
  | unit spelled => cases spelled; simp
  | pair spelledHigh => cases spelledHigh; simp

/-- A spelling that is no escape is the character itself. -/
theorem CharSpelling.eq_of_ne {c d : Char} {cs : List Char} (h : CharSpelling c (d :: cs))
    (hd : d ≠ '\\') : d = c ∧ cs = [] ∧ c ≠ '"' ∧ isControl c = false := by
  generalize htext : d :: cs = text at h
  cases h with
  | plain notQuote notBackslash notControl =>
    obtain ⟨rfl, rfl⟩ := List.cons.inj htext
    exact ⟨rfl, rfl, notQuote, notControl⟩
  | short => exact absurd (List.cons.inj htext).1 hd
  | unit spelled => cases spelled; exact absurd (List.cons.inj htext).1 hd
  | pair spelledHigh => cases spelledHigh; exact absurd (List.cons.inj htext).1 hd

/-- One spelled character is read before the others. -/
theorem readStringWithin_append {c : Char} {spelling : List Char} (h : CharSpelling c spelling)
    (bound : Nat) (rest : List Char) :
    readStringWithin (bound + 1) (spelling ++ rest)
      = (readStringWithin bound rest >>= fun p => .ok (c :: p.1, p.2)) := by
  match spelling, h with
  | [], h => exact absurd rfl h.ne_nil
  | d :: cs, h =>
    by_cases hd : d = '\\'
    · subst hd
      have hread := h.readEscape rest
      simp [readStringWithin, hread]
    · obtain ⟨rfl, rfl, hquote, hcontrol⟩ := h.eq_of_ne hd
      simp [readStringWithin, hquote, hd, hcontrol]

theorem TextSpelling.length_le {cs body : List Char} (h : TextSpelling cs body) :
    cs.length ≤ body.length := by
  induction h with
  | nil => exact Nat.le_refl _
  | @cons c cs spelling rest first others ih =>
    have := List.length_pos_iff.2 first.ne_nil
    simp only [List.length_cons, List.length_append]
    omega

theorem TextSpelling.readStringWithin {cs body : List Char} (h : TextSpelling cs body)
    (rest : List Char) : ∀ bound : Nat, cs.length < bound →
      Json.readStringWithin bound (body ++ '"' :: rest) = .ok (cs, rest) := by
  induction h with
  | nil =>
    intro bound hbound
    obtain ⟨bound, rfl⟩ := Nat.exists_eq_add_one.2 hbound
    simp [Json.readStringWithin]
  | @cons c cs spelling tail first others ih =>
    intro bound hbound
    obtain ⟨bound, rfl⟩ := Nat.exists_eq_add_one.2 (Nat.zero_lt_of_lt hbound)
    rw [List.append_assoc, readStringWithin_append first,
      ih bound (by simpa using hbound)]
    rfl

/-- A string is read from behind its opening quote on. -/
theorem StringSpelling.readString {text : String} {cs : List Char} (h : StringSpelling text cs)
    (rest : List Char) :
    ∃ body, cs = '"' :: body ∧ Json.readString (body ++ rest) = .ok (text, rest) := by
  cases h with
  | @quoted body spelled =>
    refine ⟨body ++ ['"'], rfl, ?_⟩
    have hlength := spelled.length_le
    have hread := spelled.readStringWithin rest (body ++ ['"'] ++ rest).length
      (by simp only [List.length_append, List.length_cons]; omega)
    rw [List.append_assoc, List.cons_append, List.nil_append] at hread ⊢
    rw [Json.readString, hread]
    simp 

/-! ## 3. Numbers -/

/-- A text that no number goes on into. -/
def EndsNumber (rest : List Char) : Prop :=
  ∀ c ∈ rest.head?, c.isDigit = false ∧ c ≠ '.' ∧ c ≠ 'e' ∧ c ≠ 'E'

/-- A text that no digits go on into. -/
def EndsDigits (rest : List Char) : Prop :=
  ∀ c ∈ rest.head?, c.isDigit = false

theorem EndsNumber.endsDigits {rest : List Char} (h : EndsNumber rest) : EndsDigits rest :=
  fun c hc => (h c hc).1

theorem endsNumber_nil : EndsNumber [] := by
  intro c hc
  cases hc

theorem endsNumber_cons {c : Char} (rest : List Char)
    (h : c.isDigit = false ∧ c ≠ '.' ∧ c ≠ 'e' ∧ c ≠ 'E') : EndsNumber (c :: rest) := by
  intro d hd
  obtain rfl : c = d := by simpa using hd
  exact h

theorem spanDigits_eq {digits : List Char} (h : ∀ c ∈ digits, c.isDigit = true)
    {rest : List Char} (hrest : EndsDigits rest) :
    spanDigits (digits ++ rest) = (digits, rest) := by
  obtain ⟨htake, hdrop⟩ := takeWhile_append_of_stop h hrest
  rw [spanDigits, htake, hdrop]

theorem Digits.scanDigits {digits : List Char} (h : Digits digits) (atEnd : Cause)
    {rest : List Char} (hrest : EndsDigits rest) :
    Json.scanDigits atEnd (digits ++ rest) = .ok (digits, rest) := by
  have hspan := spanDigits_eq h.2 hrest
  match digits, h with
  | [], h => exact absurd rfl h.1
  | c :: cs, h =>
    rw [List.cons_append] at hspan ⊢
    simp [Json.scanDigits, h.2 c (by simp), hspan]

theorem WholeSpelling.scanWhole {whole : List Char} (h : WholeSpelling whole) (atEnd : Cause)
    {rest : List Char} (hrest : EndsDigits rest) :
    Json.scanWhole atEnd (whole ++ rest) = .ok (whole, rest) := by
  cases h with
  | zero =>
    cases rest with
    | nil => rfl
    | cons c rest => simp [Json.scanWhole, hrest c rfl]
  | digits spelled first =>
    have hscan := spelled.scanDigits atEnd hrest
    match whole, spelled, first with
    | [], spelled, _ => exact absurd rfl spelled.1
    | c :: cs, _, first =>
      have hc : c ≠ '0' := by simpa using first
      rw [List.cons_append] at hscan ⊢
      rw [Json.scanWhole.eq_def]
      split
      · rename_i heq
        exact absurd (List.cons.inj heq).1 hc
      · exact hscan

theorem FractionSpelling.scanFraction {fraction : Option (List Char)} {cs : List Char}
    (h : FractionSpelling fraction cs) (atEnd : Cause) {rest : List Char}
    (hrest : EndsDigits rest) (hpoint : rest.head? ≠ some '.') :
    Json.scanFraction atEnd (cs ++ rest) = .ok (fraction, rest) := by
  cases h with
  | none =>
    rw [List.nil_append, Json.scanFraction.eq_def]
    split
    · simp at hpoint
    · rfl
  | digits spelled =>
    simp [Json.scanFraction, spelled.scanDigits atEnd hrest]

theorem ExponentSignSpelling.scanExponentSign {negative : Bool} {sign : List Char}
    (h : ExponentSignSpelling negative sign) {digits : List Char} (hdigits : Digits digits)
    (rest : List Char) :
    Json.scanExponentSign (sign ++ (digits ++ rest)) = (negative, digits ++ rest) := by
  match digits, hdigits with
  | [], hdigits => exact absurd rfl hdigits.1
  | c :: cs, hdigits =>
    have hc : c.isDigit = true := hdigits.2 c (by simp)
    cases h with
    | plus => rfl
    | sign spelled =>
      cases spelled with
      | minus => rfl
      | none =>
        rw [List.nil_append, List.cons_append, Json.scanExponentSign.eq_def]
        split
        · rename_i heq; rw [(List.cons.inj heq).1] at hc; exact absurd hc (by decide)
        · rename_i heq; rw [(List.cons.inj heq).1] at hc; exact absurd hc (by decide)
        · rfl

theorem ExponentSpelling.scanExponent {exponent : Option (Bool × List Char)} {cs : List Char}
    (h : ExponentSpelling exponent cs) (atEnd : Cause) {rest : List Char}
    (hrest : EndsNumber rest) :
    Json.scanExponent atEnd (cs ++ rest) = .ok (exponent, rest) := by
  cases h with
  | none =>
    cases rest with
    | nil => rfl
    | cons c rest =>
      obtain ⟨-, -, he, hE⟩ := hrest c rfl
      simp [Json.scanExponent, he, hE]
  | @digits mark negative sign digits hmark spelledSign spelled =>
    simp [Json.scanExponent, hmark, spelledSign.scanExponentSign spelled,
      spelled.scanDigits atEnd hrest.endsDigits]

/-- What an exponent starts with is neither a digit nor a point. -/
theorem ExponentSpelling.head {exponent : Option (Bool × List Char)} {cs : List Char}
    (h : ExponentSpelling exponent cs) {rest : List Char} (hrest : EndsNumber rest) :
    EndsDigits (cs ++ rest) ∧ (cs ++ rest).head? ≠ some '.' := by
  cases h with
  | none => exact ⟨hrest.endsDigits, fun hpoint => (hrest '.' hpoint).2.1 rfl⟩
  | digits hmark =>
    obtain rfl | rfl := hmark <;> simp [EndsDigits]

/-- What a fraction starts with is no digit. -/
theorem FractionSpelling.head {fraction : Option (List Char)} {cs : List Char}
    (h : FractionSpelling fraction cs) {rest : List Char} (hrest : EndsDigits rest) :
    EndsDigits (cs ++ rest) := by
  cases h with
  | none => exact hrest
  | digits => simp [EndsDigits]

theorem WholeSpelling.head {whole : List Char} (h : WholeSpelling whole) :
    ∃ c tail, whole = c :: tail ∧ c.isDigit = true := by
  cases h with
  | zero => exact ⟨'0', [], rfl, rfl⟩
  | digits spelled =>
    match whole, spelled with
    | [], spelled => exact absurd rfl spelled.1
    | c :: cs, spelled => exact ⟨c, cs, rfl, spelled.2 c (by simp)⟩

/-- A number starts with a sign or a digit. -/
theorem NumeralSpelling.head {numeral : Numeral} {cs : List Char}
    (h : NumeralSpelling numeral cs) :
    ∃ c tail, cs = c :: tail ∧ (c = '-' ∨ c.isDigit = true) := by
  cases h with
  | parts spelledSign spelledWhole =>
    obtain ⟨c, tail, rfl, hc⟩ := spelledWhole.head
    cases spelledSign with
    | minus => exact ⟨'-', _, rfl, .inl rfl⟩
    | none => exact ⟨c, _, rfl, .inr hc⟩

theorem NumeralSpelling.scanNumeral {numeral : Numeral} {cs : List Char}
    (h : NumeralSpelling numeral cs) (atEnd : Cause) {rest : List Char}
    (hrest : EndsNumber rest) :
    Json.scanNumeral atEnd (cs ++ rest) = .ok (numeral, rest) := by
  cases h with
  | @parts negative fraction exponent sign whole fractionText exponentText spelledSign spelledWhole
      spelledFraction spelledExponent =>
    obtain ⟨hdigits, hpoint⟩ := spelledExponent.head hrest
    have hwhole := spelledWhole.scanWhole atEnd (spelledFraction.head hdigits)
    have hfraction := spelledFraction.scanFraction atEnd hdigits hpoint
    have hexponent := spelledExponent.scanExponent atEnd hrest
    cases spelledSign with
    | minus =>
      simp [Json.scanNumeral, hwhole, hfraction, hexponent]
    | none =>
      obtain ⟨c, tail, rfl, hc⟩ := spelledWhole.head
      have hminus : c ≠ '-' := by rintro rfl; exact absurd hc (by decide)
      simp only [List.cons_append, List.nil_append, List.append_assoc] at hwhole ⊢
      simp [Json.scanNumeral, hminus, hwhole, hfraction, hexponent]

theorem NumeralSpelling.readNumber {numeral : Numeral} {value : Json} {cs : List Char}
    (h : NumeralSpelling numeral cs) (hvalue : numeral.value = .ok value) {rest : List Char}
    (hrest : EndsNumber rest) : Json.readNumber (cs ++ rest) = .ok (value, rest) := by
  simp [Json.readNumber, h.scanNumeral .endInValue hrest, hvalue]

/-! ## 4. Values without containers -/

/-- A character that a value may start with; a bracket or brace that ends a
container is none, so a comma in front of one is always trailing. -/
def StartsValue (c : Char) : Prop :=
  isBlank c = false ∧ c ≠ ']' ∧ c ≠ '}'

theorem startsValue_of_isDigit {c : Char} (h : c.isDigit = true) :
    StartsValue c ∧ c ≠ '[' ∧ c ≠ '{' := by
  have hne : ∀ d : Char, d.isDigit = false → c ≠ d := by
    rintro d hd rfl
    rw [h] at hd
    cases hd
  have hblank : isBlank c = false := by
    simp [isBlank, hne ' ' rfl, hne '\t' rfl, hne '\n' rfl, hne '\r' rfl]
  exact ⟨⟨hblank, hne ']' rfl, hne '}' rfl⟩, hne '[' rfl, hne '{' rfl⟩

theorem ScalarSpelling.head {value : Json} {cs : List Char} (h : ScalarSpelling value cs) :
    ∃ c tail, cs = c :: tail ∧ StartsValue c ∧ c ≠ '[' ∧ c ≠ '{' := by
  cases h with
  | null => exact ⟨'n', _, rfl, by simp [StartsValue, isBlank]⟩
  | true => exact ⟨'t', _, rfl, by simp [StartsValue, isBlank]⟩
  | false => exact ⟨'f', _, rfl, by simp [StartsValue, isBlank]⟩
  | string spelled =>
    cases spelled
    exact ⟨'"', _, rfl, by simp [StartsValue, isBlank]⟩
  | number spelled =>
    obtain ⟨c, tail, rfl, rfl | hc⟩ := spelled.head
    · exact ⟨'-', tail, rfl, by simp [StartsValue, isBlank]⟩
    · exact ⟨c, tail, rfl, startsValue_of_isDigit hc⟩

theorem ScalarSpelling.readScalar {value : Json} {cs : List Char} (h : ScalarSpelling value cs)
    {rest : List Char} (hrest : EndsNumber rest) :
    Json.readScalar (cs ++ rest) = .ok (value, rest) := by
  cases h with
  | null => rfl
  | true => rfl
  | false => rfl
  | string spelled =>
    obtain ⟨body, rfl, hread⟩ := spelled.readString rest
    simp [Json.readScalar, hread]
  | number spelled hvalue =>
    have hread := spelled.readNumber hvalue hrest
    obtain ⟨c, tail, rfl, hc⟩ := spelled.head
    rw [List.cons_append] at hread ⊢
    rw [Json.readScalar.eq_def]
    split
    · rename_i heq; cases heq
    · rename_i heq; rw [(List.cons.inj heq).1] at hc; exact absurd hc (by decide)
    · rename_i heq; rw [(List.cons.inj heq).1] at hc; exact absurd hc (by decide)
    · rename_i heq; rw [(List.cons.inj heq).1] at hc; exact absurd hc (by decide)
    · rename_i heq; rw [(List.cons.inj heq).1] at hc; exact absurd hc (by decide)
    · rename_i heq
      rw [← (List.cons.inj heq).1, if_pos hc, hread]

/-! ## 5. Containers -/

/-- A reader that finds what is spelled, behind blanks, for the values
inside a container. -/
structure Finds (item : ValueReader) (Inner : Json → List Char → Prop) : Prop where
  head : ∀ {value : Json} {cs : List Char}, Inner value cs →
    ∃ c tail, cs = c :: tail ∧ StartsValue c
  read : ∀ {value : Json} {cs : List Char}, Inner value cs →
    ∀ {before : List Char}, Blank before → ∀ {rest : List Char}, EndsNumber rest →
      item (before ++ (cs ++ rest)) = .ok (value, rest)

section Containers

variable {item : ValueReader} {Inner : Json → List Char → Prop}

theorem endsNumber_blank_append {after rest : List Char} (h : Blank after)
    (hrest : EndsNumber rest) : EndsNumber (after ++ rest) := by
  match after, h with
  | [], _ => exact hrest
  | c :: cs, h =>
    have hc : isBlank c = true := h c (by simp)
    refine endsNumber_cons _ ?_
    simp only [isBlank, Bool.or_eq_true, decide_eq_true_eq] at hc
    obtain ((rfl | rfl) | rfl) | rfl := hc <;> decide

/-- A value with blanks around it is read; the blanks behind it are left. -/
theorem Finds.readPadded (finds : Finds item Inner) {value : Json} {cs : List Char}
    (h : Padded (Inner value) cs) {rest : List Char} (hrest : EndsNumber rest) :
    ∃ after, Blank after ∧ item (cs ++ rest) = .ok (value, after ++ rest) := by
  cases h with
  | @intro before inner after hbefore spelled hafter =>
    refine ⟨after, hafter, ?_⟩
    rw [List.append_assoc, List.append_assoc]
    exact finds.read spelled hbefore (endsNumber_blank_append hafter hrest)

/-- Behind its blanks, a value starts as a value does. -/
theorem Finds.headPadded (finds : Finds item Inner) {value : Json} {cs : List Char}
    (h : Padded (Inner value) cs) (rest : List Char) :
    ∃ c tail, skipBlanks (cs ++ rest) = c :: tail ∧ StartsValue c := by
  cases h with
  | @intro before inner after hbefore spelled hafter =>
    obtain ⟨c, tail, rfl, hc⟩ := finds.head spelled
    refine ⟨c, tail ++ after ++ rest, ?_, hc⟩
    simp only [List.append_assoc, List.cons_append]
    exact skipBlanks_append_cons hbefore hc.1 _

theorem ItemsSpelling.head (finds : Finds item Inner) {values : List Json} {cs : List Char}
    (h : ItemsSpelling Inner values cs) (rest : List Char) :
    ∃ c tail, skipBlanks (cs ++ rest) = c :: tail ∧ StartsValue c := by
  cases h with
  | last spelled => exact finds.headPadded spelled rest
  | @next _ _ cs others spelled =>
    rw [List.append_assoc]
    exact finds.headPadded spelled _

theorem ItemsSpelling.readItems (finds : Finds item Inner) {values : List Json} {cs : List Char}
    (h : ItemsSpelling Inner values cs) (rest : List Char) : ∀ bound : Nat, cs.length < bound →
      Json.readItems item bound (cs ++ ']' :: rest) = .ok (values, rest) := by
  induction h with
  | @last value cs spelled =>
    intro bound hbound
    obtain ⟨bound, rfl⟩ := Nat.exists_eq_add_one.2 (Nat.zero_lt_of_lt hbound)
    obtain ⟨after, hafter, hread⟩ := finds.readPadded spelled
      (endsNumber_cons (c := ']') rest (by decide))
    simp [Json.readItems, hread, skipBlanks_append_cons hafter (c := ']') (by decide)]
  | @next value values cs others spelled spelledOthers ih =>
    intro bound hbound
    obtain ⟨bound, rfl⟩ := Nat.exists_eq_add_one.2 (Nat.zero_lt_of_lt hbound)
    obtain ⟨after, hafter, hread⟩ := finds.readPadded spelled
      (endsNumber_cons (c := ',') (others ++ ']' :: rest) (by decide))
    obtain ⟨c, tail, hskip, -, hc, -⟩ := spelledOthers.head finds (']' :: rest)
    have hothers := ih bound (by
      simp only [List.length_append, List.length_cons] at hbound
      omega)
    rw [List.append_assoc, List.cons_append]
    simp [Json.readItems, hread, skipBlanks_append_cons hafter (c := ',') (by decide), hskip, hc,
      hothers]

theorem readColon_of_blank {after : List Char} (h : Blank after) (rest : List Char) :
    readColon (after ++ ':' :: rest) = .ok rest := by
  simp [readColon, skipBlanks_append_cons h (c := ':') (by decide)]

theorem readKey_of_padded {name : String} {ks : List Char} (h : Padded (StringSpelling name) ks)
    (rest : List Char) : readKey (ks ++ ':' :: rest) = .ok (name, rest) := by
  cases h with
  | @intro before inner after hbefore spelled hafter =>
    obtain ⟨body, rfl, hread⟩ := spelled.readString (after ++ ':' :: rest)
    simp only [List.append_assoc, List.cons_append]
    simp [readKey, skipBlanks_append_cons hbefore (c := '"') (by decide), hread,
      readColon_of_blank hafter]

/-- A member starts with the quote of its name. -/
theorem MemberSpelling.head {member : String × Json} {cs : List Char}
    (h : MemberSpelling Inner member cs) (rest : List Char) :
    ∃ tail, skipBlanks (cs ++ rest) = '"' :: tail := by
  obtain ⟨spelledName, -⟩ := h
  obtain ⟨hbefore, ⟨spelled⟩, hafter⟩ := spelledName
  simp only [List.append_assoc, List.cons_append]
  exact ⟨_, skipBlanks_append_cons hbefore (by decide) _⟩

theorem MembersSpelling.head {members : List (String × Json)} {cs : List Char}
    (h : MembersSpelling Inner members cs) (rest : List Char) :
    ∃ tail, skipBlanks (cs ++ rest) = '"' :: tail := by
  cases h with
  | last spelled => exact spelled.head rest
  | next spelled =>
    rw [List.append_assoc]
    exact spelled.head _

theorem MembersSpelling.readMembers (finds : Finds item Inner) {members : List (String × Json)}
    {cs : List Char} (h : MembersSpelling Inner members cs) (rest : List Char) :
    ∀ bound : Nat, cs.length < bound →
      Json.readMembers item bound (cs ++ '}' :: rest) = .ok (members, rest) := by
  induction h with
  | @last member cs spelled =>
    intro bound hbound
    obtain ⟨bound, rfl⟩ := Nat.exists_eq_add_one.2 (Nat.zero_lt_of_lt hbound)
    obtain ⟨spelledName, spelledValue⟩ := spelled
    obtain ⟨after, hafter, hread⟩ := finds.readPadded spelledValue
      (endsNumber_cons (c := '}') rest (by decide))
    rw [List.append_assoc, List.cons_append]
    simp [Json.readMembers, readKey_of_padded spelledName, hread,
      skipBlanks_append_cons hafter (c := '}') (by decide)]
  | @next member members cs others spelled spelledOthers ih =>
    intro bound hbound
    obtain ⟨bound, rfl⟩ := Nat.exists_eq_add_one.2 (Nat.zero_lt_of_lt hbound)
    have hothers := ih bound (by
      simp only [List.length_append, List.length_cons] at hbound
      omega)
    obtain ⟨spelledName, spelledValue⟩ := spelled
    obtain ⟨after, hafter, hread⟩ := finds.readPadded spelledValue
      (endsNumber_cons (c := ',') (others ++ '}' :: rest) (by decide))
    obtain ⟨tail, hskip⟩ := spelledOthers.head ('}' :: rest)
    simp only [List.append_assoc, List.cons_append]
    simp [Json.readMembers, readKey_of_padded spelledName, hread,
      skipBlanks_append_cons hafter (c := ',') (by decide), hskip, hothers]

theorem ContainerSpelling.head {value : Json} {cs : List Char}
    (h : ContainerSpelling Inner value cs) :
    ∃ c tail, cs = c :: tail ∧ (c = '[' ∨ c = '{') := by
  cases h with
  | emptyArray => exact ⟨'[', _, rfl, .inl rfl⟩
  | array => exact ⟨'[', _, rfl, .inl rfl⟩
  | emptyObject => exact ⟨'{', _, rfl, .inr rfl⟩
  | object => exact ⟨'{', _, rfl, .inr rfl⟩

/-- A container is read one level further in. -/
theorem ContainerSpelling.readValue {depth : Nat} (finds : Finds (readValue depth) Inner)
    {value : Json} {cs : List Char} (h : ContainerSpelling Inner value cs) {before : List Char}
    (hbefore : Blank before) (rest : List Char) :
    Json.readValue (depth + 1) (before ++ (cs ++ rest)) = .ok (value, rest) := by
  cases h with
  | emptyArray hblank =>
    simp only [List.append_assoc, List.cons_append, List.nil_append]
    simp [Json.readValue, skipBlanks_append_cons hbefore (c := '[') (by decide), readArray,
      skipBlanks_append_cons hblank (c := ']') (by decide)]
  | @array items cs spelled =>
    obtain ⟨c, tail, hskip, -, hc, -⟩ := spelled.head finds (']' :: rest)
    have hitems := spelled.readItems finds rest (cs ++ ']' :: rest).length (by simp)
    simp only [List.append_assoc, List.cons_append, List.nil_append]
    rw [Json.readValue, skipBlanks_append_cons hbefore (by decide)]
    simp only [readArray, hskip]
    split
    · rename_i heq; exact absurd (List.cons.inj heq).1 hc
    · rename_i heq; cases heq
    · rw [hitems]; rfl
  | emptyObject hblank =>
    simp only [List.append_assoc, List.cons_append, List.nil_append]
    simp [Json.readValue, skipBlanks_append_cons hbefore (c := '{') (by decide), readObject,
      skipBlanks_append_cons hblank (c := '}') (by decide)]
  | @object members cs spelled =>
    obtain ⟨tail, hskip⟩ := spelled.head ('}' :: rest)
    have hmembers := spelled.readMembers finds rest (cs ++ '}' :: rest).length (by simp)
    simp only [List.append_assoc, List.cons_append, List.nil_append]
    rw [Json.readValue, skipBlanks_append_cons hbefore (by decide)]
    simp only [readObject, hskip]
    rw [hmembers]
    rfl

end Containers

/-! ## 6. Values and texts -/

theorem ScalarSpelling.readValue {value : Json} {cs : List Char} (h : ScalarSpelling value cs)
    (depth : Nat) {before rest : List Char} (hbefore : Blank before) (hrest : EndsNumber rest) :
    Json.readValue depth (before ++ (cs ++ rest)) = .ok (value, rest) := by
  have hread := h.readScalar hrest
  obtain ⟨c, tail, rfl, hstart, hbracket, hbrace⟩ := h.head
  have hskip := skipBlanks_append_cons hbefore hstart.1 (tail ++ rest)
  rw [List.cons_append] at hread ⊢
  cases depth with
  | zero => simp [Json.readValue, hskip, hbracket, hbrace, hread]
  | succ depth => simp [Json.readValue, hskip, hbracket, hbrace, hread]

theorem ValueSpelling.head {depth : Nat} {value : Json} {cs : List Char}
    (h : ValueSpelling depth value cs) : ∃ c tail, cs = c :: tail ∧ StartsValue c := by
  have hscalar : ScalarSpelling value cs → ∃ c tail, cs = c :: tail ∧ StartsValue c := by
    intro h
    obtain ⟨c, tail, hcs, hc, -, -⟩ := h.head
    exact ⟨c, tail, hcs, hc⟩
  cases depth with
  | zero => exact hscalar h
  | succ depth =>
    cases h with
    | inl h => exact hscalar h
    | inr h =>
      obtain ⟨c, tail, hcs, rfl | rfl⟩ := h.head
      · exact ⟨'[', tail, hcs, by simp [StartsValue, isBlank]⟩
      · exact ⟨'{', tail, hcs, by simp [StartsValue, isBlank]⟩

/-- The induction on the number of containers that may be open: the values
inside a container are found with one less. -/
theorem finds_readValue (depth : Nat) : Finds (readValue depth) (ValueSpelling depth) := by
  induction depth with
  | zero =>
    exact ⟨ValueSpelling.head, fun h _ hbefore _ hrest =>
      ScalarSpelling.readValue h 0 hbefore hrest⟩
  | succ depth ih =>
    refine ⟨ValueSpelling.head, ?_⟩
    intro value cs h before hbefore rest hrest
    cases h with
    | inl h => exact h.readValue (depth + 1) hbefore hrest
    | inr h => exact h.readValue ih hbefore rest

/-- A text is read as the value that it spells, whichever of the ways to
write that value it takes. -/
theorem read_of_spells {text : String} {value : Json} (h : Spells text value) :
    read text = .ok value := by
  obtain ⟨after, hafter, hread⟩ := (finds_readValue maxDepth).readPadded h endsNumber_nil
  rw [List.append_nil, List.append_nil] at hread
  have hend : expectEnd after = .ok () := by
    have hskip := skipBlanks_append hafter []
    rw [List.append_nil] at hskip
    rw [expectEnd, hskip]
    rfl
  simp [read, readText, hread, hend, Except.mapError]

end DatamodelTypes.Json
