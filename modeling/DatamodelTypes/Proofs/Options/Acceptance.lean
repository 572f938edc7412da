/-
DatamodelTypes.Proofs.Options.Acceptance — which texts are options, and
which options they are.

A text of options is an array with at most one value, or an object in
which only the members named `indentation` count. `OptionsText` says so
for any values and lists the ones that stand for the indentation; `Gives`
says what such a list is worth: the default if it is empty, a number if
that is all there is, and else nothing. `read_iff_optionsText` is the main
statement: no other texts are accepted, and what the answer is depends on
the listed values alone.

## How the proof goes

A number ends where no character can extend it, so the lemmas are about a
text with more text behind it. Where the text has the right form, they say
exactly when the reader takes it: `readCount_eq_ok` for the indentation,
and `MembersText.readMembers_eq_ok` for the members of an object, by
induction along the members with what was found before. That the reader
takes no text of another form (`exists_optionsText_of_read`) needs no
account of what it finds.
-/
import DatamodelTypes.Options.Reader
import DatamodelTypes.Proofs.Json.Form

namespace DatamodelTypes

/-! ## 1. Numbers -/

namespace Decimal

theorem le_ofDigits (start : Nat) (digits : List Char) : start ≤ ofDigits start digits := by
  induction digits generalizing start with
  | nil => exact Nat.le_refl start
  | cons c digits ih =>
    have hstep : start ≤ start * 10 + digitValue c := by omega
    exact hstep.trans (ih (start * 10 + digitValue c))

end Decimal

namespace Json

/-- All digits of a number are collected if the number stays below the bound. -/
theorem collect_eq_nil {bound start n : Nat} (hstart : start < bound) {digits : List Char} :
    collect bound start digits = (n, []) ↔ Decimal.ofDigits start digits = n ∧ n < bound := by
  induction digits generalizing start with
  | nil =>
    simp only [collect, Decimal.ofDigits, List.foldl_nil, Prod.mk.injEq, and_true]
    exact ⟨fun h => ⟨h, h ▸ hstart⟩, And.left⟩
  | cons c digits ih =>
    have hfold : Decimal.ofDigits start (c :: digits)
        = Decimal.ofDigits (start * 10 + Decimal.digitValue c) digits := rfl
    rw [collect, hfold]
    by_cases hnext : start * 10 + Decimal.digitValue c < bound
    · rw [if_pos hnext, ih hnext]
    · have hle := Decimal.le_ofDigits (start * 10 + Decimal.digitValue c) digits
      rw [if_neg hnext]
      simp only [Prod.mk.injEq, reduceCtorEq, and_false, false_iff, not_and]
      omega

/-- No number with a sign is an integer that is not negative. -/
theorem wholeValue_eq_count {negative : Bool} {significand n : Nat} :
    wholeValue negative significand = .integer (.ofNat n) ↔
      negative = false ∧ significand = n := by
  cases negative with
  | false =>
    simp only [wholeValue, Bool.not_false, if_true, integer.injEq, true_and]
    exact Int.ofNat_inj
  | true =>
    unfold wholeValue
    simp only [Bool.not_true, Bool.false_eq_true, if_false, reduceCtorEq, false_and, iff_false]
    split
    · simp only [integer.injEq, Int.ofNat_eq_natCast]
      omega
    · simp

/-- The numbers that are integers and not negative. -/
theorem Numeral.value_eq_count {numeral : Numeral} {n : Nat} :
    numeral.value = .ok (.integer (.ofNat n)) ↔
      ∃ whole, numeral = ⟨false, whole, none, none⟩ ∧
        Decimal.ofDigits 0 whole = n ∧ n < Nat.pow 2 64 := by
  obtain ⟨negative, whole, fraction, exponent⟩ := numeral
  have hcollect : collect significandBound 0 whole = (n, []) ↔
      Decimal.ofDigits 0 whole = n ∧ n < Nat.pow 2 64 := collect_eq_nil (by decide)
  unfold Numeral.value
  split
  · rename_i significand hwhole hfraction hexponent
    dsimp only at hwhole hfraction hexponent ⊢
    subst hfraction hexponent
    rw [hwhole, Prod.mk.injEq, and_iff_left rfl] at hcollect
    rw [Except.ok.injEq, wholeValue_eq_count, hcollect]
    simp
  · rename_i hother
    dsimp only at hother
    constructor
    · rw [map_eq_ok]
      rintro ⟨x, -, hx⟩
      cases hx
    · rintro ⟨_, h, hn⟩
      obtain ⟨rfl, rfl, rfl, rfl⟩ := Numeral.mk.injEq .. ▸ h
      exact absurd rfl (hother n (hcollect.2 hn) rfl)

/-- A number is read from where a number may start. -/
theorem readScalar_of_head {c : Char} (hc : c = '-' ∨ c.isDigit = true) (cs : List Char) :
    readScalar (c :: cs) = readNumber (c :: cs) := by
  have hne : ∀ d : Char, ¬(d = '-' ∨ d.isDigit = true) → c ≠ d := by
    rintro d hd rfl
    exact hd hc
  rw [readScalar.eq_def]
  split
  · contradiction
  · rename_i heq; exact absurd (List.cons.inj heq).1 (hne 'n' (by decide))
  · rename_i heq; exact absurd (List.cons.inj heq).1 (hne 't' (by decide))
  · rename_i heq; exact absurd (List.cons.inj heq).1 (hne 'f' (by decide))
  · rename_i heq; exact absurd (List.cons.inj heq).1 (hne '"' (by decide))
  · rename_i heq
    rw [← (List.cons.inj heq).1, if_pos hc]

/-- A value that starts as a number is one. -/
theorem Form.exists_numeral {c : Char} {cs : List Char} (h : Form .value (c :: cs))
    (hc : c = '-' ∨ c.isDigit = true) : ∃ numeral, NumeralSpelling numeral (c :: cs) := by
  generalize htext : c :: cs = text at h
  have hne : ∀ {d : Char} {tail : List Char}, ¬(d = '-' ∨ d.isDigit = true) → d :: tail ≠ text := by
    rintro d tail hd rfl
    exact hd ((List.cons.inj htext).1 ▸ hc)
  cases h with
  | scalar form =>
    cases form with
    | null => exact absurd rfl (hne (by decide))
    | true => exact absurd rfl (hne (by decide))
    | false => exact absurd rfl (hne (by decide))
    | string form =>
      cases form
      exact absurd rfl (hne (by decide))
    | number spelled => exact ⟨_, spelled⟩
  | empty container => exact absurd rfl (hne (by cases container <;> decide))
  | @container container => exact absurd rfl (hne (by cases container <;> decide))

/-- Digits alone are a number. -/
theorem WholeSpelling.numeral {cs : List Char} (h : WholeSpelling cs) :
    NumeralSpelling ⟨false, cs, none, none⟩ cs := by
  have hparts : NumeralSpelling ⟨false, cs, none, none⟩ ([] ++ cs ++ [] ++ []) :=
    .parts .none h .none .none
  simpa using hparts

/-- A text writes one number only. -/
theorem NumeralSpelling.unique {numeral numeral' : Numeral} {cs : List Char}
    (h : NumeralSpelling numeral cs) (h' : NumeralSpelling numeral' cs) : numeral = numeral' := by
  have hscan := (h.scanNumeral .endInValue endsNumber_nil).symm.trans
    (h'.scanNumeral .endInValue endsNumber_nil)
  cases hscan
  rfl

end Json

namespace Options

open Text (Fault)
open Json (Blank blank_nil Padded padded_of StringSpelling WholeSpelling NumeralSpelling
  ScalarSpelling Form StartsWith EndsNumber skipBlanks)

/-! ## 2. Texts of options -/

/-- A number in digits only, below `2^64`. -/
structure CountSpelling (n : Nat) (cs : List Char) : Prop where
  whole : WholeSpelling cs
  value : Decimal.ofDigits 0 cs = n
  bound : n < Nat.pow 2 64

/-- A member of an object: its name, and its value as it is written. -/
inductive MemberText : String × List Char → List Char → Prop
  | pair {name : String} {ks before value after : List Char}
      (spelledName : Padded (StringSpelling name) ks) (hbefore : Blank before)
      (form : Form .value value) (hafter : Blank after) :
      MemberText (name, value) (ks ++ ':' :: (before ++ (value ++ after)))

/-- The members of an object, one at least, between commas. -/
inductive MembersText : List (String × List Char) → List Char → Prop
  | last {member : String × List Char} {cs : List Char} (written : MemberText member cs) :
      MembersText [member] cs
  | next {member : String × List Char} {members : List (String × List Char)}
      {cs rest : List Char} (written : MemberText member cs) (others : MembersText members rest) :
      MembersText (member :: members) (cs ++ ',' :: rest)

/-- The values of the members named `indentation`. -/
def indentations (members : List (String × List Char)) : List (List Char) :=
  (members.filter (·.1 = "indentation")).map (·.2)

/-- An array with at most one value or an object, and the values in it that
stand for the indentation. -/
inductive OptionsText : List (List Char) → List Char → Prop
  | emptyArray {cs : List Char} (hblank : Blank cs) : OptionsText [] ('[' :: (cs ++ [']']))
  | array {before value after : List Char} (hbefore : Blank before) (form : Form .value value)
      (hafter : Blank after) : OptionsText [value] ('[' :: (before ++ (value ++ (after ++ [']']))))
  | emptyObject {cs : List Char} (hblank : Blank cs) : OptionsText [] ('{' :: (cs ++ ['}']))
  | object {members : List (String × List Char)} {cs : List Char}
      (written : MembersText members cs) :
      OptionsText (indentations members) ('{' :: (cs ++ ['}']))

/-- The options that values for the indentation stand for: the default
without any, and else the number that the only one of them is. -/
inductive Gives : List (List Char) → Options → Prop
  | default : Gives [] ⟨4⟩
  | count {n : Nat} {value : List Char} (spelled : CountSpelling n value) : Gives [value] ⟨n⟩

/-! ## 3. The indentation -/

/-- The numbers that are read as an integer that is not negative. -/
theorem scalarSpelling_count {n : Nat} {cs : List Char} :
    ScalarSpelling (.integer (.ofNat n)) cs ↔ CountSpelling n cs := by
  constructor
  · intro h
    cases h with
    | number spelled hvalue =>
      obtain ⟨whole, rfl, hwhole, hbound⟩ := Json.Numeral.value_eq_count.1 hvalue
      obtain ⟨⟨⟩, spelledWhole, ⟨⟩, ⟨⟩⟩ := spelled
      simpa using CountSpelling.mk spelledWhole hwhole hbound
  · rintro ⟨spelled, hwhole, hbound⟩
    exact .number spelled.numeral (Json.Numeral.value_eq_count.2 ⟨cs, rfl, hwhole, hbound⟩)

theorem readCount_eq_ok_iff {cs left : List Char} {n : Nat} :
    readCount cs = .ok (n, left) ↔
      Json.readScalar (skipBlanks cs) = .ok (.integer (.ofNat n), left) := by
  simp only [readCount]
  split
  · rename_i hscalar
    simp only [hscalar, Except.ok.injEq, Prod.mk.injEq, Json.integer.injEq, Int.ofNat.injEq]
  · rename_i hnegative hscalar
    simp only [hscalar, reduceCtorEq, Except.ok.injEq, Prod.mk.injEq, Json.integer.injEq, false_iff,
      not_and]
    exact fun hn => absurd hn (hnegative n)
  · rename_i hcount _
    simp only [reduceCtorEq, false_iff]
    exact hcount n left

/-- A value is taken for the indentation if it is a number in digits only,
below `2^64`, and in no other case. -/
theorem readCount_eq_ok {before value rest left : List Char} {n : Nat} (hbefore : Blank before)
    (form : Form .value value) (hrest : EndsNumber rest) :
    readCount (before ++ (value ++ rest)) = .ok (n, left) ↔
      CountSpelling n value ∧ left = rest := by
  obtain ⟨c, tail, rfl, hstart, -⟩ := form.head
  rw [readCount_eq_ok_iff, List.cons_append, Json.skipBlanks_append_cons hbefore hstart]
  constructor
  · intro h
    obtain ⟨piece, hpiece, htext⟩ := Json.startsWith_of_readScalar h
    have hc : c = '-' ∨ c.isDigit = true := by
      cases hpiece with
      | number spelled =>
        obtain ⟨d, _, rfl, hd⟩ := spelled.head
        rwa [(List.cons.inj htext).1]
    obtain ⟨numeral, spelled⟩ := form.exists_numeral hc
    have hscan := spelled.scanNumeral .endInValue hrest
    rw [List.cons_append] at hscan
    rw [Json.readScalar_of_head hc, Json.readNumber, hscan] at h
    simp only [ok_bind] at h
    split at h
    · rename_i hvalue
      cases h
      exact ⟨scalarSpelling_count.1 (.number spelled hvalue), rfl⟩
    · cases h
  · rintro ⟨spelled, rfl⟩
    exact (scalarSpelling_count.2 spelled).readScalar hrest

theorem startsWith_of_readCount {cs rest : List Char} {n : Nat}
    (h : readCount cs = .ok (n, rest)) : StartsWith (Form .value) (skipBlanks cs) rest := by
  obtain ⟨piece, hpiece, htext⟩ := Json.startsWith_of_readScalar (readCount_eq_ok_iff.1 h)
  cases hpiece with
  | number spelled => exact ⟨piece, .scalar (.number spelled), htext⟩

/-! ## 4. The array form -/

/-- A value with blanks around it in brackets is taken if it is a count. -/
theorem readItems_eq_ok {before value after rest left : List Char} {options : Options}
    (hbefore : Blank before) (form : Form .value value) (hafter : Blank after) :
    readItems (before ++ (value ++ (after ++ ']' :: rest))) = .ok (options, left) ↔
      Gives [value] options ∧ left = rest := by
  have hending : EndsNumber (after ++ ']' :: rest) :=
    Json.endsNumber_blank_append hafter (Json.endsNumber_cons rest (by decide))
  have hend : readArrayEnd (after ++ ']' :: rest) = .ok rest := by
    simp [readArrayEnd, Json.skipBlanks_append_cons hafter (c := ']') (by decide)]
  have hcount {left : List Char} {n : Nat} :=
    @readCount_eq_ok [] value _ left n blank_nil form hending
  obtain ⟨c, tail, rfl, hblank, hbracket, -⟩ := form.head
  rw [readItems, List.cons_append, Json.skipBlanks_append_cons hbefore hblank]
  split
  · contradiction
  · rename_i heq; exact absurd (List.cons.inj heq).1 hbracket
  · simp only [List.nil_append, List.cons_append] at hcount
    simp only [bind_eq_ok, Prod.exists, hcount]
    constructor
    · rintro ⟨n, _, ⟨spelled, rfl⟩, _, hread, h⟩
      cases hend.symm.trans hread
      cases h
      exact ⟨.count spelled, rfl⟩
    · rintro ⟨hgives, rfl⟩
      cases hgives with
      | count spelled => exact ⟨_, _, ⟨spelled, rfl⟩, left, hend, rfl⟩

theorem readArrayEnd_eq_ok {cs rest : List Char} (h : readArrayEnd cs = .ok rest) :
    skipBlanks cs = ']' :: rest := by
  unfold readArrayEnd at h
  split at h
  · rename_i hbracket
    cases h
    exact hbracket
  · split at h <;> cases h
  · cases h
  · cases h

theorem startsWith_of_readItems {cs rest : List Char} {options : Options}
    (h : readItems cs = .ok (options, rest)) :
    StartsWith (fun text => ∃ values, OptionsText values text) ('[' :: cs) rest := by
  obtain ⟨before, hbefore, hcs⟩ := Json.startsWith_blank cs
  unfold readItems at h
  split at h
  · cases h
  · rename_i hskip
    cases h
    exact ⟨_, ⟨_, .emptyArray hbefore⟩, by rw [hcs, hskip]; simp⟩
  · simp only [bind_eq_ok] at h
    obtain ⟨⟨n, behind⟩, hcount, ending, hend, h⟩ := h
    cases h
    obtain ⟨value, form, hvalue⟩ := startsWith_of_readCount hcount
    obtain ⟨after, hafter, hbehind⟩ := Json.startsWith_blank behind
    rw [Json.skipBlanks_skipBlanks] at hvalue
    rw [readArrayEnd_eq_ok hend] at hbehind
    exact ⟨_, ⟨_, .array hbefore form hafter⟩, by rw [hcs, hvalue, hbehind]; simp⟩

/-! ## 5. The members of an object -/

/-- What is given for the indentation in all, where `found` was given
before. -/
inductive GivesBehind : Option Nat → List (List Char) → Option Nat → Prop
  | kept {found : Option Nat} : GivesBehind found [] found
  | count {n : Nat} {value : List Char} (spelled : CountSpelling n value) :
      GivesBehind none [value] (some n)

theorem gives_iff {values : List (List Char)} {options : Options} :
    Gives values options ↔ ∃ given, GivesBehind none values given ∧ ⟨given.getD 4⟩ = options := by
  constructor
  · intro h
    cases h with
    | default => exact ⟨none, .kept, rfl⟩
    | count spelled => exact ⟨_, .count spelled, rfl⟩
  · rintro ⟨given, h, rfl⟩
    cases h with
    | kept => exact .default
    | count spelled => exact .count spelled

/-- Part by part: after something was found, nothing more may be given. -/
theorem givesBehind_append {found given : Option Nat} {values values' : List (List Char)} :
    GivesBehind found (values ++ values') given ↔
      ∃ between, GivesBehind found values between ∧ GivesBehind between values' given := by
  constructor
  · intro h
    generalize hvalues : values ++ values' = all at h
    cases h with
    | kept =>
      obtain ⟨rfl, rfl⟩ := List.append_eq_nil_iff.1 hvalues
      exact ⟨found, .kept, .kept⟩
    | count spelled =>
      obtain ⟨rfl, rfl⟩ | ⟨rfl, rfl⟩ := List.append_eq_singleton_iff.1 hvalues
      · exact ⟨none, .kept, .count spelled⟩
      · exact ⟨_, .count spelled, .kept⟩
  · rintro ⟨between, h, h'⟩
    cases h with
    | kept => exact h'
    | count spelled =>
      cases h' with
      | kept => exact .count spelled

theorem indentations_cons (member : String × List Char) (members : List (String × List Char)) :
    indentations (member :: members) = indentations [member] ++ indentations members := by
  rw [indentations, indentations, indentations, ← List.map_append, ← List.filter_append,
    List.singleton_append]

theorem lifted_eq_ok {α : Type} {reading : Except (Fault Json.Cause) α} {a : α} :
    lifted reading = .ok a ↔ reading = .ok a :=
  mapError_eq_ok

theorem readName_of_padded {name : String} {ks : List Char} (h : Padded (StringSpelling name) ks)
    (rest : List Char) :
    ∃ behind, readName (ks ++ ':' :: rest) = .ok (name, behind) ∧
      Json.readColon behind = .ok rest := by
  cases h with
  | @intro before inner after hbefore spelled hafter =>
    obtain ⟨body, rfl, hread⟩ := spelled.readString (after ++ ':' :: rest)
    refine ⟨after ++ ':' :: rest, ?_, Json.readColon_of_blank hafter rest⟩
    simp only [List.append_assoc, List.cons_append]
    simp [readName, Json.skipBlanks_append_cons hbefore (c := '"') (by decide), lifted, hread,
      Except.mapError]

/-- Behind its name, a member is taken if it has another name or gives the
indentation for the first time. -/
theorem readMember_eq_ok {name : String} {found given : Option Nat}
    {cs before value rest left : List Char}
    (hcolon : Json.readColon cs = .ok (before ++ (value ++ rest))) (hbefore : Blank before)
    (form : Form .value value) (hrest : EndsNumber rest) :
    readMember name found cs = .ok (given, left) ↔
      GivesBehind found (indentations [(name, value)]) given ∧ left = rest := by
  by_cases hname : name = "indentation"
  · have hvalues : indentations [(name, value)] = [value] := by simp [indentations, hname]
    rw [readMember, if_pos hname, hvalues]
    cases found with
    | some n =>
      simp only [Option.isSome_some, if_true, reduceCtorEq, false_iff, not_and]
      intro h
      cases h
    | none =>
      simp only [Option.isSome_none, Bool.false_eq_true, if_false, bind_eq_ok, lifted_eq_ok, hcolon,
        Except.ok.injEq, exists_eq_left', Prod.exists, readCount_eq_ok hbefore form hrest,
        pure_eq_ok, Prod.mk.injEq]
      constructor
      · rintro ⟨n, _, ⟨spelled, rfl⟩, rfl, rfl⟩
        exact ⟨.count spelled, rfl⟩
      · rintro ⟨h, rfl⟩
        cases h with
        | count spelled => exact ⟨_, _, ⟨spelled, rfl⟩, rfl, rfl⟩
  · have hvalues : indentations [(name, value)] = [] := by simp [indentations, hname]
    rw [readMember, if_neg hname, hvalues]
    simp only [bind_eq_ok, lifted_eq_ok, hcolon, Except.ok.injEq, exists_eq_left',
      form.skipValue hbefore hrest, pure_eq_ok, Prod.mk.injEq]
    constructor
    · rintro ⟨rfl, rfl⟩
      exact ⟨.kept, rfl⟩
    · rintro ⟨h, rfl⟩
      cases h
      exact ⟨rfl, rfl⟩

/-- A member in front of a comma or brace, with the outcome of reading it. -/
theorem MemberText.readMember_eq_ok {member : String × List Char} {cs rest : List Char} {c : Char}
    (h : MemberText member cs) (hblank : Json.isBlank c = false) (hrest : EndsNumber (c :: rest)) :
    ∃ behind ending, readName (cs ++ c :: rest) = .ok (member.1, behind) ∧
      skipBlanks ending = c :: rest ∧ ∀ {found given : Option Nat} {left : List Char},
        readMember member.1 found behind = .ok (given, left) ↔
          GivesBehind found (indentations [member]) given ∧ left = ending := by
  cases h with
  | @pair name ks before value after spelledName hbefore form hafter =>
    obtain ⟨behind, hname, hcolon⟩ :=
      readName_of_padded spelledName (before ++ (value ++ (after ++ c :: rest)))
    have hending := Json.endsNumber_blank_append hafter hrest
    refine ⟨behind, after ++ c :: rest, ?_, Json.skipBlanks_append_cons hafter hblank rest,
      Options.readMember_eq_ok hcolon hbefore form hending⟩
    simpa only [List.append_assoc, List.cons_append] using hname

/-- The last member, with the brace behind it. -/
theorem MemberText.readMembers_last {member : String × List Char} {cs : List Char}
    (h : MemberText member cs) {bound : Nat} {found given : Option Nat} {rest left : List Char} :
    readMembers (bound + 1) found (cs ++ '}' :: rest) = .ok (given, left) ↔
      GivesBehind found (indentations [member]) given ∧ left = rest := by
  obtain ⟨behind, ending, hname, hending, hmember⟩ :=
    h.readMember_eq_ok (c := '}') (by decide) (Json.endsNumber_cons rest (by decide))
  simp only [readMembers, hname, ok_bind, bind_eq_ok, Prod.exists, hmember]
  constructor
  · rintro ⟨between, _, ⟨hgives, rfl⟩, h⟩
    rw [hending] at h
    cases h
    exact ⟨hgives, rfl⟩
  · rintro ⟨hgives, rfl⟩
    exact ⟨given, _, ⟨hgives, rfl⟩, by rw [hending]; rfl⟩

/-- A member with others behind it. -/
theorem MemberText.readMembers_next {member : String × List Char} {cs others tail : List Char}
    (h : MemberText member cs) (hothers : skipBlanks others = '"' :: tail) {bound : Nat}
    {found : Option Nat} {result : Option Nat × List Char} :
    readMembers (bound + 1) found (cs ++ ',' :: others) = .ok result ↔
      ∃ between, GivesBehind found (indentations [member]) between ∧
        readMembers bound between others = .ok result := by
  obtain ⟨behind, ending, hname, hending, hmember⟩ :=
    h.readMember_eq_ok (c := ',') (by decide) (Json.endsNumber_cons others (by decide))
  simp only [readMembers, hname, ok_bind, bind_eq_ok, Prod.exists, hmember]
  constructor
  · rintro ⟨between, _, ⟨hgives, rfl⟩, h⟩
    simp only [hending, hothers] at h
    exact ⟨between, hgives, h⟩
  · rintro ⟨between, hgives, h⟩
    refine ⟨between, _, ⟨hgives, rfl⟩, ?_⟩
    simp only [hending, hothers]
    exact h

/-- A member starts with the quote of its name, behind blanks that do not
count. -/
theorem MemberText.behindBlanks {member : String × List Char} {cs : List Char}
    (h : MemberText member cs) :
    ∃ body, MemberText member ('"' :: body) ∧
      ∀ rest, skipBlanks (cs ++ rest) = '"' :: (body ++ rest) := by
  cases h with
  | pair spelledName hbefore form hafter =>
    obtain ⟨hfront, ⟨spelled⟩, hbehind⟩ := spelledName
    have hname := Padded.intro blank_nil (StringSpelling.quoted spelled) hbehind
    have hmember := MemberText.pair hname hbefore form hafter
    simp only [List.nil_append, List.cons_append, List.append_assoc] at hmember
    refine ⟨_, hmember, fun rest => ?_⟩
    simp only [List.append_assoc, List.cons_append, List.nil_append]
    exact Json.skipBlanks_append_cons hfront (by decide) _

theorem MembersText.behindBlanks {members : List (String × List Char)} {cs : List Char}
    (h : MembersText members cs) :
    ∃ body, MembersText members ('"' :: body) ∧
      ∀ rest, skipBlanks (cs ++ rest) = '"' :: (body ++ rest) := by
  cases h with
  | last written =>
    obtain ⟨body, hbody, hskip⟩ := written.behindBlanks
    exact ⟨body, .last hbody, hskip⟩
  | @next _ _ _ others written hothers =>
    obtain ⟨body, hbody, hskip⟩ := written.behindBlanks
    refine ⟨body ++ ',' :: others, .next hbody hothers, fun rest => ?_⟩
    rw [List.append_assoc, hskip, List.append_assoc]

/-- Members are taken if they give the indentation at most once, and then as
a number. By induction along the members, for all that may have been found
before. -/
theorem MembersText.readMembers_eq_ok {members : List (String × List Char)} {cs : List Char}
    (h : MembersText members cs) {bound : Nat} (hbound : cs.length < bound)
    {found given : Option Nat} {rest left : List Char} :
    readMembers bound found (cs ++ '}' :: rest) = .ok (given, left) ↔
      GivesBehind found (indentations members) given ∧ left = rest := by
  induction h generalizing bound found with
  | last written =>
    obtain ⟨bound, rfl⟩ := Nat.exists_eq_add_one.2 (Nat.zero_lt_of_lt hbound)
    exact written.readMembers_last
  | @next member members cs others written hothers ih =>
    obtain ⟨bound, rfl⟩ := Nat.exists_eq_add_one.2 (Nat.zero_lt_of_lt hbound)
    obtain ⟨_, -, hskip⟩ := hothers.behindBlanks
    have hlength : others.length < bound := by
      simp only [List.length_append, List.length_cons] at hbound
      omega
    rw [List.append_assoc, List.cons_append, written.readMembers_next (hskip _),
      indentations_cons member members, givesBehind_append]
    simp only [ih hlength]
    constructor
    · rintro ⟨between, hfirst, hgives, rfl⟩
      exact ⟨⟨between, hfirst, hgives⟩, rfl⟩
    · rintro ⟨⟨between, hfirst, hgives⟩, rfl⟩
      exact ⟨between, hfirst, hgives, rfl⟩

theorem startsWith_of_readName {cs rest : List Char} {name : String}
    (h : readName cs = .ok (name, rest)) :
    StartsWith (StringSpelling name) (skipBlanks cs) rest := by
  unfold readName at h
  split at h
  · rename_i hquote
    rw [hquote]
    exact Json.startsWith_of_readString (lifted_eq_ok.1 h)
  · cases h
  · cases h

/-- Behind its name, a member has a colon and a value. -/
theorem startsWith_of_readMember {name : String} {found given : Option Nat} {cs rest : List Char}
    (h : readMember name found cs = .ok (given, rest)) :
    ∃ behind, skipBlanks cs = ':' :: behind ∧
      StartsWith (Form .value) (skipBlanks behind) rest := by
  unfold readMember at h
  split at h
  · split at h
    · cases h
    · simp only [bind_eq_ok] at h
      obtain ⟨behind, hcolon, ⟨n, _⟩, hcount, h⟩ := h
      cases h
      exact ⟨behind, Json.readColon_eq_ok (lifted_eq_ok.1 hcolon), startsWith_of_readCount hcount⟩
  · simp only [bind_eq_ok] at h
    obtain ⟨behind, hcolon, _, hskip, h⟩ := h
    cases h
    exact ⟨behind, Json.readColon_eq_ok (lifted_eq_ok.1 hcolon),
      Json.startsWith_of_skipValue (lifted_eq_ok.1 hskip)⟩

theorem startsWith_of_readMembers {bound : Nat} {found given : Option Nat} {cs rest : List Char}
    (h : readMembers bound found cs = .ok (given, rest)) :
    StartsWith (fun text => ∃ members, MembersText members text) cs ('}' :: rest) := by
  induction bound generalizing found cs with
  | zero => cases h
  | succ bound ih =>
    simp only [readMembers, bind_eq_ok] at h
    obtain ⟨⟨name, behindName⟩, hname, ⟨between, behind⟩, hmember, h⟩ := h
    dsimp only at hmember h
    obtain ⟨tail, hcolon, value, form, hvalue⟩ := startsWith_of_readMember hmember
    obtain ⟨ks, spelledName, hks⟩ := (startsWith_of_readName hname).padded
    obtain ⟨before, hbefore, htail⟩ := Json.startsWith_blank tail
    obtain ⟨after, hafter, hbehind⟩ := Json.startsWith_blank behind
    have hwritten : MemberText (name, value) (ks ++ ':' :: (before ++ (value ++ after))) :=
      .pair spelledName hbefore form hafter
    have hcs : cs = (ks ++ ':' :: (before ++ (value ++ after))) ++ skipBlanks behind := by
      rw [hks, hcolon, htail, hvalue]
      conv => lhs; rw [hbehind]
      simp only [List.append_assoc, List.cons_append]
    split at h
    · rename_i hbrace
      cases h
      exact ⟨_, ⟨_, .last hwritten⟩, by rw [hcs, hbrace]⟩
    · rename_i others hcomma
      split at h
      · cases h
      · obtain ⟨text, ⟨members, hmembers⟩, hothers⟩ := ih h
        exact ⟨_, ⟨_, .next hwritten hmembers⟩, by rw [hcs, hcomma, hothers]; simp⟩
    · cases h
    · cases h

/-! ## 6. Whole texts -/

theorem readMembers_skipBlanks (bound : Nat) (found : Option Nat) (cs : List Char) :
    readMembers bound found (skipBlanks cs) = readMembers bound found cs := by
  cases bound with
  | zero => rfl
  | succ bound => simp only [readMembers, readName, Json.skipBlanks_skipBlanks]

theorem readObject_eq_ok {members : List (String × List Char)} {cs rest left : List Char}
    {options : Options} (h : MembersText members cs) :
    readObject (cs ++ '}' :: rest) = .ok (options, left) ↔
      Gives (indentations members) options ∧ left = rest := by
  obtain ⟨body, hbody, hskip⟩ := h.behindBlanks
  have hmembers {given : Option Nat} {left : List Char} :
      readMembers ('"' :: (body ++ '}' :: rest)).length none ('"' :: (body ++ '}' :: rest)) =
        .ok (given, left) ↔ GivesBehind none (indentations members) given ∧ left = rest := by
    rw [← List.cons_append]
    exact hbody.readMembers_eq_ok (by simp)
  rw [readObject, hskip]
  split
  · contradiction
  · rename_i heq; cases heq
  · simp only [bind_eq_ok, Prod.exists, hmembers, gives_iff]
    constructor
    · rintro ⟨given, _, ⟨hgives, rfl⟩, h⟩
      cases given with
      | none => cases h; exact ⟨⟨none, hgives, rfl⟩, rfl⟩
      | some n => cases h; exact ⟨⟨some n, hgives, rfl⟩, rfl⟩
    · rintro ⟨⟨given, hgives, rfl⟩, rfl⟩
      refine ⟨given, left, ⟨hgives, rfl⟩, ?_⟩
      cases given <;> rfl

theorem startsWith_of_readObject {cs rest : List Char} {options : Options}
    (h : readObject cs = .ok (options, rest)) :
    StartsWith (fun text => ∃ values, OptionsText values text) ('{' :: cs) rest := by
  unfold readObject at h
  split at h
  · cases h
  · rename_i hskip
    cases h
    obtain ⟨blanks, hblanks, hcs⟩ := Json.startsWith_blank cs
    exact ⟨_, ⟨_, .emptyObject hblanks⟩, by rw [hcs, hskip]; simp⟩
  · simp only [bind_eq_ok, readMembers_skipBlanks] at h
    obtain ⟨⟨given, behind⟩, hmembers, h⟩ := h
    obtain rfl : behind = rest := by
      cases given <;> cases h <;> rfl
    obtain ⟨text, ⟨members, written⟩, rfl⟩ := startsWith_of_readMembers hmembers
    exact ⟨_, ⟨_, .object written⟩, by simp⟩

/-- Behind a text of options in either form, the reader has them, and has
not looked at what follows. -/
theorem OptionsText.readForm_eq_ok {values : List (List Char)} {before cs rest left : List Char}
    {options : Options} (h : OptionsText values cs) (hbefore : Blank before) :
    readForm (before ++ (cs ++ rest)) = .ok (options, left) ↔
      Gives values options ∧ left = rest := by
  have hdefault : Gives [] options ↔ ({} : Options) = options :=
    ⟨fun h => by cases h; rfl, fun h => h ▸ .default⟩
  cases h
  all_goals
    simp only [List.cons_append, List.append_assoc, List.nil_append]
    rw [readForm, Json.skipBlanks_append_cons hbefore (by decide)]
  case emptyArray hblank =>
    simp [readItems, Json.skipBlanks_append_cons hblank (c := ']') (by decide), hdefault, eq_comm]
  case array hfront form hafter => exact readItems_eq_ok hfront form hafter
  case emptyObject hblank =>
    simp [readObject, Json.skipBlanks_append_cons hblank (c := '}') (by decide), hdefault, eq_comm]
  case object written => exact readObject_eq_ok written

/-- What the reader takes is a text of options in one of the two forms. -/
theorem startsWith_of_readForm {cs rest : List Char} {options : Options}
    (h : readForm cs = .ok (options, rest)) :
    StartsWith (fun text => ∃ values, OptionsText values text) (skipBlanks cs) rest := by
  unfold readForm at h
  split at h
  · rename_i hbracket
    rw [hbracket]
    exact startsWith_of_readItems h
  · rename_i hbrace
    rw [hbrace]
    exact startsWith_of_readObject h
  · cases h

theorem read_eq_ok_iff {text : String} {options : Options} :
    read text = .ok options ↔
      ∃ rest, readForm text.toList = .ok (options, rest) ∧ Blank rest := by
  simp only [read, mapError_eq_ok, bind_eq_ok, lifted_eq_ok, Json.expectEnd_eq_ok, pure_eq_ok,
    Prod.exists]
  constructor
  · rintro ⟨_, rest, hform, _, hblank, rfl⟩
    exact ⟨rest, hform, hblank⟩
  · rintro ⟨rest, hform, hblank⟩
    exact ⟨options, rest, hform, (), hblank, rfl⟩

/-- The options of a text of the right form, whatever stands behind it. -/
theorem OptionsText.read_eq_ok {values : List (List Char)} {text : String}
    {before cs after : List Char} (h : OptionsText values cs) (hbefore : Blank before)
    (htext : text.toList = before ++ (cs ++ after)) {options : Options} :
    read text = .ok options ↔ Gives values options ∧ Blank after := by
  simp only [read_eq_ok_iff, htext, h.readForm_eq_ok hbefore]
  constructor
  · rintro ⟨rest, ⟨hgives, rfl⟩, hblank⟩
    exact ⟨hgives, hblank⟩
  · rintro ⟨hgives, hblank⟩
    exact ⟨after, ⟨hgives, rfl⟩, hblank⟩

theorem exists_optionsText_of_read {text : String} {options : Options}
    (h : read text = .ok options) : ∃ values, Padded (OptionsText values) text.toList := by
  obtain ⟨rest, hform, hblank⟩ := read_eq_ok_iff.1 h
  obtain ⟨before, hbefore, htext⟩ := Json.startsWith_blank text.toList
  obtain ⟨cs, ⟨values, written⟩, hcs⟩ := startsWith_of_readForm hform
  refine ⟨values, ?_⟩
  rw [htext, hcs, ← List.append_assoc]
  exact .intro hbefore written hblank

/-! ## 7. Refused values -/

/-- Values that are not an indentation: nothing, a string, a number with a
sign, a fraction or an exponent, and a number that is too large. -/
inductive Unfit : List Char → Prop
  | null : Unfit ['n', 'u', 'l', 'l']
  | quoted {cs : List Char} (form : Json.StringForm cs) : Unfit cs
  | number {numeral : Json.Numeral} {cs : List Char} (spelled : NumeralSpelling numeral cs)
      (h : numeral.negative = true ∨ numeral.fraction ≠ none ∨ numeral.exponent ≠ none) : Unfit cs
  | tooLarge {cs : List Char} (spelled : WholeSpelling cs)
      (h : Nat.pow 2 64 ≤ Decimal.ofDigits 0 cs) : Unfit cs

theorem Unfit.not_countSpelling {n : Nat} {cs : List Char} (h : Unfit cs) :
    ¬CountSpelling n cs := by
  rintro ⟨spelled, hvalue, hbound⟩
  obtain ⟨c, tail, hcs, hc⟩ := spelled.head
  cases h with
  | null =>
    obtain ⟨rfl, -⟩ := List.cons.inj hcs
    cases hc
  | quoted form =>
    cases form
    obtain ⟨rfl, -⟩ := List.cons.inj hcs
    cases hc
  | number written h =>
    obtain rfl := written.unique spelled.numeral
    simp at h
  | tooLarge _ h => omega

theorem Gives.length_le {values : List (List Char)} {options : Options} (h : Gives values options) :
    values.length ≤ 1 := by
  cases h <;> simp

theorem Gives.not_unfit {values : List (List Char)} {options : Options} (h : Gives values options) :
    ∀ value ∈ values, ¬Unfit value := by
  cases h with
  | default => simp
  | count spelled => simpa using fun hunfit => hunfit.not_countSpelling spelled

/-- The order of the values does not count. -/
theorem Gives.perm {values values' : List (List Char)} {options : Options}
    (h : Gives values options) (hperm : values.Perm values') : Gives values' options := by
  cases h with
  | default =>
    obtain rfl := List.nil_perm.1 hperm
    exact .default
  | count spelled =>
    obtain rfl := List.singleton_perm.1 hperm
    exact .count spelled

theorem read_eq_ok_of_padded {values : List (List Char)} {text : String}
    (h : Padded (OptionsText values) text.toList) {options : Options} :
    read text = .ok options ↔ Gives values options := by
  generalize htext : text.toList = cs at h
  cases h with
  | @intro before inner after hbefore written hafter =>
    rw [List.append_assoc] at htext
    rw [written.read_eq_ok hbefore htext, and_iff_left hafter]

/-- An accepted text with more behind it is accepted if that is blank. -/
theorem read_append {text : String} {options : Options} (h : read text = .ok options)
    (more : String) (found : Options) :
    read (text ++ more) = .ok found ↔ Blank more.toList ∧ found = options := by
  obtain ⟨values, hpadded⟩ := exists_optionsText_of_read h
  have hvalues {given : Options} : Gives values given ↔ given = options := by
    rw [← read_eq_ok_of_padded hpadded, h, Except.ok.injEq, eq_comm]
  generalize htext : text.toList = cs at hpadded
  cases hpadded with
  | @intro before inner after hbefore written hafter =>
    have hmore : (text ++ more).toList = before ++ (inner ++ (after ++ more.toList)) := by
      simp [htext]
    rw [written.read_eq_ok hbefore hmore, hvalues, and_comm, Json.blank_append,
      and_iff_right hafter]

/-- The texts that are options, and which ones they are. A text is accepted
exactly when it is of one of the two forms and the values it lists give an
indentation: none gives `4`, and one gives `n` if it is the number `n` in
digits only, below `2^64`. So a second `indentation` is refused, and any
other value in its place. Texts that list the same values are the same
options or both refused, in whatever order the members are written, whatever
the other members are and wherever blanks stand. Nothing but blanks may
follow. -/
theorem read_iff_optionsText (text : String) :
    (∀ options, read text = .ok options ↔
      ∃ values, Padded (OptionsText values) text.toList ∧ Gives values options) ∧
    (∀ {values}, Padded (OptionsText values) text.toList →
      (∀ options, read text = .ok options ↔ Gives values options) ∧
      ((2 ≤ values.length ∨ ∃ value ∈ values, Unfit value) → ∀ options, read text ≠ .ok options) ∧
      ∀ {other : String} {values'}, Padded (OptionsText values') other.toList →
        values.Perm values' → ∀ options, read other = .ok options ↔ read text = .ok options) ∧
    (∀ {options}, read text = .ok options →
      ∀ more found, read (text ++ more) = .ok found ↔ Blank more.toList ∧ found = options) := by
  refine ⟨fun options => ⟨fun h => ?_, ?_⟩, fun {values} hvalues => ⟨?_, ?_, ?_⟩, ?_⟩
  · obtain ⟨values, hvalues⟩ := exists_optionsText_of_read h
    exact ⟨values, hvalues, (read_eq_ok_of_padded hvalues).1 h⟩
  · rintro ⟨values, hvalues, hgives⟩
    exact (read_eq_ok_of_padded hvalues).2 hgives
  · exact fun options => read_eq_ok_of_padded hvalues
  · intro hunfit options h
    have hgives := (read_eq_ok_of_padded hvalues).1 h
    obtain hlength | ⟨value, hmem, hvalue⟩ := hunfit
    · have := hgives.length_le
      omega
    · exact hgives.not_unfit value hmem hvalue
  · intro other values' hother hperm options
    rw [read_eq_ok_of_padded hother, read_eq_ok_of_padded hvalues]
    exact ⟨fun h => h.perm hperm.symm, fun h => h.perm hperm⟩
  · exact fun h => read_append h

/-- An object with a member that holds half a surrogate pair. -/
def taggedText : String :=
  "\x7b\"tag\":\"\\ud800\",\"indentation\":2\x7d"

/-- The indentation is found behind another member. The array with the same
value is the same options, and one with another value is none. -/
theorem read_iff_optionsText_tagged :
    read taggedText = .ok ⟨2⟩ ∧ read "[ 2 ]" = .ok ⟨2⟩ ∧ read (taggedText ++ "\n") = .ok ⟨2⟩ ∧
      ∀ options, read "[null]" ≠ .ok options := by
  have hspace : Blank [' '] := by simp [Blank, Json.isBlank]
  have hdigit : WholeSpelling ['2'] := .digits (by simp [Json.Digits]) (by decide)
  have htwo : Form .value ['2'] := .scalar (.number hdigit.numeral)
  have htag : MemberText ("tag", "\"\\ud800\"".toList) "\"tag\":\"\\ud800\"".toList :=
    .pair (padded_of (Json.stringSpelling_escaped "tag")) blank_nil
      (.scalar (.string (.quoted (.cons (.unit (.digits rfl)) .nil)))) blank_nil
  have hindentation : MemberText ("indentation", ['2']) "\"indentation\":2".toList :=
    .pair (padded_of (Json.stringSpelling_escaped "indentation")) blank_nil htwo blank_nil
  have hobject : Padded (OptionsText [['2']]) taggedText.toList :=
    padded_of (.object (.next htag (.last hindentation)))
  have harray : Padded (OptionsText [['2']]) "[ 2 ]".toList :=
    padded_of (.array hspace htwo hspace)
  have hnull : Padded (OptionsText [['n', 'u', 'l', 'l']]) "[null]".toList :=
    padded_of (.array blank_nil (.scalar .null) blank_nil)
  obtain ⟨-, hvalues, hmore⟩ := read_iff_optionsText taggedText
  obtain ⟨hgives, -, hother⟩ := hvalues hobject
  have htagged : read taggedText = .ok ⟨2⟩ := (hgives ⟨2⟩).2 (.count ⟨hdigit, rfl, by decide⟩)
  refine ⟨htagged, (hother harray (.refl _) ⟨2⟩).2 htagged, ?_, ?_⟩
  · exact (hmore htagged "\n" ⟨2⟩).2 ⟨by simp [Blank, Json.isBlank], rfl⟩
  · exact (((read_iff_optionsText "[null]").2.1 hnull).2.1) (.inr ⟨_, by simp, .null⟩)

end Options

end DatamodelTypes
