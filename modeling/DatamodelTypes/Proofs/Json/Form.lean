/-
DatamodelTypes.Proofs.Json.Form — the texts that are passed over as a
value.

A value that nobody asks for is checked for its form only. `Form` says what
that form is: values may be nested to any depth, numbers may be of any
size, and a string may hold half of a surrogate pair. `startsWith_of_skipValue`
and `Form.skipValue` say that exactly such texts are passed over.

## How the proof goes

A value is passed over by a loop that keeps the containers that are open in
a list. So a text is not cut along the grammar: at each turn of the loop
there is a value ahead, and behind it the ends of all open containers.
`Closing` is the grammar of those ends.

* In the one direction the turns are followed from the last one back.
  Each puts a value or a bracket in front of what follows, and an opening
  bracket makes one value of the value ahead and the end of its container
  (`Closing.enclosed`).
* In the other direction the induction is on the form, for all lists of open
  containers at once. `Skips` and `Resumes` carry the bound of the loop, so
  no turn has to be counted.
-/
import DatamodelTypes.Json.Skip
import DatamodelTypes.Proofs.Json.Acceptance
import Mathlib.Data.List.DropRight

namespace DatamodelTypes.Json

open Text (Fault)

/-! ## 1. Forms -/

/-- A character of a string as it stands, or an escape of the right form. -/
inductive CharForm : List Char → Prop
  | plain {c : Char} (notQuote : c ≠ '"') (notBackslash : c ≠ '\\')
      (notControl : isControl c = false) : CharForm [c]
  | short {letter c : Char} (escaped : shortEscape? letter = some c) : CharForm ['\\', letter]
  | unit {unit : Nat} {cs : List Char} (spelled : UnitSpelling unit cs) : CharForm cs

inductive TextForm : List Char → Prop
  | nil : TextForm []
  | cons {cs rest : List Char} (first : CharForm cs) (others : TextForm rest) :
      TextForm (cs ++ rest)

inductive StringForm : List Char → Prop
  | quoted {body : List Char} (form : TextForm body) : StringForm ('"' :: body ++ ['"'])

/-- A value that is no container. -/
inductive ScalarForm : List Char → Prop
  | null : ScalarForm ['n', 'u', 'l', 'l']
  | true : ScalarForm ['t', 'r', 'u', 'e']
  | false : ScalarForm ['f', 'a', 'l', 's', 'e']
  | string {cs : List Char} (form : StringForm cs) : ScalarForm cs
  | number {numeral : Numeral} {cs : List Char} (spelled : NumeralSpelling numeral cs) :
      ScalarForm cs

/-- The character that opens a container. -/
def Container.opening : Container → Char
  | .array => '['
  | .object => '{'

/-- What stands in front of the values of a container: nothing in an array,
a name and a colon in an object. -/
inductive KeyForm : Container → List Char → Prop
  | array : KeyForm .array []
  | object {cs : List Char} (form : Padded StringForm cs) : KeyForm .object (cs ++ [':'])

/-- The kinds of text that `Form` is about: a value, and what stands between
the brackets of a container, at least one value. -/
inductive Phrase where
  | value
  | elements (container : Container)

/-- JSON by its form. -/
inductive Form : Phrase → List Char → Prop
  | scalar {cs : List Char} (form : ScalarForm cs) : Form .value cs
  | empty (container : Container) {cs : List Char} (hblank : Blank cs) :
      Form .value (container.opening :: (cs ++ [container.closing]))
  | container {container : Container} {cs : List Char} (form : Form (.elements container) cs) :
      Form .value (container.opening :: (cs ++ [container.closing]))
  | last {container : Container} {key before cs after : List Char}
      (hkey : KeyForm container key) (hbefore : Blank before) (form : Form .value cs)
      (hafter : Blank after) : Form (.elements container) (key ++ (before ++ (cs ++ after)))
  | next {container : Container} {key before cs after rest : List Char}
      (hkey : KeyForm container key) (hbefore : Blank before) (form : Form .value cs)
      (hafter : Blank after) (others : Form (.elements container) rest) :
      Form (.elements container) (key ++ (before ++ (cs ++ (after ++ ',' :: rest))))

/-! ## 2. Strings -/

theorem CharForm.ne_nil {cs : List Char} (h : CharForm cs) : cs ≠ [] := by
  cases h with
  | plain => simp
  | short => simp
  | unit spelled => cases spelled; simp

/-- One character or escape is passed over before the others. -/
theorem CharForm.skipStringWithin {cs : List Char} (h : CharForm cs) (bound : Nat)
    (rest : List Char) :
    Json.skipStringWithin (bound + 1) (cs ++ rest) = Json.skipStringWithin bound rest := by
  cases h with
  | plain notQuote notBackslash notControl =>
    simp [Json.skipStringWithin, notQuote, notBackslash, notControl]
  | short escaped =>
    simp [Json.skipStringWithin, skipEscape, escaped]
  | unit spelled =>
    obtain ⟨digits, rfl, hread⟩ := spelled.readUnit rest
    simp [Json.skipStringWithin, skipEscape, shortEscape?, hread]

theorem TextForm.skipStringWithin {body : List Char} (h : TextForm body) (rest : List Char) :
    ∀ bound : Nat, body.length < bound →
      Json.skipStringWithin bound (body ++ '"' :: rest) = .ok rest := by
  induction h with
  | nil =>
    intro bound hbound
    obtain ⟨bound, rfl⟩ := Nat.exists_eq_add_one.2 hbound
    simp [Json.skipStringWithin]
  | @cons cs tail first others ih =>
    intro bound hbound
    obtain ⟨bound, rfl⟩ := Nat.exists_eq_add_one.2 (Nat.zero_lt_of_lt hbound)
    have hpos := List.length_pos_iff.2 first.ne_nil
    rw [List.append_assoc, first.skipStringWithin, ih bound]
    rw [List.length_append] at hbound
    omega

theorem StringForm.skipString {cs : List Char} (h : StringForm cs) (rest : List Char) :
    ∃ body, cs = '"' :: body ∧ Json.skipString (body ++ rest) = .ok rest := by
  cases h with
  | @quoted body form =>
    refine ⟨body ++ ['"'], rfl, ?_⟩
    rw [List.append_assoc, List.singleton_append, Json.skipString]
    exact form.skipStringWithin rest _ (by simp)

theorem startsWith_of_skipEscape {cs rest : List Char} (h : skipEscape cs = .ok rest) :
    StartsWith CharForm ('\\' :: cs) rest := by
  unfold skipEscape at h
  split at h
  · cases h
  · rename_i letter tail
    split at h
    · rename_i hescaped
      cases h
      exact ⟨['\\', letter], .short hescaped, rfl⟩
    · split at h
      · rename_i hu
        simp only [bind_eq_ok] at h
        obtain ⟨⟨unit, behind⟩, hunit, h⟩ := h
        cases h
        obtain ⟨⟨piece, spelled, hpiece⟩, -⟩ := startsWith_of_readUnit hunit
        rw [hu]
        exact ⟨piece, .unit spelled, hpiece⟩
      · cases h

theorem startsWith_of_skipStringWithin {bound : Nat} {cs rest : List Char}
    (h : skipStringWithin bound cs = .ok rest) : StartsWith TextForm cs ('"' :: rest) := by
  induction bound generalizing cs with
  | zero => cases h
  | succ bound ih =>
    cases cs with
    | nil => cases h
    | cons c tail =>
      unfold skipStringWithin at h
      split at h
      · rename_i hquote
        cases h
        exact ⟨[], .nil, by rw [hquote]; rfl⟩
      · rename_i hquote
        split at h
        · rename_i hslash
          simp only [bind_eq_ok] at h
          obtain ⟨behind, hescape, h⟩ := h
          obtain ⟨piece, form, hpiece⟩ := startsWith_of_skipEscape hescape
          obtain ⟨text, others, rfl⟩ := ih h
          exact ⟨piece ++ text, .cons form others, by rw [hslash, hpiece, List.append_assoc]⟩
        · rename_i hslash
          split at h
          · cases h
          · rename_i hcontrol
            obtain ⟨text, others, rfl⟩ := ih h
            exact ⟨[c] ++ text, .cons (.plain hquote hslash (by simpa using hcontrol)) others, rfl⟩

theorem startsWith_of_skipString {cs rest : List Char} (h : skipString cs = .ok rest) :
    StartsWith StringForm ('"' :: cs) rest := by
  obtain ⟨body, form, rfl⟩ := startsWith_of_skipStringWithin h
  exact ⟨'"' :: body ++ ['"'], .quoted form, by simp⟩

/-! ## 3. Values without containers -/

theorem ScalarForm.head {cs : List Char} (h : ScalarForm cs) :
    ∃ c tail, cs = c :: tail ∧ StartsValue c ∧ c ≠ '[' ∧ c ≠ '{' := by
  cases h with
  | null => exact ScalarSpelling.null.head
  | true => exact ScalarSpelling.true.head
  | false => exact ScalarSpelling.false.head
  | string form =>
    cases form
    exact ⟨'"', _, rfl, by simp [StartsValue, isBlank]⟩
  | number spelled =>
    obtain ⟨c, tail, rfl, rfl | hc⟩ := spelled.head
    · exact ⟨'-', tail, rfl, by simp [StartsValue, isBlank]⟩
    · exact ⟨c, tail, rfl, startsValue_of_isDigit hc⟩

theorem ScalarForm.skipScalar {cs : List Char} (h : ScalarForm cs) {rest : List Char}
    (hrest : EndsNumber rest) : Json.skipScalar (cs ++ rest) = .ok rest := by
  cases h with
  | null => rfl
  | true => rfl
  | false => rfl
  | string form =>
    obtain ⟨body, rfl, hskip⟩ := form.skipString rest
    exact hskip
  | number spelled =>
    have hscan := spelled.scanNumeral .invalidNumber hrest
    obtain ⟨c, tail, rfl, hc⟩ := spelled.head
    rw [List.cons_append] at hscan ⊢
    rw [Json.skipScalar.eq_def]
    split
    · rename_i heq; cases heq
    · rename_i heq; rw [(List.cons.inj heq).1] at hc; exact absurd hc (by decide)
    · rename_i heq; rw [(List.cons.inj heq).1] at hc; exact absurd hc (by decide)
    · rename_i heq; rw [(List.cons.inj heq).1] at hc; exact absurd hc (by decide)
    · rename_i heq; rw [(List.cons.inj heq).1] at hc; exact absurd hc (by decide)
    · rename_i heq
      rw [← (List.cons.inj heq).1, if_pos hc, hscan]
      rfl

theorem startsWith_of_skipScalar {cs rest : List Char} (h : skipScalar cs = .ok rest) :
    StartsWith ScalarForm cs rest := by
  unfold skipScalar at h
  split at h
  · cases h
  · exact ⟨_, .null, by rw [readKeyword_eq_ok h]; rfl⟩
  · exact ⟨_, .true, by rw [readKeyword_eq_ok h]; rfl⟩
  · exact ⟨_, .false, by rw [readKeyword_eq_ok h]; rfl⟩
  · obtain ⟨piece, form, hpiece⟩ := startsWith_of_skipString h
    exact ⟨piece, .string form, hpiece⟩
  · split at h
    · simp only [bind_eq_ok] at h
      obtain ⟨⟨numeral, behind⟩, hscan, h⟩ := h
      cases h
      obtain ⟨piece, spelled, hpiece⟩ := startsWith_of_scanNumeral hscan
      exact ⟨piece, .number spelled, hpiece⟩
    · cases h

/-! ## 4. The ends of open containers -/

/-- Blanks in front of a key belong to its name, or where there is none to
the blanks in front of the value. -/
theorem KeyForm.behindBlanks {container : Container} {key blanks before : List Char}
    (h : KeyForm container key) (hblanks : Blank blanks) (hbefore : Blank before) :
    ∃ key' before', KeyForm container key' ∧ Blank before' ∧
      blanks ++ (key ++ before) = key' ++ before' := by
  cases h with
  | array => exact ⟨[], blanks ++ before, .array, blank_append.2 ⟨hblanks, hbefore⟩, rfl⟩
  | object form =>
    obtain ⟨hfront, form, hbehind⟩ := form
    have hname := Padded.intro (blank_append.2 ⟨hblanks, hfront⟩) form hbehind
    exact ⟨_, before, .object hname, hbefore, by simp⟩

/-- The text behind a value, up to the ends of the containers around it,
innermost first. -/
inductive Closing : List Container → List Char → Prop
  | done : Closing [] []
  | close {container : Container} {outer : List Container} {before rest : List Char}
      (hbefore : Blank before) (h : Closing outer rest) :
      Closing (container :: outer) (before ++ container.closing :: rest)
  | next {container : Container} {outer : List Container} {blanks key before cs rest : List Char}
      (hblanks : Blank blanks) (hkey : KeyForm container key) (hbefore : Blank before)
      (form : Form .value cs) (h : Closing (container :: outer) rest) :
      Closing (container :: outer) (blanks ++ ',' :: (key ++ (before ++ (cs ++ rest))))

/-- A value, and behind it the ends of the containers around it. -/
inductive Opened (openContainers : List Container) : List Char → Prop
  | value {cs rest : List Char} (form : Form .value cs) (h : Closing openContainers rest) :
      Opened openContainers (cs ++ rest)

/-- The values up to the end of the innermost container, taken together. -/
theorem Closing.enclosed {container : Container} {outer : List Container} {ending : List Char}
    (h : Closing (container :: outer) ending) {key before cs : List Char}
    (hkey : KeyForm container key) (hbefore : Blank before) (form : Form .value cs) :
    ∃ inside rest, key ++ (before ++ (cs ++ ending)) = inside ++ container.closing :: rest ∧
      Form (.elements container) inside ∧ Closing outer rest := by
  generalize hopen : container :: outer = openContainers at h
  induction h generalizing key before cs with
  | done => cases hopen
  | @close _ _ after rest hafter h =>
    cases hopen
    exact ⟨_, rest, by simp only [List.append_assoc], .last hkey hbefore form hafter, h⟩
  | @next _ _ after key' before' cs' ending hafter hkey' hbefore' form' _ ih =>
    cases hopen
    obtain ⟨inside, rest, heq, others, hrest⟩ := ih hkey' hbefore' form' rfl
    refine ⟨_, rest, ?_, .next hkey hbefore form hafter others, hrest⟩
    rw [heq]
    simp only [List.append_assoc, List.cons_append]

/-- A container that is opened in front of its first value. -/
theorem Opened.container {container : Container} {outer : List Container}
    {key before cs : List Char} (h : Opened (container :: outer) cs)
    (hkey : KeyForm container key) (hbefore : Blank before) :
    Opened outer (container.opening :: (key ++ (before ++ cs))) := by
  cases h with
  | value form h =>
    obtain ⟨inside, rest, heq, elements, hrest⟩ := h.enclosed hkey hbefore form
    have hopened := Opened.value (.container elements) hrest
    rw [heq]
    simpa only [List.cons_append, List.append_assoc, List.nil_append] using hopened

/-! ## 5. Only what has the form is passed over -/

/-- What is left to be passed over after a turn of the loop: nothing if no
container is open, and else a value with the ends of those that are. -/
def Continues : List Container → List Char → List Char → Prop
  | [], cs, rest => cs = rest
  | openContainers, cs, rest => StartsWith (Opened openContainers) (skipBlanks cs) rest

theorem startsWith_of_skipKey {cs rest : List Char} (h : skipKey cs = .ok rest) :
    StartsWith (KeyForm .object) cs rest := by
  unfold skipKey at h
  split at h
  · rename_i tail hquote
    simp only [bind_eq_ok] at h
    obtain ⟨behind, hskip, hcolon⟩ := h
    have hname := startsWith_of_skipString hskip
    rw [← hquote] at hname
    obtain ⟨piece, form, hpiece⟩ := hname.padded
    rw [readColon_eq_ok hcolon] at hpiece
    exact ⟨piece ++ [':'], .object form, by rw [hpiece]; simp⟩
  · cases h
  · cases h

theorem startsWith_of_skipToValue {container : Container} {cs rest : List Char}
    (h : skipToValue container cs = .ok rest) : StartsWith (KeyForm container) cs rest := by
  cases container with
  | array =>
    cases h
    exact ⟨[], .array, rfl⟩
  | object => exact startsWith_of_skipKey h

/-- By recursion on the containers that are open. -/
theorem closing_of_skipClosing {openContainers openContainers' : List Container}
    {cs behind rest : List Char}
    (h : skipClosing openContainers cs = .ok (openContainers', behind))
    (hrest : Continues openContainers' behind rest) :
    StartsWith (Closing openContainers) cs rest := by
  induction openContainers generalizing cs with
  | nil =>
    cases h
    exact ⟨[], .done, hrest⟩
  | cons container outer ih =>
    obtain ⟨blanks, hblanks, hcs⟩ := startsWith_blank cs
    unfold skipClosing at h
    split at h
    · cases h
    · rename_i c tail hskip
      rw [hskip] at hcs
      split at h
      · rename_i hcomma
        simp only [bind_eq_ok] at h
        obtain ⟨value, hvalue, h⟩ := h
        cases h
        obtain ⟨key, hkey, rfl⟩ := startsWith_of_skipToValue hvalue
        obtain ⟨before, hbefore, hbehind⟩ := startsWith_blank behind
        obtain ⟨_, ⟨form, hclosing⟩, hopened⟩ := hrest
        refine ⟨_, .next hblanks hkey hbefore form hclosing, ?_⟩
        rw [hcs, hcomma, hbehind, hopened]
        simp only [List.append_assoc, List.cons_append]
      · split at h
        · rename_i hclosing
          obtain ⟨ending, hending, rfl⟩ := ih h
          exact ⟨_, .close hblanks hending, by rw [hcs, hclosing]; simp⟩
        · cases h

theorem opened_of_skipOpening (container : Container) {outer openContainers' : List Container}
    {cs behind rest : List Char}
    (h : skipOpening container outer cs = .ok (openContainers', behind))
    (hrest : Continues openContainers' behind rest) :
    StartsWith (Opened outer) (container.opening :: cs) rest := by
  obtain ⟨blanks, hblanks, hcs⟩ := startsWith_blank cs
  unfold skipOpening at h
  split at h
  · cases h
  · rename_i c tail hskip
    rw [hskip] at hcs
    split at h
    · rename_i hclosing
      obtain ⟨ending, hending, rfl⟩ := closing_of_skipClosing h hrest
      refine ⟨_, .value (.empty container hblanks) hending, ?_⟩
      rw [hcs, hclosing]
      simp
    · simp only [bind_eq_ok] at h
      obtain ⟨value, hvalue, h⟩ := h
      cases h
      obtain ⟨key, hkey, hkeyed⟩ := startsWith_of_skipToValue hvalue
      obtain ⟨before, hbefore, hbehind⟩ := startsWith_blank behind
      obtain ⟨piece, hopened, hpiece⟩ := hrest
      obtain ⟨key', before', hkey', hbefore', heq⟩ := hkey.behindBlanks hblanks hbefore
      refine ⟨_, hopened.container hkey' hbefore', ?_⟩
      rw [hcs, hkeyed, hbehind, hpiece]
      simpa using congrArg (· ++ (piece ++ rest)) heq

theorem opened_of_skipStep {openContainers openContainers' : List Container}
    {cs behind rest : List Char}
    (h : skipStep openContainers cs = .ok (openContainers', behind))
    (hrest : Continues openContainers' behind rest) :
    StartsWith (Opened openContainers) (skipBlanks cs) rest := by
  unfold skipStep at h
  split at h
  · rename_i hbracket
    rw [hbracket]
    exact opened_of_skipOpening .array h hrest
  · rename_i hbrace
    rw [hbrace]
    exact opened_of_skipOpening .object h hrest
  · simp only [bind_eq_ok] at h
    obtain ⟨ending, hscalar, h⟩ := h
    obtain ⟨piece, form, hpiece⟩ := startsWith_of_skipScalar hscalar
    obtain ⟨closing, hclosing, rfl⟩ := closing_of_skipClosing h hrest
    exact ⟨_, .value (.scalar form) hclosing, by rw [hpiece, List.append_assoc]⟩

/-- By induction on the turns that the loop may still take. -/
theorem opened_of_skipWithin {bound : Nat} {openContainers : List Container}
    {cs rest : List Char} (h : skipWithin bound openContainers cs = .ok rest) :
    StartsWith (Opened openContainers) (skipBlanks cs) rest := by
  induction bound generalizing openContainers cs with
  | zero => cases h
  | succ bound ih =>
    simp only [skipWithin, bind_eq_ok] at h
    obtain ⟨⟨openContainers', behind⟩, hstep, h⟩ := h
    refine opened_of_skipStep hstep ?_
    cases openContainers' with
    | nil =>
      cases h
      rfl
    | cons container outer => exact ih h

/-- A value that is passed over has the form of one. -/
theorem startsWith_of_skipValue {cs rest : List Char} (h : skipValue cs = .ok rest) :
    StartsWith (Form .value) (skipBlanks cs) rest := by
  obtain ⟨_, ⟨form, hclosing⟩, hpiece⟩ := opened_of_skipWithin h
  cases hclosing
  rw [List.append_nil] at hpiece
  exact ⟨_, form, hpiece⟩

/-! ## 6. All that has the form is passed over -/

/-- The loop passes over what is ahead and leaves `rest`, whatever the bound,
if it is not too small. Blanks ahead do not count. -/
def Skips (openContainers : List Container) (cs rest : List Char) : Prop :=
  ∀ bound, (skipBlanks cs).length ≤ bound → skipWithin bound openContainers cs = .ok rest

/-- What is left to be passed over after a turn of the loop is passed over. -/
def Leaves : List Container → List Char → List Char → Prop
  | [], cs, rest => cs = rest
  | openContainers, cs, rest => Skips openContainers cs rest

/-- From behind a value on, the ends of the open containers are passed over. -/
def Resumes (openContainers : List Container) (cs rest : List Char) : Prop :=
  ∃ openContainers' behind, skipClosing openContainers cs = .ok (openContainers', behind) ∧
    behind.length ≤ cs.length ∧ Leaves openContainers' behind rest

/-- From in front of a key on, the key and what follows are passed over. -/
def Enters (container : Container) (outer : List Container) (cs rest : List Char) : Prop :=
  ∃ behind, skipToValue container cs = .ok behind ∧ behind.length ≤ cs.length ∧
    Skips (container :: outer) behind rest

theorem skipBlanks_skipBlanks (cs : List Char) : skipBlanks (skipBlanks cs) = skipBlanks cs :=
  List.dropWhile_idempotent isBlank cs

theorem length_skipBlanks_le (cs : List Char) : (skipBlanks cs).length ≤ cs.length :=
  (List.dropWhile_suffix isBlank).length_le

theorem startsValue_opening (container : Container) : StartsValue container.opening := by
  cases container <;> simp [StartsValue, isBlank, Container.opening]

theorem isBlank_closing (container : Container) : isBlank container.closing = false := by
  cases container <;> decide

theorem endsNumber_closing (container : Container) (rest : List Char) :
    EndsNumber (container.closing :: rest) := by
  cases container <;> exact endsNumber_cons rest (by decide)

/-- One turn of the loop. -/
theorem Leaves.skipWithin {openContainers openContainers' : List Container}
    {cs behind rest : List Char} (h : Leaves openContainers' behind rest)
    (hstep : skipStep openContainers cs = .ok (openContainers', behind)) {bound : Nat}
    (hbound : behind.length ≤ bound) :
    Json.skipWithin (bound + 1) openContainers cs = .ok rest := by
  rw [Json.skipWithin, hstep]
  cases openContainers' with
  | nil =>
    cases h
    rfl
  | cons container outer => exact h bound ((length_skipBlanks_le behind).trans hbound)

/-- A turn of the loop that gets on by one character at least. -/
theorem skips_of_step {openContainers openContainers' : List Container}
    {before behind rest : List Char} {c : Char} {cs : List Char} (hbefore : Blank before)
    (hc : isBlank c = false) (hlength : behind.length ≤ cs.length)
    (hstep : skipStep openContainers (before ++ c :: cs) = .ok (openContainers', behind))
    (h : Leaves openContainers' behind rest) : Skips openContainers (before ++ c :: cs) rest := by
  intro bound hbound
  rw [skipBlanks_append_cons hbefore hc, List.length_cons] at hbound
  obtain ⟨bound, rfl⟩ := Nat.exists_eq_add_one.2 (Nat.zero_lt_of_lt hbound)
  exact h.skipWithin hstep (by omega)

theorem ScalarForm.skips {cs : List Char} (h : ScalarForm cs) {openContainers : List Container}
    {before ending rest : List Char} (hbefore : Blank before) (hending : EndsNumber ending)
    (hrest : Resumes openContainers ending rest) :
    Skips openContainers (before ++ (cs ++ ending)) rest := by
  have hscalar := h.skipScalar hending
  obtain ⟨c, tail, rfl, hc, hbracket, hbrace⟩ := h.head
  obtain ⟨openContainers', behind, hclosing, hlength, hleaves⟩ := hrest
  rw [List.cons_append] at hscalar ⊢
  have hstep : skipStep openContainers (before ++ c :: (tail ++ ending)) =
      .ok (openContainers', behind) := by
    simp [skipStep, skipBlanks_append_cons hbefore hc.1, hbracket, hbrace, hscalar, hclosing]
  refine skips_of_step hbefore hc.1 ?_ hstep hleaves
  rw [List.length_append]
  omega

/-- An opening bracket is passed over with what follows. -/
theorem skips_opening {container : Container} {openContainers openContainers' : List Container}
    {before cs behind rest : List Char} (hbefore : Blank before)
    (hopening : skipOpening container openContainers cs = .ok (openContainers', behind))
    (hlength : behind.length ≤ cs.length) (h : Leaves openContainers' behind rest) :
    Skips openContainers (before ++ container.opening :: cs) rest := by
  have hblank := (startsValue_opening container).1
  have hstep : skipStep openContainers (before ++ container.opening :: cs) =
      skipOpening container openContainers cs := by
    rw [skipStep, skipBlanks_append_cons hbefore hblank]
    cases container <;> rfl
  exact skips_of_step hbefore hblank hlength (hstep.trans hopening) h

/-- Where the innermost container ends, the others are left. -/
theorem Resumes.close {container : Container} {outer : List Container}
    {after ending rest : List Char} (h : Resumes outer ending rest) (hafter : Blank after) :
    Resumes (container :: outer) (after ++ container.closing :: ending) rest := by
  obtain ⟨openContainers', behind, hclosing, hlength, hleaves⟩ := h
  have hcomma : container.closing ≠ ',' := by cases container <;> decide
  refine ⟨openContainers', behind, ?_, ?_, hleaves⟩
  · rw [skipClosing, skipBlanks_append_cons hafter (isBlank_closing container)]
    simp only [if_neg hcomma, if_true, hclosing]
  · rw [List.length_append, List.length_cons]
    omega

/-- Where there is a comma, one more value of the container follows. -/
theorem Enters.resumes {container : Container} {outer : List Container}
    {after cs rest : List Char} (h : Enters container outer cs rest) (hafter : Blank after) :
    Resumes (container :: outer) (after ++ ',' :: cs) rest := by
  obtain ⟨behind, hkey, hlength, hskips⟩ := h
  refine ⟨container :: outer, behind, ?_, ?_, hskips⟩
  · rw [skipClosing, skipBlanks_append_cons hafter (by decide)]
    simp only [if_true, hkey, ok_bind, pure_eq]
  · rw [List.length_append, List.length_cons]
    omega

/-- Blanks in front of a key may be passed over first. -/
theorem Enters.skipBlanks {container : Container} {outer : List Container}
    {cs rest : List Char} (h : Enters container outer cs rest) :
    ∃ behind, skipToValue container (Json.skipBlanks cs) = .ok behind ∧
      behind.length ≤ cs.length ∧ Skips (container :: outer) behind rest := by
  obtain ⟨behind, hkey, hlength, hskips⟩ := h
  cases container with
  | object =>
    refine ⟨behind, ?_, hlength, hskips⟩
    rwa [skipToValue, skipKey, skipBlanks_skipBlanks]
  | array =>
    cases hkey
    refine ⟨Json.skipBlanks cs, rfl, length_skipBlanks_le cs, fun bound hbound => ?_⟩
    rw [skipBlanks_skipBlanks] at hbound
    have hcs := hskips bound hbound
    cases bound with
    | zero => cases hcs
    | succ bound => rwa [Json.skipWithin, skipStep, skipBlanks_skipBlanks]

theorem skipKey_of_padded {cs : List Char} (h : Padded StringForm cs) (rest : List Char) :
    skipKey (cs ++ ':' :: rest) = .ok rest := by
  cases h with
  | @intro before inner after hbefore form hafter =>
    obtain ⟨body, rfl, hskip⟩ := form.skipString (after ++ ':' :: rest)
    simp only [List.append_assoc, List.cons_append]
    simp [skipKey, skipBlanks_append_cons hbefore (c := '"') (by decide), hskip,
      readColon_of_blank hafter]

theorem KeyForm.skipToValue {container : Container} {key : List Char} (h : KeyForm container key)
    (rest : List Char) : Json.skipToValue container (key ++ rest) = .ok rest := by
  cases h with
  | array => rfl
  | object form =>
    rw [List.append_assoc, List.singleton_append]
    exact skipKey_of_padded form rest

/-- A value starts with neither a blank nor an end. -/
theorem Form.head {cs : List Char} (h : Form .value cs) :
    ∃ c tail, cs = c :: tail ∧ StartsValue c := by
  cases h with
  | scalar form =>
    obtain ⟨c, tail, hcs, hc, -⟩ := form.head
    exact ⟨c, tail, hcs, hc⟩
  | empty container => exact ⟨_, _, rfl, startsValue_opening container⟩
  | @container container => exact ⟨_, _, rfl, startsValue_opening container⟩

theorem StartsValue.ne_closing {c : Char} (h : StartsValue c) (container : Container) :
    c ≠ container.closing := by
  cases container with
  | array => exact h.2.1
  | object => exact h.2.2

/-- A key and a value start with neither a blank nor an end either. -/
theorem KeyForm.head {container : Container} {key before cs : List Char}
    (h : KeyForm container key) (hbefore : Blank before) (form : Form .value cs)
    (rest : List Char) :
    ∃ c tail, skipBlanks (key ++ (before ++ (cs ++ rest))) = c :: tail ∧ StartsValue c := by
  cases h with
  | array =>
    obtain ⟨c, tail, rfl, hc⟩ := form.head
    exact ⟨c, tail ++ rest, skipBlanks_append_cons hbefore hc.1 _, hc⟩
  | object hname =>
    obtain ⟨hfront, ⟨hname⟩, hbehind⟩ := hname
    simp only [List.append_assoc, List.cons_append]
    exact ⟨'"', _, skipBlanks_append_cons hfront (by decide) _, by simp [StartsValue, isBlank]⟩

theorem Form.head_elements {container : Container} {cs : List Char}
    (h : Form (.elements container) cs) (rest : List Char) :
    ∃ c tail, skipBlanks (cs ++ rest) = c :: tail ∧ c ≠ container.closing := by
  have hhead : ∃ c tail, skipBlanks (cs ++ rest) = c :: tail ∧ StartsValue c := by
    cases h with
    | last hkey hbefore form =>
      simp only [List.append_assoc]
      exact hkey.head hbefore form _
    | next hkey hbefore form =>
      simp only [List.append_assoc]
      exact hkey.head hbefore form _
  obtain ⟨c, tail, hskip, hc⟩ := hhead
  exact ⟨c, tail, hskip, hc.ne_closing container⟩

/-- What is passed over of a text with the form of a phrase: a value with
the ends of the containers around it, and the values of a container up to
behind its end. -/
def Passed : Phrase → List Char → Prop
  | .value, cs => ∀ {openContainers : List Container} {before ending rest : List Char},
      Blank before → EndsNumber ending → Resumes openContainers ending rest →
        Skips openContainers (before ++ (cs ++ ending)) rest
  | .elements container, cs => ∀ {outer : List Container} {ending rest : List Char},
      Resumes outer ending rest → Enters container outer (cs ++ container.closing :: ending) rest

/-- The value behind a key is passed over with the key. -/
theorem KeyForm.enters {container : Container} {key before cs after : List Char}
    (h : KeyForm container key) (hvalue : Passed .value cs) (hbefore : Blank before)
    (hafter : Blank after) {outer : List Container} {c : Char} {ending rest : List Char}
    (hending : EndsNumber (c :: ending))
    (hrest : Resumes (container :: outer) (after ++ c :: ending) rest) :
    Enters container outer (key ++ (before ++ (cs ++ (after ++ c :: ending)))) rest := by
  refine ⟨_, h.skipToValue _, by simp, ?_⟩
  exact hvalue hbefore (endsNumber_blank_append hafter hending) hrest

theorem passed_empty (container : Container) {cs : List Char} (hblank : Blank cs) :
    Passed .value (container.opening :: (cs ++ [container.closing])) := by
  intro openContainers before ending rest hbefore _ hrest
  obtain ⟨openContainers', behind, hclosing, hlength, hleaves⟩ := hrest
  simp only [List.cons_append, List.append_assoc, List.nil_append]
  refine skips_opening hbefore ?_ ?_ hleaves
  · rw [skipOpening, skipBlanks_append_cons hblank (isBlank_closing container)]
    simp only [if_true, hclosing]
  · rw [List.length_append, List.length_cons]
    omega

theorem passed_container {container : Container} {cs : List Char}
    (form : Form (.elements container) cs) (helements : Passed (.elements container) cs) :
    Passed .value (container.opening :: (cs ++ [container.closing])) := by
  intro openContainers before ending rest hbefore _ hrest
  obtain ⟨c, tail, hskip, hc⟩ := form.head_elements (container.closing :: ending)
  obtain ⟨behind, hkey, hlength, hskips⟩ := (helements hrest).skipBlanks
  have hleaves : Leaves (container :: openContainers) behind rest := hskips
  simp only [List.cons_append, List.append_assoc, List.nil_append]
  refine skips_opening hbefore ?_ hlength hleaves
  rw [skipOpening]
  rw [hskip] at hkey ⊢
  simp only [if_neg hc, hkey, ok_bind, pure_eq]

/-- By induction on the form, for all lists of open containers. -/
theorem Form.passed {phrase : Phrase} {cs : List Char} (h : Form phrase cs) :
    Passed phrase cs := by
  induction h with
  | scalar form => exact fun hbefore hending hrest => form.skips hbefore hending hrest
  | empty container hblank => exact passed_empty container hblank
  | container form ih => exact passed_container form ih
  | @last container key before cs after hkey hbefore _ hafter ih =>
    intro outer ending rest hrest
    simp only [List.append_assoc]
    exact hkey.enters ih hbefore hafter (endsNumber_closing container ending) (hrest.close hafter)
  | @next container key before cs after others hkey hbefore _ hafter _ ih ih' =>
    intro outer ending rest hrest
    simp only [List.append_assoc, List.cons_append]
    exact hkey.enters ih hbefore hafter (endsNumber_cons _ (by decide))
      ((ih' hrest).resumes hafter)

/-- What has the form of a value is passed over as one. -/
theorem Form.skipValue {before cs rest : List Char} (h : Form .value cs) (hbefore : Blank before)
    (hrest : EndsNumber rest) : Json.skipValue (before ++ (cs ++ rest)) = .ok rest := by
  have hnone : Resumes [] rest rest := ⟨[], rest, rfl, Nat.le_refl _, rfl⟩
  exact h.passed hbefore hrest hnone _ (length_skipBlanks_le _)

end DatamodelTypes.Json
