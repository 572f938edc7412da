/-
DatamodelTypes.Proofs.Cli.Arguments — the spellings of a command line.

An option and its value can be written in five ways, the flag for verbose
logging in three, and the groups of arguments that are written so can
stand in any order. `Group` lists the ways. Whatever settings are asked
for by a row of groups, these settings are read from it (`parse_groups`).
One more group for an option that is there already makes the command line
no command, and so does an argument between two groups that starts with no
dash.

## How the proof goes

Reading a row of groups is giving their items one after the other
(`parseFrom_groups`), with one lemma for each spelling. What is given by
items that do not repeat an option does not depend on their order
(`giveAll_perm`), and items that repeat one are refused
(`nodup_of_giveAll`).
-/
import DatamodelTypes.Cli.Arguments
import DatamodelTypes.Proofs.Cutting
import DatamodelTypes.Proofs.Except

namespace DatamodelTypes

/-! ## 1. Numbers -/

namespace Decimal

theorem ofDigits_eq (start : Nat) (digits : List Char) :
    ofDigits start digits = Nat.ofDigitChars 10 digits start := by
  have hstep : (fun n c => n * 10 + digitValue c) =
      fun n (c : Char) => 10 * n + (c.toNat - '0'.toNat) := by
    funext n c
    rw [digitValue, Nat.mul_comm]
  rw [ofDigits, hstep, Nat.ofDigitChars_eq_foldl]

/-- Digits are read with or without a plus sign in front. -/
theorem natOfText?_digits {digits : List Char} (hne : digits ≠ [])
    (hdigits : ∀ c ∈ digits, c.isDigit = true) :
    natOfText? (String.ofList digits) = some (ofDigits 0 digits) ∧
      natOfText? (String.ofList ('+' :: digits)) = some (ofDigits 0 digits) := by
  have hall : digits.all Char.isDigit = true := List.all_eq_true.2 hdigits
  constructor
  · cases digits with
    | nil => exact absurd rfl hne
    | cons c cs =>
      have hc : c ≠ '+' := by
        rintro rfl
        exact absurd (hdigits '+' (by simp)) (by decide)
      unfold natOfText?
      rw [String.toList_ofList]
      split
      · rename_i heq
        cases heq
        exact absurd rfl hc
      · rw [if_pos ⟨hne, hall⟩]
  · unfold natOfText?
    rw [String.toList_ofList]
    exact if_pos ⟨hne, hall⟩

end Decimal

namespace Cli

/-- The texts of a number: its digits, perhaps with zeros and a plus sign in
front. -/
inductive NumberText (number : Nat) : String → Prop
  | digits (zeros : Nat) :
      NumberText number (String.ofList (List.replicate zeros '0') ++ toString number)
  | plus (zeros : Nat) :
      NumberText number ("+" ++ String.ofList (List.replicate zeros '0') ++ toString number)

theorem NumberText.natOfText? {number : Nat} {text : String} (h : NumberText number text) :
    Decimal.natOfText? text = some number := by
  have hdigits (zeros : Nat) :
      ∀ c ∈ List.replicate zeros '0' ++ Nat.toDigits 10 number, c.isDigit = true := by
    intro c hc
    obtain hc | hc := List.mem_append.1 hc
    · rw [List.eq_of_mem_replicate hc]
      rfl
    · exact Nat.isDigit_of_mem_toDigits (by decide) (by decide) hc
  have hne (zeros : Nat) : List.replicate zeros '0' ++ Nat.toDigits 10 number ≠ [] := by
    simp [Nat.toDigits_ne_nil]
  have hvalue (zeros : Nat) :
      Decimal.ofDigits 0 (List.replicate zeros '0' ++ Nat.toDigits 10 number) = number := by
    rw [Decimal.ofDigits_eq, Nat.ofDigitChars_append, Nat.ofDigitChars_replicate_zero, Nat.mul_zero,
      Nat.ofDigitChars_ten_toDigits]
  cases h with
  | digits zeros =>
    obtain ⟨hread, -⟩ := Decimal.natOfText?_digits (hne zeros) (hdigits zeros)
    rw [Nat.toString_eq_ofList_toDigits, ← String.ofList_append, hread, hvalue]
  | plus zeros =>
    obtain ⟨-, hread⟩ := Decimal.natOfText?_digits (hne zeros) (hdigits zeros)
    have hplus : ("+" : String) = String.ofList ['+'] := rfl
    rw [Nat.toString_eq_ofList_toDigits, hplus, ← String.ofList_append, ← String.ofList_append,
      List.append_assoc, List.singleton_append, hread, hvalue]

theorem NumberText.indentation {number : Nat} {text : String} (h : NumberText number text)
    (least : 1 ≤ number) (most : number ≤ 65535) : indentationOfText? text = some number := by
  simp [indentationOfText?, h.natOfText?, least, most]

/-! ## 2. Groups of arguments -/

/-- One thing that a command line gives. -/
inductive Item where
  | value (option : ValueOption) (text : String)
  | verbose
  deriving DecidableEq, Repr

/-- The option that an item is for; none for the flag. -/
def Item.option? : Item → Option ValueOption
  | .value option _ => some option
  | .verbose => none

/-- The letter of an option. -/
def ValueOption.letter : ValueOption → Char
  | .input => 'i'
  | .output => 'o'
  | .indentation => 'n'

/-- An option with its value behind one dash and perhaps other letters: the
value is an argument of its own, which must not look like an option, or it
is attached, with or without an equals sign. -/
inductive Short (letters : List Char) (option : ValueOption) (text : String) :
    List String → Prop
  | separate (alone : text = "-" ∨ text.toList.head? ≠ some '-') :
      Short letters option text [String.ofList ('-' :: (letters ++ [option.letter])), text]
  | equals (nonempty : text ≠ "") :
      Short letters option text
        [String.ofList ('-' :: (letters ++ option.letter :: '=' :: text.toList))]
  | attached (nonempty : text ≠ "") (noEquals : text.toList.head? ≠ some '=') :
      Short letters option text
        [String.ofList ('-' :: (letters ++ option.letter :: text.toList))]

/-- An option with its value behind two dashes. -/
inductive Long (option : ValueOption) (text : String) : List String → Prop
  | separate (alone : text = "-" ∨ text.toList.head? ≠ some '-') :
      Long option text ["--" ++ option.name, text]
  | equals (nonempty : text ≠ "") : Long option text ["--" ++ option.name ++ "=" ++ text]

/-- The letters in front of that of an option, and what they give. -/
inductive Flags : List Item → List Char → Prop
  | none : Flags [] []
  | verbose : Flags [.verbose] ['v']

/-- A group of arguments and what it gives: an option with its value, the
flag, or both, when the letter of the flag stands in front of that of the
option. -/
inductive Group : List Item → List String → Prop
  | short {flags : List Item} {letters : List Char} {option : ValueOption} {text : String}
      {arguments : List String} (front : Flags flags letters)
      (h : Short letters option text arguments) :
      Group (flags ++ [.value option text]) arguments
  | long {option : ValueOption} {text : String} {arguments : List String}
      (h : Long option text arguments) : Group [.value option text] arguments
  | flagLetter : Group [.verbose] ["-v"]
  | flagName : Group [.verbose] ["--verbose"]

/-- Groups one after the other, and what they give. -/
inductive Groups : List Item → List String → Prop
  | nil : Groups [] []
  | cons {items more : List Item} {arguments rest : List String} (group : Group items arguments)
      (groups : Groups more rest) : Groups (items ++ more) (arguments ++ rest)

theorem Groups.append {items more : List Item} {arguments rest : List String}
    (h : Groups items arguments) (h' : Groups more rest) :
    Groups (items ++ more) (arguments ++ rest) := by
  induction h with
  | nil => exact h'
  | cons group _ ih =>
    rw [List.append_assoc, List.append_assoc]
    exact .cons group ih

/-- What asks for an indentation; nothing has to for four. -/
inductive AsksForIndentation : Nat → List Item → Prop
  | leftOut : AsksForIndentation 4 []
  | given {number : Nat} {text : String} (least : 1 ≤ number) (most : number ≤ 65535)
      (written : NumberText number text) :
      AsksForIndentation number [.value .indentation text]

/-- Items that ask for some settings, in any order. -/
structure Settings.AskedBy (settings : Settings) (items : List Item) : Prop where
  output : settings.output ≠ ""
  items : ∃ indentation, AsksForIndentation settings.indentation indentation ∧
    items.Perm (.value .input settings.input :: .value .output settings.output ::
      (indentation ++ if settings.verbose then [.verbose] else []))

/-! ## 3. Giving items -/

namespace Given

/-- The options given with one item more. -/
def give (given : Given) : Item → Except UsageFault Given
  | .value option text => given.set option text
  | .verbose => given.setVerbose

/-- The options given with some items more, one after the other. -/
def giveAll (given : Given) (items : List Item) : Except UsageFault Given :=
  items.foldlM give given

theorem giveAll_cons (given : Given) (item : Item) (items : List Item) :
    given.giveAll (item :: items) = given.give item >>= (·.giveAll items) :=
  List.foldlM_cons

theorem giveAll_append (given : Given) (items more : List Item) :
    given.giveAll (items ++ more) = given.giveAll items >>= (·.giveAll more) :=
  List.foldlM_append

theorem giveAll_singleton (given : Given) (item : Item) :
    given.giveAll [item] = given.give item := by
  rw [giveAll_cons]
  cases given.give item <;> rfl

/-- What comes of giving an item that can be given. -/
inductive Gives (given : Given) : Item → Given → Prop
  | input {text : String} (new : given.input = none) :
      Gives given (.value .input text) { given with input := some text }
  | output {text : String} (new : given.output = none) (nonempty : text ≠ "") :
      Gives given (.value .output text) { given with output := some text }
  | indentation {text : String} {number : Nat} (new : given.indentation = none)
      (written : indentationOfText? text = some number) :
      Gives given (.value .indentation text) { given with indentation := some number }
  | verbose (new : given.verbose = false) : Gives given .verbose { given with verbose := true }

theorem give_eq_ok {given after : Given} {item : Item} :
    given.give item = .ok after ↔ Gives given item after := by
  constructor
  · intro h
    cases item with
    | verbose =>
      simp only [give, setVerbose] at h
      split at h
      · cases h
      · rename_i hnew
        cases h
        exact .verbose (Bool.not_eq_true _ ▸ hnew)
    | value option text =>
      cases option with
      | input =>
        simp only [give, set] at h
        split at h
        · cases h
        · rename_i hnew
          cases h
          exact .input (Option.not_isSome_iff_eq_none.1 hnew)
      | output =>
        simp only [give, set] at h
        split at h
        · cases h
        · rename_i hnew
          split at h
          · cases h
          · rename_i hnonempty
            cases h
            exact .output (Option.not_isSome_iff_eq_none.1 hnew) hnonempty
      | indentation =>
        simp only [give, set] at h
        split at h
        · cases h
        · rename_i hnew
          split at h
          · rename_i number hnumber
            cases h
            exact .indentation (Option.not_isSome_iff_eq_none.1 hnew) hnumber
          · cases h
  · intro h
    cases h with
    | input new => simp [give, set, new]
    | output new nonempty => simp [give, set, new, nonempty]
    | indentation new written => simp [give, set, new, written]
    | verbose new => simp [give, setVerbose, new]

/-- Items that can both be given can be given in either order. -/
theorem Gives.comm {given between after : Given} {item other : Item}
    (first : Gives given item between) (second : Gives between other after) :
    ∃ between', Gives given other between' ∧ Gives between' item after := by
  -- each item sets a field of its own: for the same option the second is not new
  cases first with
  | input new =>
    cases second with
    | input again => cases again
    | output new' nonempty => exact ⟨_, .output new' nonempty, .input new⟩
    | indentation new' written => exact ⟨_, .indentation new' written, .input new⟩
    | verbose new' => exact ⟨_, .verbose new', .input new⟩
  | output new nonempty =>
    cases second with
    | input new' => exact ⟨_, .input new', .output new nonempty⟩
    | output again => cases again
    | indentation new' written => exact ⟨_, .indentation new' written, .output new nonempty⟩
    | verbose new' => exact ⟨_, .verbose new', .output new nonempty⟩
  | indentation new written =>
    cases second with
    | input new' => exact ⟨_, .input new', .indentation new written⟩
    | output new' nonempty => exact ⟨_, .output new' nonempty, .indentation new written⟩
    | indentation again => cases again
    | verbose new' => exact ⟨_, .verbose new', .indentation new written⟩
  | verbose new =>
    cases second with
    | input new' => exact ⟨_, .input new', .verbose new⟩
    | output new' nonempty => exact ⟨_, .output new' nonempty, .verbose new⟩
    | indentation new' written => exact ⟨_, .indentation new' written, .verbose new⟩
    | verbose again => cases again

theorem giveAll_cons_eq_ok {given after : Given} {item : Item} {items : List Item} :
    given.giveAll (item :: items) = .ok after ↔
      ∃ between, Gives given item between ∧ between.giveAll items = .ok after := by
  simp only [giveAll_cons, bind_eq_ok, give_eq_ok]

/-- The order of the items does not matter. -/
theorem giveAll_perm {items others : List Item} (h : items.Perm others) {given after : Given}
    (hitems : given.giveAll items = .ok after) : given.giveAll others = .ok after := by
  induction h generalizing given with
  | nil => exact hitems
  | cons item _ ih =>
    obtain ⟨between, hgives, hrest⟩ := giveAll_cons_eq_ok.1 hitems
    exact giveAll_cons_eq_ok.2 ⟨between, hgives, ih hrest⟩
  | swap first second items =>
    obtain ⟨_, hsecond, hrest⟩ := giveAll_cons_eq_ok.1 hitems
    obtain ⟨_, hfirst, hrest⟩ := giveAll_cons_eq_ok.1 hrest
    obtain ⟨between, hfirst', hsecond'⟩ := hsecond.comm hfirst
    exact giveAll_cons_eq_ok.2 ⟨between, hfirst', giveAll_cons_eq_ok.2 ⟨_, hsecond', hrest⟩⟩
  | trans _ _ ih ih' => exact ih' (ih hitems)

/-- Whether an option, or the flag, is among those given. -/
def has (given : Given) : Option ValueOption → Bool
  | some .input => given.input.isSome
  | some .output => given.output.isSome
  | some .indentation => given.indentation.isSome
  | none => given.verbose

/-- An item can be given if its option is not there yet, and then it is. -/
theorem Gives.has {given after : Given} {item : Item} (h : Gives given item after) :
    given.has item.option? = false ∧ after.has item.option? = true ∧
      ∀ option?, given.has option? = true → after.has option? = true := by
  have hkeeps : ∀ option?, given.has option? = true → after.has option? = true := by
    intro option? hoption
    cases option? with
    | none => cases h <;> simp_all [Given.has]
    | some option => cases option <;> cases h <;> simp_all [Given.has]
  cases h with
  | input new => exact ⟨by simp [Given.has, Item.option?, new], rfl, hkeeps⟩
  | output new nonempty => exact ⟨by simp [Given.has, Item.option?, new], rfl, hkeeps⟩
  | indentation new written => exact ⟨by simp [Given.has, Item.option?, new], rfl, hkeeps⟩
  | verbose new => exact ⟨new, rfl, hkeeps⟩

/-- No option can be given twice, and none that is there already. -/
theorem nodup_of_giveAll {given after : Given} {items : List Item}
    (h : given.giveAll items = .ok after) :
    (items.map (·.option?)).Nodup ∧ ∀ item ∈ items, given.has item.option? = false := by
  induction items generalizing given with
  | nil => simp
  | cons item items ih =>
    obtain ⟨between, hgives, hrest⟩ := giveAll_cons_eq_ok.1 h
    obtain ⟨hnew, hgiven, hkeeps⟩ := hgives.has
    obtain ⟨hnodup, hlater⟩ := ih hrest
    constructor
    · refine List.nodup_cons.2 ⟨fun hmem => ?_, hnodup⟩
      obtain ⟨other, hother, heq : other.option? = item.option?⟩ := List.mem_map.1 hmem
      have hfresh := hlater other hother
      rw [heq, hgiven] at hfresh
      cases hfresh
    · intro other hother
      obtain rfl | hother := List.mem_cons.1 hother
      · exact hnew
      · cases hgiven' : given.has other.option? with
        | false => rfl
        | true =>
          have hlost := hlater other hother
          rw [hkeeps _ hgiven'] at hlost
          cases hlost

/-- Items cannot be given with more of them for an option that is there
already. -/
theorem exists_giveAll_insert_error (given : Given) {before again after : List Item}
    (h : ∃ item ∈ again, ∃ other ∈ before ++ after, item.option? = other.option?) :
    ∃ fault, given.giveAll (before ++ (again ++ after)) = .error fault := by
  obtain ⟨item, hitem, other, hother, heq⟩ := h
  cases hgiven : given.giveAll (before ++ (again ++ after)) with
  | error fault => exact ⟨fault, rfl⟩
  | ok given' =>
    obtain ⟨hnodup, -⟩ := nodup_of_giveAll hgiven
    have hperm := (List.perm_append_comm_assoc before again after).map (·.option?)
    rw [hperm.nodup_iff, List.map_append, List.nodup_append] at hnodup
    obtain ⟨-, -, hne⟩ := hnodup
    exact absurd heq (hne _ (List.mem_map_of_mem hitem) _ (List.mem_map_of_mem hother))

end Given

/-! ## 4. Reading groups -/

/-- An argument that is read with some outcome, in front of others. -/
theorem parseFrom_cons {given : Given} {argument : String} (hdashes : argument ≠ "--")
    {x : Except UsageFault Given} (hstep : step given argument = Step.proceed <$> x)
    (rest : List String) :
    parseFrom given (argument :: rest) = x >>= fun given => parseFrom given rest := by
  rw [parseFrom.eq_def]
  simp only [hdashes, if_false, hstep]
  cases x with
  | error fault => rfl
  | ok given => rfl

theorem parseFrom_cons_value {given : Given} {argument : String} (hdashes : argument ≠ "--")
    {x : Except UsageFault Given} {option : ValueOption}
    (hstep : step given argument = (Step.needsValue · option) <$> x) {text : String}
    (alone : text = "-" ∨ text.toList.head? ≠ some '-') (rest : List String) :
    parseFrom given (argument :: text :: rest) =
      (x >>= (·.set option text)) >>= fun given => parseFrom given rest := by
  have hvalue : isSeparateValue text = true := by
    simpa [isSeparateValue] using alone
  rw [parseFrom.eq_def]
  simp only [hdashes, if_false, hstep]
  cases x with
  | error fault => rfl
  | ok given =>
    simp only [map_ok, ok_bind, hvalue, if_true]
    cases given.set option text with
    | error fault => rfl
    | ok given => rfl

/-- The letters behind one dash are read as such if the first is no dash. -/
theorem step_letters (given : Given) {letter : Char} (h : letter ≠ '-') (letters : List Char) :
    step given (String.ofList ('-' :: letter :: letters)) =
      stepShort given (letter :: letters) := by
  rw [step, String.toList_ofList]
  split
  · rename_i heq
    cases heq
    exact absurd rfl h
  · rename_i heq
    cases heq
    rfl
  · rename_i hnone
    exact absurd rfl (hnone letter letters)

theorem ofList_letters_ne (letter : Char) (h : letter ≠ '-') (letters : List Char) :
    String.ofList ('-' :: letter :: letters) ≠ "--" := by
  intro heq
  have hlist := congrArg String.toList heq
  rw [String.toList_ofList] at hlist
  simp [h] at hlist

/-- The letter of an option, with nothing or with a value behind it. -/
theorem stepShort_letter (given : Given) (option : ValueOption) (rest : List Char) :
    stepShort given (option.letter :: rest) =
      if rest = [] then .ok (.needsValue given option)
      else Step.proceed <$> given.set option (attachedValue rest) := by
  cases option <;> rfl

theorem attachedValue_of_ne {letters : List Char} (h : letters.head? ≠ some '=') :
    attachedValue letters = String.ofList letters := by
  unfold attachedValue
  split
  · exact absurd rfl h
  · rfl

section Short

variable {flags : List Item} {letters : List Char} (front : Flags flags letters) (given : Given)
include front

theorem Flags.stepShort (rest : List Char) :
    Cli.stepShort given (letters ++ rest) =
      given.giveAll flags >>= fun given => Cli.stepShort given rest := by
  cases front with
  | none => rfl
  | verbose =>
    rw [Given.giveAll_cons, Given.give]
    cases hgiven : given.setVerbose with
    | error fault => simp [Cli.stepShort, hgiven]
    | ok given => simp [Cli.stepShort, hgiven, Given.giveAll]

theorem Flags.exists_cons (option : ValueOption) (rest : List Char) :
    ∃ letter more, letters ++ option.letter :: rest = letter :: more ∧ letter ≠ '-' := by
  cases front with
  | none => exact ⟨option.letter, rest, rfl, by cases option <;> decide⟩
  | verbose => exact ⟨'v', _, rfl, by decide⟩

/-- What an argument of one dash gives, up to the value of its option. -/
theorem Flags.step (option : ValueOption) (rest : List Char) :
    String.ofList ('-' :: (letters ++ option.letter :: rest)) ≠ "--" ∧
      Cli.step given (String.ofList ('-' :: (letters ++ option.letter :: rest))) =
        given.giveAll flags >>= fun given =>
          if rest = [] then .ok (.needsValue given option)
          else Step.proceed <$> given.set option (attachedValue rest) := by
  obtain ⟨letter, more, hletters, hletter⟩ := front.exists_cons option rest
  constructor
  · rw [hletters]
    exact ofList_letters_ne letter hletter more
  · rw [hletters, step_letters given hletter, ← hletters, front.stepShort]
    exact congrArg (given.giveAll flags >>= ·)
      (funext fun given => stepShort_letter given option rest)

theorem Flags.step_attached (option : ValueOption) {attached : List Char} {text : String}
    (nonempty : attached ≠ []) (hvalue : attachedValue attached = text) :
    Cli.step given (String.ofList ('-' :: (letters ++ option.letter :: attached))) =
      Step.proceed <$> given.giveAll (flags ++ [.value option text]) := by
  obtain ⟨-, hstep⟩ := front.step given option attached
  rw [hstep, Given.giveAll_append]
  simp only [if_neg nonempty, hvalue, Given.giveAll_singleton, Given.give]
  cases given.giveAll flags <;> rfl

theorem parseFrom_short {option : ValueOption} {text : String} {arguments : List String}
    (h : Short letters option text arguments) (rest : List String) :
    parseFrom given (arguments ++ rest) =
      given.giveAll (flags ++ [.value option text]) >>= fun given => parseFrom given rest := by
  cases h with
  | separate alone =>
    -- with no letter behind that of the option, the value is the next argument
    obtain ⟨hdashes, hstep⟩ := front.step given option []
    have hneeds : Cli.step given (String.ofList ('-' :: (letters ++ [option.letter]))) =
        (Step.needsValue · option) <$> given.giveAll flags := by
      rw [hstep]
      cases given.giveAll flags <;> rfl
    simp only [Given.giveAll_append, Given.giveAll_singleton, Given.give]
    exact parseFrom_cons_value hdashes hneeds alone rest
  | equals nonempty =>
    obtain ⟨hdashes, -⟩ := front.step given option ('=' :: text.toList)
    have hvalue : attachedValue ('=' :: text.toList) = text := String.ofList_toList
    exact parseFrom_cons hdashes (front.step_attached given option (by simp) hvalue) rest
  | attached nonempty noEquals =>
    obtain ⟨hdashes, -⟩ := front.step given option text.toList
    have hvalue : attachedValue text.toList = text := by
      rw [attachedValue_of_ne noEquals, String.ofList_toList]
    have hnonempty : text.toList ≠ [] := by simpa using nonempty
    exact parseFrom_cons hdashes (front.step_attached given option hnonempty hvalue) rest

end Short

/-- What stands behind two dashes is a name up to an equals sign. -/
theorem stepLong_name (given : Given) {name : String} (h : '=' ∉ name.toList) :
    stepLong given name.toList = stepName given name ∧
      ∀ value : String,
        stepLong given (name.toList ++ '=' :: value.toList) = stepNameValue given name value := by
  have hname : ∀ c ∈ name.toList, decide (c ≠ '=') = true := by
    intro c hc
    exact decide_eq_true (ne_of_mem_of_not_mem hc h)
  constructor
  · obtain ⟨htake, hdrop⟩ := @takeWhile_append_of_stop _ _ _ [] hname (by simp)
    rw [List.append_nil] at htake hdrop
    simp only [stepLong, htake, hdrop, String.ofList_toList]
  · intro value
    obtain ⟨htake, hdrop⟩ :=
      @takeWhile_append_of_stop _ _ _ ('=' :: value.toList) hname (by simp)
    simp only [stepLong, htake, hdrop, String.ofList_toList]

theorem step_name (given : Given) (body : String) :
    step given ("--" ++ body) = stepLong given body.toList := by
  have htext : ("--" ++ body).toList = '-' :: '-' :: body.toList := by simp
  simp only [step, htext]

theorem dashes_append_ne {body : String} (h : body ≠ "") : "--" ++ body ≠ "--" := by
  simpa using h

theorem ValueOption.longOption?_name (option : ValueOption) :
    longOption? option.name = some option := by
  cases option <;> decide

theorem parseFrom_long {option : ValueOption} {text : String} {arguments : List String}
    (h : Long option text arguments) (given : Given) (rest : List String) :
    parseFrom given (arguments ++ rest) =
      given.set option text >>= fun given => parseFrom given rest := by
  have hname : '=' ∉ option.name.toList := by cases option <;> decide
  obtain ⟨hstepName, hstepValue⟩ := stepLong_name given hname
  cases h with
  | separate alone =>
    have hstep : step given ("--" ++ option.name) = (Step.needsValue · option) <$> .ok given := by
      rw [step_name, hstepName, stepName, option.longOption?_name]
      rfl
    have hdashes : "--" ++ option.name ≠ "--" := dashes_append_ne (by cases option <;> decide)
    exact parseFrom_cons_value hdashes hstep alone rest
  | equals nonempty =>
    have hbody : (option.name ++ "=" ++ text).toList =
        option.name.toList ++ '=' :: text.toList := by
      simp
    have hstep : step given ("--" ++ (option.name ++ "=" ++ text)) =
        Step.proceed <$> given.set option text := by
      rw [step_name, hbody, hstepValue, stepNameValue, option.longOption?_name]
      rfl
    have hdashes : "--" ++ (option.name ++ "=" ++ text) ≠ "--" := dashes_append_ne (by simp)
    have hargument : "--" ++ option.name ++ "=" ++ text = "--" ++ (option.name ++ "=" ++ text) := by
      simp only [String.append_assoc]
    rw [hargument]
    exact parseFrom_cons hdashes hstep rest

/-- A group gives its items before the next argument is read. -/
theorem parseFrom_group {items : List Item} {arguments : List String} (h : Group items arguments)
    (given : Given) (rest : List String) :
    parseFrom given (arguments ++ rest) =
      given.giveAll items >>= fun given => parseFrom given rest := by
  cases h with
  | short front h => exact parseFrom_short front given h rest
  | long h =>
    rw [Given.giveAll_singleton]
    exact parseFrom_long h given rest
  | flagLetter =>
    have hstep : step given "-v" = Step.proceed <$> given.setVerbose := by
      rw [show "-v" = String.ofList ['-', 'v'] from rfl, step_letters given (by decide), stepShort]
      cases given.setVerbose <;> rfl
    rw [Given.giveAll_singleton]
    exact parseFrom_cons (by decide) hstep rest
  | flagName =>
    have hstep : step given "--verbose" = Step.proceed <$> given.setVerbose := by
      obtain ⟨hname, -⟩ := @stepLong_name given "verbose" (by decide)
      rw [show "--verbose" = "--" ++ "verbose" from rfl, step_name, hname, stepName]
      cases given.setVerbose <;> rfl
    rw [Given.giveAll_singleton]
    exact parseFrom_cons (by decide) hstep rest

/-- By induction on the groups: reading them is giving their items. -/
theorem parseFrom_groups {items : List Item} {arguments : List String}
    (h : Groups items arguments) (given : Given) (rest : List String) :
    parseFrom given (arguments ++ rest) =
      given.giveAll items >>= fun given => parseFrom given rest := by
  induction h generalizing given with
  | nil => rfl
  | cons group _ ih =>
    rw [List.append_assoc, parseFrom_group group, Given.giveAll_append, bind_assoc]
    exact congrArg (given.giveAll _ >>= ·) (funext ih)

/-! ## 5. Rows of groups -/

/-- What asks for an indentation can be given, if no indentation is. -/
theorem AsksForIndentation.giveAll {indentation : Nat} {items : List Item}
    (h : AsksForIndentation indentation items) {given : Given} (new : given.indentation = none) :
    ∃ number?, given.giveAll items = .ok { given with indentation := number? } ∧
      number?.getD defaultIndentation = indentation := by
  cases h with
  | leftOut =>
    refine ⟨none, ?_, rfl⟩
    rw [← new]
    rfl
  | given least most written =>
    refine ⟨some indentation, ?_, rfl⟩
    rw [Given.giveAll_singleton, Given.give_eq_ok]
    exact .indentation new (written.indentation least most)

/-- Items that ask for settings can be given, and then the command line asks
for these settings. -/
theorem Settings.AskedBy.giveAll {settings : Settings} {items : List Item}
    (h : settings.AskedBy items) :
    ∃ given, Given.giveAll {} items = .ok given ∧ given.finish = .ok (.convert settings) := by
  obtain ⟨indentation, hindentation, hperm⟩ := h.items
  obtain ⟨number?, hgiven, hnumber⟩ :=
    @AsksForIndentation.giveAll _ _ hindentation
      ⟨some settings.input, some settings.output, none, false⟩ rfl
  have hverbose : Given.giveAll ⟨some settings.input, some settings.output, number?, false⟩
      (if settings.verbose then [.verbose] else []) =
      .ok ⟨some settings.input, some settings.output, number?, settings.verbose⟩ := by
    cases settings.verbose <;> rfl
  refine ⟨⟨some settings.input, some settings.output, number?, settings.verbose⟩,
    Given.giveAll_perm hperm.symm ?_, ?_⟩
  · refine Given.giveAll_cons_eq_ok.2 ⟨_, .input rfl, ?_⟩
    refine Given.giveAll_cons_eq_ok.2 ⟨_, .output rfl h.output, ?_⟩
    rw [Given.giveAll_append, hgiven, ok_bind, hverbose]
  · simp only [Given.finish, hnumber]

/-- What is read from a row of groups with other arguments behind it. -/
theorem parse_groups_append {items : List Item} {arguments : List String}
    (h : Groups items arguments) (rest : List String) :
    Command.parse (arguments ++ rest) =
      Given.giveAll {} items >>= fun given => parseFrom given rest :=
  parseFrom_groups h {} rest

/-- An argument that starts with no dash is none that can be read. -/
theorem parseFrom_positional {argument : String} (h : argument.toList.head? ≠ some '-')
    (given : Given) (rest : List String) :
    parseFrom given (argument :: rest) = .error (.unexpectedArgument argument) := by
  have hdashes : argument ≠ "--" := by
    rintro rfl
    exact h rfl
  have hstep : step given argument = .error (.unexpectedArgument argument) := by
    unfold step
    split
    · rename_i heq
      rw [heq] at h
      exact absurd rfl h
    · rename_i heq
      rw [heq] at h
      exact absurd rfl h
    · rfl
  rw [parseFrom.eq_def]
  simp only [hdashes, if_false, hstep]

/-- How a command line is spelled does not matter.

Settings are read from every row of groups that asks for them, whether or
not two dashes follow. With one more group anywhere in the row, for an
option that is there already, it is no command line, and neither is it
with an argument between two groups that starts with no dash. -/
theorem parse_groups {settings : Settings} {items : List Item} (asked : settings.AskedBy items)
    {ending : List String} (hending : ending = [] ∨ ending = ["--"]) :
    (∀ {arguments : List String}, Groups items arguments →
      Command.parse (arguments ++ ending) = .ok (.convert settings)) ∧
    ∀ {before after : List Item} {front back : List String}, Groups before front →
      Groups after back → before ++ after = items →
        (∀ {again : List Item} {group : List String}, Group again group →
          (∃ item ∈ again, ∃ other ∈ items, item.option? = other.option?) →
            ∃ fault, Command.parse (front ++ group ++ back ++ ending) = .error fault) ∧
        ∀ positional : String, positional.toList.head? ≠ some '-' →
          ∃ fault, Command.parse (front ++ positional :: back ++ ending) = .error fault := by
  constructor
  · intro arguments hgroups
    obtain ⟨given, hgiven, hfinish⟩ := asked.giveAll
    have hend : parseFrom given ending = given.finish := by
      obtain rfl | rfl := hending <;> rfl
    rw [parse_groups_append hgroups, hgiven, ok_bind, hend, hfinish]
  · intro before after front back hfront hback hitems
    subst hitems
    constructor
    · intro again group hgroup hagain
      obtain ⟨fault, hfault⟩ := Given.exists_giveAll_insert_error {} hagain
      have hgroups : Groups (before ++ (again ++ after)) (front ++ (group ++ back)) :=
        hfront.append (.cons hgroup hback)
      refine ⟨fault, ?_⟩
      rw [List.append_assoc front, parse_groups_append hgroups, hfault]
      rfl
    · intro positional hpositional
      rw [List.append_assoc, parse_groups_append hfront, List.cons_append]
      simp only [parseFrom_positional hpositional]
      cases Given.giveAll {} before with
      | error fault => exact ⟨fault, rfl⟩
      | ok given => exact ⟨.unexpectedArgument positional, rfl⟩

/-- Settings in an order and spellings of their own, the same with a second
indentation, and with an argument too many. -/
theorem parse_groups_scrambled :
    Command.parse ["--output=out.py", "-vn+007", "-i", "-", "--"] =
        .ok (.convert ⟨"-", "out.py", 7, true⟩) ∧
      (∃ fault, Command.parse
        ["--output=out.py", "--indentation", "2", "-vn+007", "-i", "-", "--"] = .error fault) ∧
      ∃ fault, Command.parse
        ["--output=out.py", "in.json", "-vn+007", "-i", "-", "--"] = .error fault := by
  have hnumber : NumberText 7 "+007" := by
    have htext : "+007" = "+" ++ String.ofList (List.replicate 2 '0') ++ toString 7 := by decide
    rw [htext]
    exact .plus 2
  have asked : Settings.AskedBy ⟨"-", "out.py", 7, true⟩
      [.value .output "out.py", .verbose, .value .indentation "+007", .value .input "-"] :=
    ⟨by decide, _, .given (by decide) (by decide) hnumber, by decide⟩
  have houtput : Long .output "out.py" ["--output=out.py"] := by
    have htext : "--output=out.py" = "--" ++ ValueOption.output.name ++ "=" ++ "out.py" := by
      decide
    rw [htext]
    exact .equals (by decide)
  have hindentation : Short ['v'] .indentation "+007" ["-vn+007"] := by
    have htext : "-vn+007" = String.ofList ('-' :: (['v'] ++ 'n' :: "+007".toList)) := by decide
    rw [htext]
    exact .attached (by decide) (by decide)
  have hinput : Short [] .input "-" ["-i", "-"] := by
    have htext : "-i" = String.ofList ('-' :: ([] ++ ['i'])) := by decide
    rw [htext]
    exact .separate (by decide)
  have hrepeated : Long .indentation "2" ["--indentation", "2"] := by
    have htext : "--indentation" = "--" ++ ValueOption.indentation.name := by decide
    rw [htext]
    exact .separate (by decide)
  have hfront : Groups [.value .output "out.py"] ["--output=out.py"] := .cons (.long houtput) .nil
  have hback : Groups [.verbose, .value .indentation "+007", .value .input "-"]
      ["-vn+007", "-i", "-"] :=
    .cons (.short .verbose hindentation) (.cons (.short .none hinput) .nil)
  obtain ⟨hread, hinserted⟩ := parse_groups asked (.inr rfl)
  obtain ⟨hagain, hpositional⟩ := hinserted hfront hback rfl
  have hparsed := hread (hfront.append hback)
  have hfault := hagain (.long hrepeated) (by decide)
  have hfault' := hpositional "in.json" (by decide)
  exact ⟨hparsed, hfault, hfault'⟩

end Cli

end DatamodelTypes
