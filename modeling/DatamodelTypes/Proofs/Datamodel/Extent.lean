/-
DatamodelTypes.Proofs.Datamodel.Extent — a document is accepted whole or
not at all.

An accepted document is an object, and an object ends with its brace: no
text behind the brace can belong to it, and no text without the brace is
one. So wherever a document is cut, and whatever follows it, it is either
refused or, if the difference is nothing but blanks, read as before. The
main statement is `parse_whole`.

This is a property of objects and not of JSON: a number followed by more
digits, or cut in the middle, is another number.
-/
import DatamodelTypes.Proofs.Datamodel.Acceptance
import DatamodelTypes.Proofs.Json.Acceptance

namespace DatamodelTypes

namespace Json

/-! ## 1. The end of a container -/

/-- A container ends with its bracket, which is no blank. -/
theorem ContainerSpelling.getLast {Inner : Json → List Char → Prop} {value : Json}
    {cs : List Char} (h : ContainerSpelling Inner value cs) :
    ∃ inside close, cs = inside ++ [close] ∧ isBlank close = false := by
  cases h with
  | @emptyArray cs => exact ⟨'[' :: cs, ']', rfl, rfl⟩
  | @array _ cs => exact ⟨'[' :: cs, ']', rfl, rfl⟩
  | @emptyObject cs => exact ⟨'{' :: cs, '}', rfl, rfl⟩
  | @object _ cs => exact ⟨'{' :: cs, '}', rfl, rfl⟩

/-! ## 2. Texts of objects -/

/-- A container is over behind its bracket: what follows is not looked at
but for the end of the text. -/
theorem readText_container {value found : Json} {before cs after : List Char}
    (hbefore : Blank before) (h : ContainerSpelling (ValueSpelling (maxDepth - 1)) value cs) :
    readText (before ++ (cs ++ after)) = .ok found ↔ Blank after ∧ value = found := by
  have hread : readValue maxDepth (before ++ (cs ++ after)) = .ok (value, after) :=
    h.readValue (finds_readValue (maxDepth - 1)) hbefore after
  simp [readText, hread, bind_eq_ok, expectEnd_eq_ok]

/-- The parts of a text that writes an object. -/
theorem exists_container_of_read {text : String} {members : List (String × Json)}
    (h : read text = .ok (.object members)) :
    ∃ before cs after, Blank before ∧ Blank after ∧
      ContainerSpelling (ValueSpelling (maxDepth - 1)) (.object members) cs ∧
      text.toList = before ++ (cs ++ after) := by
  have hspells := read_eq_ok.1 h
  unfold Spells at hspells
  generalize htext : text.toList = chars at hspells
  cases hspells with
  | @intro before cs after hbefore spelled hafter =>
    obtain ⟨depth, hdepth, hcontainer⟩ := spelled.container trivial
    obtain rfl : depth = maxDepth - 1 := by omega
    exact ⟨before, cs, after, hbefore, hafter, hcontainer, by simp⟩

theorem read_append {text : String} {members : List (String × Json)} {found : Json}
    (h : read text = .ok (.object members)) (more : String) :
    read (text ++ more) = .ok found ↔ Blank more.toList ∧ .object members = found := by
  obtain ⟨before, cs, after, hbefore, hafter, spelled, htext⟩ := exists_container_of_read h
  have hchars : (text ++ more).toList = before ++ (cs ++ (after ++ more.toList)) := by
    simp [htext]
  rw [read, mapError_eq_ok, hchars, readText_container hbefore spelled, blank_append]
  simp only [hafter, true_and]

/-- Cutting blanks off a text leaves what does not end in a blank whole. -/
theorem exists_after_of_append_eq {before cs after start rest : List Char}
    (h : before ++ (cs ++ after) = start ++ rest) (hrest : Blank rest)
    (hcs : ∃ inside close, cs = inside ++ [close] ∧ isBlank close = false) :
    ∃ kept, start = before ++ (cs ++ kept) ∧ after = kept ++ rest := by
  rw [← List.append_assoc] at h
  obtain ⟨kept, hstart, hafter⟩ | ⟨cut, hbrace, hblank⟩ := List.append_eq_append_iff.1 h
  · exact ⟨kept, by rw [hstart, List.append_assoc], hafter⟩
  · -- the cut goes through `cs`, so its last character is cut off and a blank
    obtain ⟨inside, close, rfl, hclose⟩ := hcs
    rcases List.eq_nil_or_concat cut with rfl | ⟨cut, last, rfl⟩
    · exact ⟨[], by simpa using hbrace.symm, by simpa using hblank.symm⟩
    · rw [List.concat_eq_append] at hbrace hblank
      rw [← List.append_assoc, ← List.append_assoc] at hbrace
      obtain ⟨-, hlast⟩ := List.append_inj' hbrace rfl
      obtain rfl : close = last := by simpa using hlast
      rw [hrest close (by rw [hblank]; simp)] at hclose
      cases hclose

/-- Blanks can be cut off. -/
theorem read_of_append_blank {start rest : String} {members : List (String × Json)}
    (h : read (start ++ rest) = .ok (.object members)) (hrest : Blank rest.toList) :
    read start = .ok (.object members) := by
  obtain ⟨before, cs, after, hbefore, hafter, spelled, htext⟩ := exists_container_of_read h
  rw [String.toList_append] at htext
  obtain ⟨kept, hstart, rfl⟩ := exists_after_of_append_eq htext.symm hrest spelled.getLast
  rw [read, mapError_eq_ok, hstart, readText_container hbefore spelled]
  exact ⟨(blank_append.1 hafter).1, rfl⟩

end Json

namespace Datamodel

/-! ## 3. Documents -/

theorem HeldBy.exists_object {document : Json} {datamodel : Datamodel}
    (h : HeldBy document datamodel) : ∃ members, document = .object members := by
  cases h with
  | full => exact ⟨_, rfl⟩
  | bare => exact ⟨_, rfl⟩

/-- An accepted text writes an object, and one that the datamodel is held by. -/
theorem exists_object_of_parse {text : String} {datamodel : Datamodel}
    (h : parse text = .ok datamodel) :
    ∃ members, Json.read text = .ok (.object members) ∧
      ofDocument (.object members) = .ok datamodel := by
  obtain ⟨document, hread, hdocument⟩ := parse_eq_ok.1 h
  obtain ⟨members, rfl⟩ := (ofDocument_eq_ok.1 hdocument).exists_object
  exact ⟨members, hread, hdocument⟩

/-- A text that is not accepted is refused as one that cannot be parsed. -/
theorem exists_parse_error {text : String} (h : ∀ datamodel, parse text ≠ .ok datamodel) :
    ∃ detail, parse text = .error (.parse detail) := by
  unfold parse at h ⊢
  cases hread : read text with
  | ok datamodel => exact absurd (by rw [hread]; rfl) (h datamodel)
  | error fault => exact ⟨fault.message, rfl⟩

theorem parse_append {text : String} {datamodel found : Datamodel}
    (h : parse text = .ok datamodel) (more : String) :
    parse (text ++ more) = .ok found ↔ Json.Blank more.toList ∧ found = datamodel := by
  obtain ⟨members, hread, hmembers⟩ := exists_object_of_parse h
  rw [parse_eq_ok]
  constructor
  · rintro ⟨document, hdocument, hfound⟩
    obtain ⟨hblank, rfl⟩ := (Json.read_append hread more).1 hdocument
    rw [hmembers] at hfound
    cases hfound
    exact ⟨hblank, rfl⟩
  · rintro ⟨hblank, rfl⟩
    exact ⟨.object members, (Json.read_append hread more).2 ⟨hblank, rfl⟩, hmembers⟩

theorem parse_start {start rest : String} {datamodel found : Datamodel}
    (h : parse (start ++ rest) = .ok datamodel) :
    parse start = .ok found ↔ Json.Blank rest.toList ∧ found = datamodel := by
  constructor
  · intro hstart
    obtain ⟨hblank, rfl⟩ := (parse_append hstart rest).1 h
    exact ⟨hblank, rfl⟩
  · rintro ⟨hblank, rfl⟩
    obtain ⟨members, hread, hmembers⟩ := exists_object_of_parse h
    exact parse_eq_ok.2 ⟨_, Json.read_of_append_blank hread hblank, hmembers⟩

/-- A document that is accepted is accepted whole. With more text behind it
or with text cut off its end it is read as the same datamodel if that text
is blank, and refused as no document if it is not. -/
theorem parse_whole {text : String} {datamodel : Datamodel} (h : parse text = .ok datamodel) :
    (∀ more found, parse (text ++ more) = .ok found ↔
        Json.Blank more.toList ∧ found = datamodel) ∧
      (∀ start rest found, text = start ++ rest →
        (parse start = .ok found ↔ Json.Blank rest.toList ∧ found = datamodel)) ∧
      ∀ other rest, other = text ++ rest ∨ text = other ++ rest → ¬Json.Blank rest.toList →
        ∃ detail, parse other = .error (.parse detail) := by
  refine ⟨fun more found => parse_append h more, ?_, ?_⟩
  · rintro start rest found rfl
    exact parse_start h
  · intro other rest hother hrest
    apply exists_parse_error
    intro found hfound
    rcases hother with rfl | rfl
    · exact hrest ((parse_append h rest).1 hfound).1
    · exact hrest ((parse_start h).1 hfound).1

/-- A document that declares the enum `Shade`. -/
def shadeText : String :=
  "\x7b\"enums\": [\x7b\"name\": \"Shade\"\x7d]\x7d"

/-- With a line end behind it the document is the same; with a second brace,
or without its last one, it is none. -/
theorem parse_whole_shade :
    parse shadeText = .ok ⟨[⟨"Shade", []⟩], [], []⟩ ∧
      parse (shadeText ++ "\n") = .ok ⟨[⟨"Shade", []⟩], [], []⟩ ∧
      (∃ detail, parse (shadeText ++ "\x7d") = .error (.parse detail)) ∧
      ∃ detail, parse "\x7b\"enums\": [\x7b\"name\": \"Shade\"\x7d]" =
        .error (.parse detail) := by
  have h : parse shadeText = .ok ⟨[⟨"Shade", []⟩], [], []⟩ := by decide +kernel
  obtain ⟨hmore, -, hother⟩ := parse_whole h
  have hend : Json.Blank "\n".toList := by simp [Json.Blank, Json.isBlank]
  have hbrace : ¬Json.Blank "\x7d".toList := by simp [Json.Blank, Json.isBlank]
  exact ⟨h, (hmore "\n" _).2 ⟨hend, rfl⟩, hother _ "\x7d" (.inl rfl) hbrace,
    hother _ "\x7d" (.inr rfl) hbrace⟩

end Datamodel

end DatamodelTypes
