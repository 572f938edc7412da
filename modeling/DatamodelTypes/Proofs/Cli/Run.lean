/-
DatamodelTypes.Proofs.Cli.Run — a run of the command line is all or
nothing.

A run that converts has written the page of its input, and nothing else,
to the place that its output path leads to. A run that fails, or that only
prints a text, leaves every file as it was. The main statement is
`run_all_or_nothing`.

`Ends` is the account of a conversion that the program is compared with:
one rule for each stage that can be the first to fail, and one for the
run that gets through them. There is a rule for every conversion
(`exists_ends`), and the conversion does what the rule says
(`Ends.convertFile`), so no two rules disagree.

The log is set up in front of the first stage. Where its setting has a part
that would split a character (`SplitsCharacter`), no stage is reached, and
the exit code is none of those of a run.
-/
import DatamodelTypes.Cli.FileSystem.Standard
import DatamodelTypes.Cli.Run
import DatamodelTypes.Proofs.Cli.Setting

namespace DatamodelTypes.Cli

/-! ## 1. Computations that carry files along -/

section Files

variable {α β : Type} (files : FileSystem)

theorem run_bind_files (x : StateM FileSystem α) (f : α → StateM FileSystem β) :
    (x >>= f).run files = (f (x.run files).1).run (x.run files).2 :=
  rfl

theorem run_pure_files (a : α) : (pure a : StateM FileSystem α).run files = (a, files) :=
  rfl

theorem readStdin_run : fileSystemAccess.readStdin.run files = (files.input, files) :=
  rfl

theorem readFile_run (path : String) :
    (fileSystemAccess.readFile path).run files = (files.readFile path, files) :=
  rfl

theorem writeFile_run (path : String) (content : ByteArray) :
    (fileSystemAccess.writeFile path content).run files =
      match files.writeFile path content with
      | .ok after => (.ok (), after)
      | .error fault => (.error fault, files) := by
  simp only [fileSystemAccess]
  rw [run_bind_files]
  -- the files that are read back from the state are those that went in
  change StateT.run (match files.writeFile path content with | .ok _ => _ | .error _ => _) files = _
  cases files.writeFile path content with
  | ok after => rfl
  | error fault => rfl

end Files

/-! ## 2. Bytes as text -/

theorem textOfBytes_toUTF8 (text : String) : textOfBytes text.toUTF8 = .ok text := by
  unfold textOfBytes String.fromUTF8?
  rw [String.toUTF8_eq_toByteArray, dif_pos text.isValidUTF8]
  rfl

/-- Bytes are a text exactly when they are its encoding. -/
theorem textOfBytes_eq_ok {bytes : ByteArray} {text : String} :
    textOfBytes bytes = .ok text ↔ bytes = text.toUTF8 := by
  constructor
  · intro h
    unfold textOfBytes at h
    split at h
    · rename_i found hfound
      unfold String.fromUTF8? at hfound
      split at hfound
      · cases hfound
        cases h
        rfl
      · cases hfound
    · cases h
  · rintro rfl
    exact textOfBytes_toUTF8 text

/-- Bytes that encode no text are refused as such. -/
theorem textOfBytes_eq_notText {bytes : ByteArray} (h : ∀ text : String, bytes ≠ text.toUTF8) :
    textOfBytes bytes = .error .notText := by
  cases hbytes : textOfBytes bytes with
  | ok text => exact absurd (textOfBytes_eq_ok.1 hbytes) (h text)
  | error failure =>
    unfold textOfBytes at hbytes
    split at hbytes
    · cases hbytes
    · exact hbytes.symm

/-! ## 3. Stages -/

/-- The bytes that an input stands for: those of standard input for a dash,
those of the file for anything else. -/
inductive Supplies (files : FileSystem) : String → ByteArray → Prop
  | standardInput : Supplies files "-" files.input
  | file {path : String} {bytes : ByteArray} (notDash : path ≠ "-")
      (found : files.readFile path = .ok bytes) : Supplies files path bytes

/-- How a conversion ends: with the first failure among reading, converting
and writing, the files being as before, or without one, the files being as
writing left them. -/
inductive Ends (files : FileSystem) (settings : Settings) : Option RunFailure → FileSystem → Prop
  | unread {fault : FileFault} (notDash : settings.input ≠ "-")
      (failed : files.readFile settings.input = .error fault) :
      Ends files settings (some (.file fault)) files
  | notText {bytes : ByteArray} (supplied : Supplies files settings.input bytes)
      (invalid : ∀ text : String, bytes ≠ text.toUTF8) :
      Ends files settings (some .notText) files
  | unconverted {text : String} {failure : Failure}
      (supplied : Supplies files settings.input text.toUTF8)
      (failed : convertText ⟨settings.indentation⟩ text = .error failure) :
      Ends files settings (some (.conversion failure)) files
  | unwritten {text page : String} {fault : FileFault}
      (supplied : Supplies files settings.input text.toUTF8)
      (converted : convertText ⟨settings.indentation⟩ text = .ok page)
      (failed : files.writeFile settings.output page.toUTF8 = .error fault) :
      Ends files settings (some (.file fault)) files
  | written {text page : String} {after : FileSystem}
      (supplied : Supplies files settings.input text.toUTF8)
      (converted : convertText ⟨settings.indentation⟩ text = .ok page)
      (done : files.writeFile settings.output page.toUTF8 = .ok after) :
      Ends files settings none after

theorem Supplies.readInput {files : FileSystem} {input : String} {bytes : ByteArray}
    (h : Supplies files input bytes) :
    (readInput fileSystemAccess input).run files = (textOfBytes bytes, files) := by
  unfold Cli.readInput
  cases h with
  | standardInput => rw [if_pos rfl, run_bind_files, readStdin_run, run_pure_files]
  | file notDash found =>
    rw [if_neg notDash, run_bind_files, readFile_run, found, run_pure_files]

theorem readInput_of_fault {files : FileSystem} {input : String} {fault : FileFault}
    (notDash : input ≠ "-") (failed : files.readFile input = .error fault) :
    (readInput fileSystemAccess input).run files = (.error (.file fault), files) := by
  unfold readInput
  rw [if_neg notDash, run_bind_files, readFile_run, failed, run_pure_files]

/-- The page that a run renders is the one that the text is converted to. -/
theorem convertText_eq (options : Options) (text : String) :
    convertText options text = (fun p => p.2.render options) <$> pageOfText text := by
  unfold convertText convertWith pageOfText
  cases Datamodel.parse text with
  | error failure => rfl
  | ok datamodel =>
    simp only [ok_bind, Datamodel.convert]
    cases Page.ofDatamodel datamodel with
    | error failure => rfl
    | ok page => rfl

/-- A page is not empty: its banner stands on it. -/
theorem toUTF8_ne_empty {options : Options} {text page : String}
    (h : convertText options text = .ok page) : page.toUTF8 ≠ ByteArray.empty := by
  rw [convertText_eq, map_eq_ok] at h
  obtain ⟨found, -, rfl⟩ := h
  intro hempty
  have hrender : found.2.render options = "" := String.toByteArray_inj.1 hempty
  have hbanner : Page.banner = "" := by
    simp only [Page.render, String.append_assoc, String.append_eq_empty_iff] at hrender
    exact hrender.1
  revert hbanner
  decide

theorem pageOfText_eq_error {options : Options} {text : String} {failure : Failure}
    (h : convertText options text = .error failure) : pageOfText text = .error failure := by
  rw [convertText_eq] at h
  cases hpage : pageOfText text with
  | ok found =>
    rw [hpage, map_ok] at h
    cases h
  | error found =>
    rw [hpage, map_error] at h
    cases h
    rfl

/-- A conversion does what the rule for it says. -/
theorem Ends.convertFile {files after : FileSystem} {settings : Settings}
    {failure : Option RunFailure} (h : Ends files settings failure after) :
    ∃ events, (convertFile fileSystemAccess settings).run files = (⟨events, failure⟩, after) := by
  unfold Cli.convertFile
  rw [run_bind_files]
  cases h with
  | unread notDash failed =>
    rw [readInput_of_fault notDash failed]
    exact ⟨_, rfl⟩
  | notText supplied invalid =>
    rw [supplied.readInput, textOfBytes_eq_notText invalid]
    exact ⟨_, rfl⟩
  | unconverted supplied failed =>
    rw [supplied.readInput, textOfBytes_toUTF8]
    dsimp only
    rw [pageOfText_eq_error failed]
    exact ⟨_, rfl⟩
  | unwritten supplied converted failed =>
    rw [supplied.readInput, textOfBytes_toUTF8]
    rw [convertText_eq, map_eq_ok] at converted
    obtain ⟨⟨event, found⟩, hpage, rfl⟩ := converted
    dsimp only at failed ⊢
    rw [hpage]
    dsimp only
    rw [run_bind_files, writeFile_run, failed]
    exact ⟨_, rfl⟩
  | written supplied converted done =>
    rw [supplied.readInput, textOfBytes_toUTF8]
    rw [convertText_eq, map_eq_ok] at converted
    obtain ⟨⟨event, found⟩, hpage, rfl⟩ := converted
    dsimp only at done ⊢
    rw [hpage]
    dsimp only
    rw [run_bind_files, writeFile_run, done]
    exact ⟨_, rfl⟩

/-- There is a rule for every conversion. -/
theorem exists_ends (files : FileSystem) (settings : Settings) :
    ∃ failure after, Ends files settings failure after := by
  have hsupplied : (∃ bytes, Supplies files settings.input bytes) ∨
      ∃ fault, settings.input ≠ "-" ∧ files.readFile settings.input = .error fault := by
    by_cases hdash : settings.input = "-"
    · exact .inl ⟨files.input, hdash ▸ .standardInput⟩
    · cases hread : files.readFile settings.input with
      | ok bytes => exact .inl ⟨bytes, .file hdash hread⟩
      | error fault => exact .inr ⟨fault, hdash, rfl⟩
  obtain ⟨bytes, hbytes⟩ | ⟨fault, hdash, hread⟩ := hsupplied
  · by_cases htext : ∃ text : String, bytes = text.toUTF8
    · obtain ⟨text, rfl⟩ := htext
      cases hpage : convertText ⟨settings.indentation⟩ text with
      | error failure => exact ⟨_, _, .unconverted hbytes hpage⟩
      | ok page =>
        cases hwrite : files.writeFile settings.output page.toUTF8 with
        | error fault => exact ⟨_, _, .unwritten hbytes hpage hwrite⟩
        | ok after => exact ⟨_, _, .written hbytes hpage hwrite⟩
    · exact ⟨_, _, .notText hbytes (not_exists.1 htext)⟩
  · exact ⟨_, _, .unread hdash hread⟩

/-- Only a conversion that ends well changes any file. -/
theorem Ends.after_eq {files after : FileSystem} {settings : Settings} {failure : RunFailure}
    (h : Ends files settings (some failure) after) : after = files := by
  cases h with
  | unread => rfl
  | notText => rfl
  | unconverted => rfl
  | unwritten => rfl

/-! ## 4. Writing -/

/-- Files that differ from others at one place at most, the one that a path
leads to. A file there has the content that was written. A device there is
still one, and then no file differs. -/
inductive Overwritten (before : FileSystem) (path : String) (content : ByteArray)
    (after : FileSystem) : Prop
  | file {place : Place} (located : before.locate path = .ok place)
      (written : after.get? place = some (.file content))
      (others : ∀ other, other ≠ place → after.get? other = before.get? other)
  | device {place : Place} {device : Device} (located : before.locate path = .ok place)
      (there : before.get? place = some (.device device))
      (others : ∀ other, after.get? other = before.get? other)

theorem Overwritten.of_put {files : FileSystem} {path : String} {content : ByteArray}
    {place : Place} (located : files.locate path = .ok place)
    (hplace : (files.get? place).any (·.isDirectory) = false) :
    Overwritten files path content (files.put place (.file content)) := by
  have hroot : place ≠ [] := by
    rintro rfl
    cases hplace
  refine .file located ?_ ?_
  · rw [FileSystem.get?_put files place place _ hroot, if_pos rfl]
  · intro other hother
    rw [FileSystem.get?_put files place other _ hroot, if_neg hother]

/-- What devices do with content shows in no file. -/
theorem get?_writeDevice {files after : FileSystem} {content : ByteArray} {device : Device}
    (h : files.writeDevice content device = .ok after) (place : Place) :
    after.get? place = files.get? place := by
  unfold FileSystem.writeDevice at h
  split at h
  · split at h
    · cases h
      rfl
    · cases h
  · cases h
  · cases h
    rfl
  · cases h
    rfl

/-- Writing changes no other place than the one that is written to. -/
theorem overwritten_of_writeFile {files after : FileSystem} {path : String} {content : ByteArray}
    (h : files.writeFile path content = .ok after) : Overwritten files path content after := by
  unfold FileSystem.writeFile at h
  obtain ⟨place, located, h⟩ := bind_eq_ok.1 h
  split at h
  · cases h
  · rename_i hdirectory
    have hplace : (files.get? place).any (·.isDirectory) = false := by
      simp only [Bool.or_eq_true, not_or, Bool.not_eq_true] at hdirectory
      exact hdirectory.2
    split at h
    · cases h
    · split at h
      · rename_i device there
        exact .device located there (get?_writeDevice h)
      · cases h
        exact .of_put located hplace
      · split at h
        · cases h
        · cases h
          exact .of_put located hplace

/-! ## 5. Runs -/

/-- What a command line leads to, and the files afterwards. -/
inductive Leads (arguments : List String) (files : FileSystem) (logSetting : Option String) :
    Outcome → FileSystem → Prop
  | refused {fault : UsageFault} (parsed : Command.parse arguments = .error fault) :
      Leads arguments files logSetting (.refused fault) files
  | help (parsed : Command.parse arguments = .ok .help) :
      Leads arguments files logSetting (.printed helpText) files
  | version (parsed : Command.parse arguments = .ok .version) :
      Leads arguments files logSetting (.printed versionText) files
  | aborted {settings : Settings} {fault : Text.SliceFault}
      (parsed : Command.parse arguments = .ok (.convert settings))
      (splits : SplitsCharacter logSetting) :
      Leads arguments files logSetting (.aborted fault) files
  | ran {settings : Settings} {shown : List Event} {failure : Option RunFailure}
      {after : FileSystem} (parsed : Command.parse arguments = .ok (.convert settings))
      (ends : Ends files settings failure after) :
      Leads arguments files logSetting (.ran shown failure) after

/-- With the log set up, a run is its conversion. Of the events the filter in
force lets some be seen. -/
theorem run_convert {arguments : List String} {files : FileSystem} {logSetting : Option String}
    {settings : Settings} {filter : Filter}
    (parsed : Command.parse arguments = .ok (.convert settings))
    (hfilter : Filter.inForce logSetting settings.verbose = .ok filter) :
    run arguments files logSetting =
      let (progress, after) := (convertFile fileSystemAccess settings).run files
      (.ran (progress.events.filter filter.shows) progress.failure, after) := by
  unfold run runWith
  rw [parsed]
  simp only [perform, hfilter]
  rw [run_bind_files]
  rfl

theorem Ends.run {arguments : List String} {files after : FileSystem} {logSetting : Option String}
    {settings : Settings} {failure : Option RunFailure} (h : Ends files settings failure after)
    (parsed : Command.parse arguments = .ok (.convert settings))
    (hlog : ¬SplitsCharacter logSetting) :
    ∃ shown, Cli.run arguments files logSetting = (.ran shown failure, after) := by
  obtain ⟨filter, hfilter, -⟩ := exists_inForce hlog settings.verbose
  obtain ⟨events, hconvert⟩ := h.convertFile
  rw [run_convert parsed hfilter, hconvert]
  exact ⟨_, rfl⟩

theorem leads_run (arguments : List String) (files : FileSystem) (logSetting : Option String) :
    Leads arguments files logSetting (run arguments files logSetting).1
      (run arguments files logSetting).2 := by
  cases parsed : Command.parse arguments with
  | error fault =>
    have hrun : run arguments files logSetting = (.refused fault, files) := by
      unfold run runWith
      rw [parsed]
      rfl
    rw [hrun]
    exact .refused parsed
  | ok command =>
    have hrun : run arguments files logSetting =
        (perform fileSystemAccess logSetting command).run files := by
      unfold run runWith
      rw [parsed]
    cases command with
    | help =>
      rw [hrun]
      exact .help parsed
    | version =>
      rw [hrun]
      exact .version parsed
    | convert settings =>
      cases hforce : Filter.inForce logSetting settings.verbose with
      | error fault =>
        have haborted : run arguments files logSetting = (.aborted fault, files) := by
          rw [hrun]
          simp only [perform, hforce]
          rfl
        rw [haborted]
        exact .aborted parsed (splitsCharacter_of_inForce hforce)
      | ok filter =>
        obtain ⟨failure, after, ends⟩ := exists_ends files settings
        obtain ⟨events, hconvert⟩ := ends.convertFile
        rw [run_convert parsed hforce, hconvert]
        exact .ran parsed ends

section Leads

variable {arguments : List String} {files after : FileSystem} {logSetting : Option String}
  {outcome : Outcome}

theorem Leads.exitCode (h : Leads arguments files logSetting outcome after)
    (hlog : ¬SplitsCharacter logSetting) : outcome.exitCode ∈ [0, 1, 2] := by
  cases h with
  | refused => simp [Outcome.exitCode]
  | help => simp [Outcome.exitCode]
  | version => simp [Outcome.exitCode]
  | aborted _ splits => exact absurd splits hlog
  | @ran _ _ failure => cases failure <;> simp [Outcome.exitCode]

theorem Leads.after_eq (h : Leads arguments files logSetting outcome after)
    (hfailed : outcome.exitCode ≠ 0 ∨ ∃ text, outcome = .printed text) : after = files := by
  cases h with
  | refused => rfl
  | help => rfl
  | version => rfl
  | aborted => rfl
  | @ran _ _ failure _ _ ends =>
    cases failure with
    | some failure => exact ends.after_eq
    | none =>
      obtain hcode | ⟨text, htext⟩ := hfailed
      · exact absurd rfl hcode
      · cases htext

theorem Leads.written (h : Leads arguments files logSetting outcome after)
    (hcode : outcome.exitCode = 0) (hprinted : ¬∃ text, outcome = .printed text) :
    ∃ settings text page, Command.parse arguments = .ok (.convert settings) ∧
      Supplies files settings.input text.toUTF8 ∧
      convertText ⟨settings.indentation⟩ text = .ok page ∧
      Overwritten files settings.output page.toUTF8 after := by
  cases h with
  | refused => cases hcode
  | help => exact absurd ⟨_, rfl⟩ hprinted
  | version => exact absurd ⟨_, rfl⟩ hprinted
  | aborted => cases hcode
  | @ran settings _ failure _ parsed ends =>
    cases ends with
    | @written text page _ supplied converted done =>
      exact ⟨settings, text, page, parsed, supplied, converted, overwritten_of_writeFile done⟩
    | unread => cases hcode
    | notText => cases hcode
    | unconverted => cases hcode
    | unwritten => cases hcode

end Leads

/-- A run is all or nothing.

If the exit code is not 0 or a text was printed, the files are as before.
Otherwise the command line asks for a conversion, whose input was read as a
text, and the files differ at the output path at most. There they hold the
page of that text, or the path leads to a device, which has done with the
page what it is there for. The exit code is 0, 1 or 2; it is 0 if the stages
of a conversion can all be gone through, and otherwise the first stage that
failed is told. Exit codes and errors are those of the stages, so they are
spoken of where the log can be set up. -/
theorem run_all_or_nothing (arguments : List String) (files : FileSystem)
    (logSetting : Option String) :
    let outcome := (run arguments files logSetting).1
    let after := (run arguments files logSetting).2
    (¬SplitsCharacter logSetting → outcome.exitCode ∈ [0, 1, 2]) ∧
      (outcome.exitCode ≠ 0 ∨ (∃ text, outcome = .printed text) → after = files) ∧
      (outcome.exitCode = 0 → (¬∃ text, outcome = .printed text) →
        ∃ settings text page, Command.parse arguments = .ok (.convert settings) ∧
          Supplies files settings.input text.toUTF8 ∧
          convertText ⟨settings.indentation⟩ text = .ok page ∧
          Overwritten files settings.output page.toUTF8 after) ∧
      ∀ settings, Command.parse arguments = .ok (.convert settings) →
        ¬SplitsCharacter logSetting →
        (∀ text page written, Supplies files settings.input text.toUTF8 →
          convertText ⟨settings.indentation⟩ text = .ok page →
          files.writeFile settings.output page.toUTF8 = .ok written → outcome.exitCode = 0) ∧
        ∀ failure, Ends files settings (some failure) files →
          outcome.exitCode = 1 ∧ outcome.errorText = some ("error: " ++ failure.message ++ "\n") := by
  intro outcome after
  have hleads : Leads arguments files logSetting outcome after :=
    leads_run arguments files logSetting
  refine ⟨hleads.exitCode, hleads.after_eq, hleads.written, ?_⟩
  intro settings parsed hlog
  constructor
  · intro text page written supplied converted done
    obtain ⟨shown, hrun⟩ := (Ends.written supplied converted done).run parsed hlog
    have houtcome : outcome = .ran shown none := congrArg Prod.fst hrun
    rw [houtcome]
    rfl
  · intro failure ends
    obtain ⟨shown, hrun⟩ := ends.run parsed hlog
    have houtcome : outcome = .ran shown (some failure) := congrArg Prod.fst hrun
    rw [houtcome]
    exact ⟨rfl, rfl⟩

/-- A working directory with one file, a document without declarations, and
something on standard input. -/
def oneDocument (input : String) : FileSystem :=
  (FileSystem.standard input.toUTF8).withFile "in.json" "\x7b\"enums\":[]\x7d".toUTF8

/-- A document is replaced by its own page. And where a text is no document
and its page could not be written either, the first of the two is said. -/
theorem run_all_or_nothing_oneDocument :
    (∃ text page, Supplies (oneDocument "") "in.json" text.toUTF8 ∧
      convertText ⟨2⟩ text = .ok page ∧
      Overwritten (oneDocument "") "in.json" page.toUTF8
        (run ["-iin.json", "-o", "in.json", "-n2"] (oneDocument "") none).2) ∧
      (oneDocument "[").locate "pages/out.py" = .error .missing ∧
      (run ["-i-", "-o", "pages/out.py"] (oneDocument "[") none).1.errorText = some ("error: " ++
        "Failed to parse Prisma DMMF: EOF while parsing a list at line 1 column 1" ++ "\n") := by
  obtain ⟨-, -, hwritten, -⟩ :=
    run_all_or_nothing ["-iin.json", "-o", "in.json", "-n2"] (oneDocument "") none
  obtain ⟨-, -, -, hstages⟩ :=
    run_all_or_nothing ["-i-", "-o", "pages/out.py"] (oneDocument "[") none
  refine ⟨?_, by decide +kernel, ?_⟩
  · have hran :
        (run ["-iin.json", "-o", "in.json", "-n2"] (oneDocument "") none).1 = .ran [] none := by
      decide +kernel
    have hparsed : Command.parse ["-iin.json", "-o", "in.json", "-n2"] =
        .ok (.convert ⟨"in.json", "in.json", 2, false⟩) := by
      decide +kernel
    have hprinted : ¬∃ text, Outcome.ran [] none = .printed text := by
      rintro ⟨text, htext⟩
      cases htext
    rw [hran, hparsed] at hwritten
    obtain ⟨settings, text, page, hsettings, hpage⟩ := hwritten rfl hprinted
    cases hsettings
    exact ⟨text, page, hpage⟩
  · have hparsed : Command.parse ["-i-", "-o", "pages/out.py"] =
        .ok (.convert ⟨"-", "pages/out.py", 4, false⟩) := by
      decide +kernel
    have hinput : Supplies (oneDocument "[") "-" "[".toUTF8 := .standardInput
    have hfailed : convertText ⟨4⟩ "[" =
        .error (.parse "EOF while parsing a list at line 1 column 1") := by
      decide +kernel
    obtain ⟨-, hfailure⟩ := hstages _ hparsed not_splitsCharacter_none
    obtain ⟨-, htext⟩ := hfailure _ (.unconverted hinput hfailed)
    rw [htext]
    decide +kernel

/-- What leads to a device is not a file with the page in it: here a page is
written and nothing is there to be read. -/
theorem run_nullDevice :
    let files := oneDocument ""
    let outcome := (run ["-i", "in.json", "-o", "/dev/null"] files none).1
    let after := (run ["-i", "in.json", "-o", "/dev/null"] files none).2
    outcome = .ran [] none ∧ after.readFile "/dev/null" = .ok ByteArray.empty ∧
      ¬∃ text page, Supplies files "in.json" text.toUTF8 ∧ convertText ⟨4⟩ text = .ok page ∧
        after.readFile "/dev/null" = .ok page.toUTF8 := by
  intro files outcome after
  have hread : after.readFile "/dev/null" = .ok ByteArray.empty := by decide +kernel
  refine ⟨by decide +kernel, hread, ?_⟩
  rintro ⟨text, page, -, converted, hpage⟩
  exact toUTF8_ne_empty converted (Except.ok.inj (hpage.symm.trans hread))

end DatamodelTypes.Cli
