/-
DatamodelTypes.Proofs.Cli.Log — the log tells how far a run got, and that
is all it does.

`Trace` is the account of what a run has to say: an event for each stage
that it got through, with the numbers of the document and of its page as
they are defined apart from any log. The log is what the filter in force
lets pass of the trace. And two runs that are asked for the same
conversion end alike, whatever is logged (`run_log_trace`).
-/
import DatamodelTypes.Proofs.Cli.Filter
import DatamodelTypes.Proofs.Cli.Run
import DatamodelTypes.Proofs.Conversion.Imports
import DatamodelTypes.Proofs.Cutting
import DatamodelTypes.Proofs.Page.Layout

namespace DatamodelTypes

/-! ## 1. Import lines -/

namespace Page

/-- The import lines of a text: those behind the banner and its empty line,
up to the next empty one. -/
def importLinesOf (text : String) : List (List Char) :=
  ((linesOf text).drop 3).takeWhile (· ≠ [])

theorem importLinesOf_render (options : Options) {page : Page}
    (h : ∀ line ∈ page.imports.lines, '\n' ∉ (Imports.renderLine line).toList) :
    importLinesOf (page.render options) =
      page.imports.lines.map (Imports.renderLine · |>.toList) := by
  have hrender : ∃ sections, page.render options =
      banner ++ "\n\n" ++ page.imports.render ++ "\n\n" ++ sections := by
    rw [render, show "\n\n# Enums\n\n" = "\n\n" ++ "# Enums\n\n" from rfl]
    simp only [String.append_assoc]
    exact ⟨_, rfl⟩
  obtain ⟨sections, hsections⟩ := hrender
  rw [importLinesOf, hsections, linesOf_append_gap, linesOf_append_gap, linesOf_banner,
    Imports.linesOf_render h]
  cases page.imports.lines with
  | nil =>
    -- an empty line stands for the block, and none is taken
    rfl
  | cons line lines =>
    have hnonempty : ∀ text ∈ (line :: lines).map (Imports.renderLine · |>.toList),
        decide (text ≠ []) = true := by
      intro text htext
      obtain ⟨line, -, rfl⟩ := List.mem_map.1 htext
      simp [Imports.renderLine]
    exact (@takeWhile_append_of_stop _ _ _ ([] :: linesOf sections) hnonempty (by simp)).1

/-- As many import lines as modules stand in the text of a page. -/
theorem length_importLinesOf_render (options : Options) {datamodel : Datamodel} {page : Page}
    (h : ofDatamodel datamodel = .ok page) :
    (importLinesOf (page.render options)).length = page.imports.size := by
  have hknown : ∀ request ∈ Datamodel.knownRequests,
      '\n' ∉ request.source.toList ∧ '\n' ∉ request.symbol.toList := by
    decide
  have hlines : ∀ line ∈ page.imports.lines, '\n' ∉ (Imports.renderLine line).toList := by
    rw [imports_ofDatamodel h]
    exact newline_not_mem_importLine fun request hrequest =>
      hknown request (Datamodel.mem_knownRequests hrequest)
  rw [importLinesOf_render options hlines, List.length_map, Imports.size]

end Page

namespace Cli

/-! ## 2. Traces -/

/-- What a run has to say, an event for each stage that it got through:
reading a text, converting it and writing its page. -/
inductive Trace (files : FileSystem) (settings : Settings) : List Event → Prop
  | unread (noText : ∀ text : String, ¬Supplies files settings.input text.toUTF8) :
      Trace files settings []
  | unconverted {text : String} {failure : Failure}
      (supplied : Supplies files settings.input text.toUTF8)
      (failed : convertText ⟨settings.indentation⟩ text = .error failure) :
      Trace files settings [.readInput settings.input text.toUTF8.size]
  | unwritten {text page : String} {datamodel : Datamodel} {fault : FileFault}
      (supplied : Supplies files settings.input text.toUTF8)
      (parsed : Datamodel.parse text = .ok datamodel)
      (converted : convertText ⟨settings.indentation⟩ text = .ok page)
      (failed : files.writeFile settings.output page.toUTF8 = .error fault) :
      Trace files settings [.readInput settings.input text.toUTF8.size,
        .converted datamodel.enums.length datamodel.models.length datamodel.types.length
          (Page.importLinesOf page).length]
  | written {text page : String} {datamodel : Datamodel} {after : FileSystem}
      (supplied : Supplies files settings.input text.toUTF8)
      (parsed : Datamodel.parse text = .ok datamodel)
      (converted : convertText ⟨settings.indentation⟩ text = .ok page)
      (done : files.writeFile settings.output page.toUTF8 = .ok after) :
      Trace files settings [.readInput settings.input text.toUTF8.size,
        .converted datamodel.enums.length datamodel.models.length datamodel.types.length
          (Page.importLinesOf page).length, .wrote settings.output]

/-- Reading changes no file, and a text that is read is supplied. -/
theorem readInput_run (files : FileSystem) (input : String) :
    ∃ result, (readInput fileSystemAccess input).run files = (result, files) ∧
      ∀ text, result = .ok text → Supplies files input text.toUTF8 := by
  have hsupplied {bytes : ByteArray} (h : Supplies files input bytes) :
      ∃ result, (readInput fileSystemAccess input).run files = (result, files) ∧
        ∀ text, result = .ok text → Supplies files input text.toUTF8 := by
    refine ⟨textOfBytes bytes, h.readInput, fun text htext => ?_⟩
    rwa [← textOfBytes_eq_ok.1 htext]
  by_cases hdash : input = "-"
  · subst hdash
    exact hsupplied .standardInput
  · cases hfile : files.readFile input with
    | ok bytes => exact hsupplied (.file hdash hfile)
    | error fault =>
      refine ⟨_, readInput_of_fault hdash hfile, fun text htext => ?_⟩
      cases htext

theorem pageOfText_eq_ok {text : String} {event : Event} {page : Page}
    (h : pageOfText text = .ok (event, page)) :
    ∃ datamodel, Datamodel.parse text = .ok datamodel ∧ Page.ofDatamodel datamodel = .ok page ∧
      event = .converted datamodel.enums.length datamodel.models.length datamodel.types.length
        page.imports.size := by
  simp only [pageOfText, bind_eq_ok, pure_eq_ok, Prod.mk.injEq] at h
  obtain ⟨datamodel, hparsed, found, hpage, rfl, rfl⟩ := h
  exact ⟨datamodel, hparsed, hpage, rfl⟩

/-- The stages that a run reports are those that it got through. -/
theorem trace_convertFile (files : FileSystem) (settings : Settings) :
    Trace files settings ((convertFile fileSystemAccess settings).run files).1.events := by
  -- the stages are gone through in their order, each with the rule for its failure
  obtain ⟨result, hread, hsupplied⟩ := readInput_run files settings.input
  unfold convertFile
  rw [run_bind_files, hread]
  cases result with
  | error failure =>
    refine .unread fun text htext => ?_
    rw [htext.readInput, textOfBytes_toUTF8] at hread
    cases hread
  | ok text =>
    have supplied := hsupplied text rfl
    dsimp only
    cases hpage : pageOfText text with
    | error failure =>
      have failed : convertText ⟨settings.indentation⟩ text = .error failure := by
        rw [convertText_eq, hpage, map_error]
      exact .unconverted supplied failed
    | ok found =>
      obtain ⟨event, page⟩ := found
      obtain ⟨datamodel, parsed, hofDatamodel, rfl⟩ := pageOfText_eq_ok hpage
      have converted : convertText ⟨settings.indentation⟩ text =
          .ok (page.render ⟨settings.indentation⟩) := by
        rw [convertText_eq, hpage, map_ok]
      rw [← Page.length_importLinesOf_render ⟨settings.indentation⟩ hofDatamodel]
      dsimp only
      rw [run_bind_files, writeFile_run]
      cases hwrite : files.writeFile settings.output
          (page.render ⟨settings.indentation⟩).toUTF8 with
      | error fault => exact .unwritten supplied parsed converted hwrite
      | ok after => exact .written supplied parsed converted hwrite

/-- Verbose logging is no matter of the conversion. -/
theorem convertFile_eq {m : Type → Type} [Monad m] (access : Access m)
    {settings settings' : Settings} (input : settings'.input = settings.input)
    (output : settings'.output = settings.output)
    (indentation : settings'.indentation = settings.indentation) :
    convertFile access settings' = convertFile access settings := by
  unfold convertFile
  rw [input, output, indentation]

/-- The log tells how far a run got, and nothing depends on it.

What is logged is the part of the trace that the filter in force lets
pass, event by event and in the order of the trace; the level, the target
and the fields of an event settle whether it passes. Another command line
that asks for the same conversion, with verbose logging or without and under
any other setting that the log can be set up with, has the same exit code,
the same standard output and error text, and leaves the same files. -/
theorem run_log_trace {arguments : List String} {settings : Settings}
    (parsed : Command.parse arguments = .ok (.convert settings)) (files : FileSystem)
    {logSetting : Option String} (hlog : ¬SplitsCharacter logSetting) :
    (∃ filter trace, InForce logSetting settings.verbose filter ∧ Trace files settings trace ∧
      (∀ event, filter.shows event = true ↔ filter.Passes event) ∧
      (∀ event event' : Event, event.level = event'.level → event.target = event'.target →
        event.fields = event'.fields → (filter.Passes event ↔ filter.Passes event')) ∧
      (run arguments files logSetting).1.log = (trace.filter filter.shows).map (·.line)) ∧
    ∀ {arguments' : List String} {settings' : Settings} {logSetting' : Option String},
      Command.parse arguments' = .ok (.convert settings') → settings'.input = settings.input →
        settings'.output = settings.output → settings'.indentation = settings.indentation →
          ¬SplitsCharacter logSetting' →
            let (outcome, after) := run arguments files logSetting
            let (outcome', after') := run arguments' files logSetting'
            outcome'.exitCode = outcome.exitCode ∧
              shownOutput outcome' after' = shownOutput outcome after ∧
              outcome'.errorText = outcome.errorText ∧ after' = after := by
  obtain ⟨filter, hfilter, hforce⟩ := exists_inForce hlog settings.verbose
  have hrun := @run_convert _ files _ _ _ parsed hfilter
  constructor
  · refine ⟨filter, _, hforce, trace_convertFile files settings, fun event => Filter.shows_iff,
      fun _ _ hlevel htarget hfields => Filter.passes_congr hlevel htarget hfields _, ?_⟩
    rw [hrun]
    rfl
  · intro arguments' settings' logSetting' parsed' input output indentation hlog'
    -- the filter chooses among the events of one and the same conversion
    obtain ⟨filter', hfilter', -⟩ := exists_inForce hlog' settings'.verbose
    rw [hrun, run_convert parsed' hfilter', convertFile_eq _ input output indentation]
    obtain ⟨⟨events, failure⟩, after⟩ := (convertFile fileSystemAccess settings).run files
    cases failure <;> exact ⟨rfl, rfl, rfl, rfl⟩

/-- A document with one enum, whose page is written twice: once all of the
trace is seen, once the line of the converter is not. -/
theorem run_log_trace_twoLogs :
    let files := oneDocument "\x7b\"enums\":[\x7b\"name\":\"Mood\",\"values\":[]\x7d]\x7d"
    let setting := "prisma_to_python=debug,prisma_to_python::converter=info"
    let full := run ["-vi-", "-oout.py"] files none
    let brief := run ["-i", "-", "--output=out.py"] files (some setting)
    (∃ filter trace, InForce (some setting) false filter ∧
      Trace files ⟨"-", "out.py", 4, false⟩ trace ∧
      (trace.filter filter.shows).map (·.line) =
        ["DEBUG prisma_to_python: read input input=- bytes=39",
          "INFO prisma_to_python: wrote python types output=out.py"]) ∧
      full.1.log = ["DEBUG prisma_to_python: read input input=- bytes=39",
        "DEBUG prisma_to_python::converter: converted schema enums=1 models=0 types=0 " ++
          "import_modules=1",
        "INFO prisma_to_python: wrote python types output=out.py"] ∧
      full.1.exitCode = brief.1.exitCode ∧ full.2 = brief.2 := by
  intro files setting full brief
  have hbrief : Command.parse ["-i", "-", "--output=out.py"] =
      .ok (.convert ⟨"-", "out.py", 4, false⟩) := by
    decide +kernel
  have hfull : Command.parse ["-vi-", "-oout.py"] = .ok (.convert ⟨"-", "out.py", 4, true⟩) := by
    decide +kernel
  have hsetting : ¬SplitsCharacter (some setting) := not_splitsCharacter (by decide +kernel)
  have hlog : brief.1.log = ["DEBUG prisma_to_python: read input input=- bytes=39",
      "INFO prisma_to_python: wrote python types output=out.py"] := by
    decide +kernel
  obtain ⟨⟨filter, trace, hforce, htrace, -, -, hlogged⟩, hsame⟩ :=
    run_log_trace hbrief files hsetting
  obtain ⟨hexit, -, -, hfiles⟩ := hsame hfull rfl rfl rfl not_splitsCharacter_none
  exact ⟨⟨filter, trace, hforce, htrace, hlogged ▸ hlog⟩, by decide +kernel, hexit, hfiles⟩

/-- Level and target alone do not settle what is shown. Of this trace the
event that has the field is shown; a less detailed one with the same target
is not, and no choice of a threshold for each target has that effect. -/
theorem run_log_fieldCondition :
    let files := oneDocument ""
    let setting := "[\x7bbytes\x7d]=debug"
    let trace := [Event.readInput "in.json" 12, .converted 0 0 0 0, .wrote "out.py"]
    Trace files ⟨"in.json", "out.py", 4, false⟩ trace ∧
      Filter.ofText setting = .ok [⟨none, some "bytes", some .debug⟩] ∧
      ¬∃ threshold : String → Threshold,
        (run ["-i", "in.json", "-o", "out.py"] files (some setting)).1.log =
          (trace.filter fun event => (threshold event.target).admits event.level).map (·.line) := by
  intro files setting trace
  have htrace :
      ((convertFile fileSystemAccess ⟨"in.json", "out.py", 4, false⟩).run files).1.events = trace := by
    decide +kernel
  have hlog : (run ["-i", "in.json", "-o", "out.py"] files (some setting)).1.log =
      ["DEBUG prisma_to_python: read input input=in.json bytes=12"] := by
    decide +kernel
  refine ⟨htrace ▸ trace_convertFile files _, by decide +kernel, ?_⟩
  rintro ⟨threshold, hthreshold⟩
  rw [hlog] at hthreshold
  have hdebug : (threshold "prisma_to_python").admits .debug = true := by
    -- the line that is shown is that of the first event
    obtain ⟨event, hevent, hline⟩ := List.mem_map.1 (hthreshold ▸ List.mem_singleton_self _)
    obtain ⟨hmem, hadmits⟩ := List.mem_filter.1 hevent
    simp only [trace, List.mem_cons, List.not_mem_nil, or_false] at hmem
    obtain rfl | rfl | rfl := hmem
    · exact hadmits
    · exact absurd hline (by decide +kernel)
    · exact absurd hline (by decide +kernel)
  have hinfo : (threshold "prisma_to_python").admits .info = true :=
    Threshold.admits_of_le hdebug (by decide)
  have hwrote : Event.line (.wrote "out.py") ∈
      ["DEBUG prisma_to_python: read input input=in.json bytes=12"] :=
    hthreshold ▸ List.mem_map_of_mem (List.mem_filter.2 ⟨by simp [trace], hinfo⟩)
  exact absurd hwrote (by decide +kernel)

end Cli

end DatamodelTypes
