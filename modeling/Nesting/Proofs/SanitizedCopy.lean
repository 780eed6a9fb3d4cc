import Nesting.Proofs.CheckCommand
import Nesting.Proofs.Deletion

/-!
# Checking a sanitized copy

A file is checked; a sanitized copy of it is written, and the copy is checked as well. The two
checks write the same plain lines, whatever encoding the file was in.

The copy holds the very text that the first check has scanned. It was written as UTF-8 and is read
as UTF-8, and reading gives back what was written: the text has no carriage return, because the
source had none once it was decoded and sanitizing only takes characters away. It is sanitized once
more and left alone. The configuration is the same as well, but for the encoding and the line mode,
since the copy is not a file that it comes from. The two reports then differ in the name of the
file, and the plain lines do not show it.
-/

namespace Nesting

/-! ## The text of the copy -/

/-- A source is read as a text without a carriage return. -/
theorem return_not_mem_readSource {decoders : Decoders} {files : FileTree} {path : String}
    {label : RawText} {t : Text} (h : readSource decoders files path label = .ok t) : '\r' ∉ t := by
  unfold readSource at h
  split at h
  · cases h
  · exact return_not_mem_decodeSource h

/-- **A copy reads as what was written**, since sanitizing puts no carriage return into a text. -/
theorem decodeSource_sanitized {t : Text} (h : '\r' ∉ t) (mode : LineMode) (decoders : Decoders) :
    decodeSource decoders (RawText.ofString "utf-8") (Utf8.encode (sanitize mode t))
      = .ok (sanitize mode t) :=
  decodeSource_encode (fun hmem => h ((sublist_sanitize mode t).subset hmem)) decoders

/-- The plain lines of a report do not show its name. -/
theorem write_ofHalt_name (name name' : String) (options : Options) (t : Text) (halt : Scan.Halt) :
    (Report.ofHalt name options t halt).write = (Report.ofHalt name' options t halt).write := by
  unfold Report.ofHalt
  cases halt.verdict with
  | balanced => rfl
  | unmatched closer => rfl
  | mismatched opener closer => rfl

/-- **The check of a sanitized text writes the plain lines of the check of the text**, under
whatever name and in whatever mode. -/
theorem write_check_sanitized {name name' : String} {mode mode' : LineMode} {t : Text}
    {settings : List Setting} {report report' : Report}
    (h : check name mode t settings = .ok report)
    (h' : check name' mode' (sanitize mode t) settings = .ok report') :
    report'.write = report.write := by
  unfold check checker Scanner.ofSettings at h h'
  rw [sanitize_sanitize] at h'
  cases ho : Options.ofSettings settings with
  | error e =>
    rw [ho] at h
    cases h
  | ok options =>
    rw [ho] at h h'
    cases h
    cases h'
    exact write_ofHalt_name name' name options (sanitize mode t) (Scan.scan (sanitize mode t))

/-! ## The runs -/

/-- **Sanitizing into a file that succeeds**, in the encoding and the line mode that its flags give,
has read a text and has written what is left of it. -/
theorem FileRun.exists_copied {run : FileRun .sanitize} {label : String} {lines : Bool}
    (hlabel : run.given.value? "encoding" = some (.text label))
    (hlines : run.given.value? "preserve-lines" = some (.truth lines))
    (hout : run.given.text "output" "" ≠ "") (h : run.result.1 = none) :
    ∃ t, readSource run.world.decoders run.world.files run.path (RawText.ofString label) = .ok t ∧
      run.world.files.write (run.given.text "output" "")
        (Utf8.encode (sanitize (LineMode.ofSwitch lines) t)) = (none, run.result.2.files) := by
  rw [run.error_result] at h
  rw [run.files_result]
  obtain ⟨t, ht, hwrite⟩ := SanitizeRequest.exists_written h hout
  have hpath : (SanitizeRequest.ofArguments run.given).path = run.path := by
    unfold SanitizeRequest.ofArguments
    rw [run.asks.operand]
    rfl
  have hencoding : (SanitizeRequest.ofArguments run.given).encoding = label := by
    show run.given.text "encoding" Command.defaultEncoding = label
    unfold Arguments.text
    rw [hlabel]
    exact RawText.shown_ofString label
  have hmode : (SanitizeRequest.ofArguments run.given).mode = LineMode.ofSwitch lines := by
    show LineMode.ofSwitch (run.given.isOn "preserve-lines" false) = _
    unfold Arguments.isOn
    rw [hlines]
  rw [hpath, hencoding] at ht
  rw [hmode] at hwrite
  exact ⟨t, ht, hwrite⟩

/-- **A file is checked, copied and checked again.** The first check and the sanitizing are told the
encoding and the line mode of the file; the second check is told that the copy is UTF-8, has any
line mode, and is otherwise configured in the same way. -/
structure CheckedCopy (label : String) (lines : Bool) (first : FileRun .check)
    (copy : FileRun .sanitize) (second : FileRun .check) : Prop where
  source : copy.path = first.path
  encoding_first : first.given.value? "encoding" = some (.text label)
  encoding_copy : copy.given.value? "encoding" = some (.text label)
  encoding_second : second.given.value? "encoding" = some (.text "utf-8")
  lines_first : first.given.value? "preserve-lines" = some (.truth lines)
  lines_copy : copy.given.value? "preserve-lines" = some (.truth lines)
  /-- The line mode of the second check comes from a flag, or from wherever its configuration takes
  it. -/
  lines_second : (∃ lines', second.given.value? "preserve-lines" = some (.truth lines')) ∨
    ∃ c, second.config = .ok c
  /-- The copy is written to a file, and that file is checked. -/
  output : copy.given.text "output" "" = second.path
  named : second.path ≠ ""
  succeeds : copy.result.1 = none
  /-- The copy is made from the files that are checked first, and the same is made of their
  bytes. -/
  files_copy : copy.world.files = first.world.files
  decoders_copy : copy.world.decoders = first.world.decoders
  files_second : second.world.files = copy.result.2.files
  /-- The system lets the copy be read. -/
  readable : second.world.files.LetsRead second.path
  environment : second.world.environment = first.world.environment
  order : second.world.order = first.world.order
  out : second.world.out = first.world.out
  configFile : second.given.text "config-file" "" = first.given.text "config-file" ""
  flags : ∀ k : Key, k ≠ .encoding → k ≠ .preserveLines →
    second.given.value? k.flagName = first.given.value? k.flagName
  /-- The copy is not a configuration file that the second check consults. -/
  notConsulted : ∀ consulted place,
    ConfigFile.Consulted second.world.files (second.given.text "config-file" "") consulted →
    second.world.files.LeadsTo second.path place → ¬ second.world.files.LeadsTo consulted place

namespace CheckedCopy

variable {label : String} {lines : Bool} {first : FileRun .check} {copy : FileRun .sanitize}
  {second : FileRun .check} {c : Config}

/-- **The copy holds what is left of the text**, and the configuration files say what they said. -/
theorem exists_copied (h : CheckedCopy label lines first copy second) :
    ∃ t, readSource first.world.decoders first.world.files first.path (RawText.ofString label)
        = .ok t ∧
      second.world.files.read second.path
        = .ok (Utf8.encode (sanitize (LineMode.ofSwitch lines) t)) ∧
      ∀ file, ConfigFile.load first.world.order second.world.files first.world.environment
          (first.given.text "config-file" "") = .ok file ↔
        ConfigFile.load first.world.order first.world.files first.world.environment
          (first.given.text "config-file" "") = .ok file := by
  have hout : copy.given.text "output" "" ≠ "" := by
    rw [h.output]
    exact h.named
  obtain ⟨t, ht, hwrite⟩ := FileRun.exists_copied h.encoding_copy h.lines_copy hout h.succeeds
  rw [h.source, h.files_copy, h.decoders_copy] at ht
  rw [h.output, h.files_copy, ← h.files_second] at hwrite
  obtain ⟨loc, hrewrites, hleads⟩ := FileTree.rewrites_of_write hwrite
  have hread := FileTree.read_eq_ok_iff.mpr ⟨h.readable, hrewrites.contains hleads⟩
  refine ⟨t, ht, hread, fun file => ConfigFile.load_eq_ok_iff_of_rewrites hrewrites ?_⟩
  intro consulted hconsulted
  rw [← h.configFile] at hconsulted
  exact h.notConsulted consulted loc hconsulted (hrewrites.leadsTo_iff.mpr hleads)

theorem config_second (h : CheckedCopy label lines first copy second) :
    second.config = Config.load first.world.order second.world.files
      (first.given.text "config-file" "") first.world.environment []
      fun k => second.given.value? k.flagName := by
  rw [← h.configFile, ← h.environment, ← h.order]
  rfl

/-- **The first check has the configuration of the second one**, but for the encoding and the line
mode. -/
theorem config_first_of_second (h : CheckedCopy label lines first copy second)
    (hc : second.config = .ok c) :
    first.config = .ok { c with encoding := label, preserveLines := lines } := by
  obtain ⟨-, -, -, hfiles⟩ := h.exists_copied
  rw [h.config_second] at hc
  exact Config.load_of_flags (fun file => (hfiles file).mp)
    (fun k hk hk' => (h.flags k hk hk').symm) h.encoding_first h.lines_first hc

/-- The second check has a configuration if the first one has. -/
theorem exists_config_second (h : CheckedCopy label lines first copy second)
    (hc : first.config = .ok c) : ∃ c', second.config = .ok c' := by
  obtain ⟨-, -, -, hfiles⟩ := h.exists_copied
  obtain ⟨lines', hlines'⟩ | hloads := h.lines_second
  · rw [h.config_second]
    exact ⟨_,
      Config.load_of_flags (fun file => (hfiles file).mpr) h.flags h.encoding_second hlines' hc⟩
  · exact hloads

end CheckedCopy

/-- **Checking a sanitized copy gives the same answer**: in the plain format, the two checks write
the same. -/
theorem sanitized_copy_checks_alike {label : String} {lines : Bool} {first : FileRun .check}
    {copy : FileRun .sanitize} {second : FileRun .check}
    (h : CheckedCopy label lines first copy second)
    (hplain : ∀ c, first.config = .ok c → c.format = RawText.ofString textFormat) :
    second.result.2.out = first.result.2.out := by
  cases hsecond : second.config with
  | error e =>
    -- neither check has a configuration
    cases hfirst : first.config with
    | error e' =>
      rw [(failsSilently_of_config_error hsecond).out, (failsSilently_of_config_error hfirst).out,
        h.out]
    | ok c =>
      obtain ⟨c', hc'⟩ := h.exists_config_second hfirst
      rw [hsecond] at hc'
      cases hc'
  | ok c =>
    have hfirst := h.config_first_of_second hsecond
    have hformat := hplain _ hfirst
    obtain ⟨t, ht, hread, -⟩ := h.exists_copied
    obtain ⟨report, hreport, hwrites⟩ := exists_writesReport hfirst ht
    -- the copy is read as the text that the first check has scanned
    have ht' : readSource second.world.decoders second.world.files second.path c.encoding
        = .ok (sanitize (LineMode.ofSwitch lines) t) := by
      rw [readSource_of_read hread, Config.encoding_of_flag hsecond h.encoding_second]
      exact decodeSource_sanitized (return_not_mem_readSource ht) (LineMode.ofSwitch lines) _
    obtain ⟨report', hreport', hwrites'⟩ := exists_writesReport hsecond ht'
    rw [hwrites.lines hformat, hwrites'.lines hformat, h.out,
      write_check_sanitized hreport hreport']

/-! ## A copy of a file of 16-bit units -/

namespace CheckedCopy

/-- A file of 16-bit units with a comment over two lines, the first of which ends in a carriage
return and a line feed. -/
def utf16Files : FileTree where
  nodes := [(["a.c"], .file [0x28, 0, 0x2f, 0, 0x2a, 0, 0x0d, 0, 0x0a, 0, 0x29, 0, 0x2a, 0, 0x2f, 0,
    0x5b, 0])]

/-- A world with nothing but files. -/
def worldOf (files : FileTree) : World where
  files := files
  environment := []
  clock := ⟨"", "", "", ""⟩

/-- The file is checked. -/
def utf16First : FileRun .check where
  arguments := ["check", "--encoding", "utf-16le", "--preserve-lines", "a.c"]
  given := ⟨[("encoding", .text "utf-16le"), ("preserve-lines", .truth true)], ["a.c"]⟩
  path := "a.c"
  world := worldOf utf16Files
  asks := ⟨rfl, ⟨["--encoding", "utf-16le", "--preserve-lines", "a.c"], by with_unfolding_all rfl,
    by with_unfolding_all rfl⟩, rfl, by decide, by decide⟩

/-- A copy is made that keeps the first line of the comment. -/
def utf16Copy : FileRun .sanitize where
  arguments := ["sanitize", "--encoding=utf-16le", "--preserve-lines", "-o", "b.c", "a.c"]
  given := ⟨[("encoding", .text "utf-16le"), ("preserve-lines", .truth true),
    ("output", .text "b.c")], ["a.c"]⟩
  path := "a.c"
  world := worldOf utf16Files
  asks := ⟨rfl, ⟨["--encoding=utf-16le", "--preserve-lines", "-o", "b.c", "a.c"],
    by with_unfolding_all rfl, by with_unfolding_all rfl⟩, rfl, by decide, by decide⟩

/-- The copy is checked in the other mode. -/
def utf16Second : FileRun .check where
  arguments := ["check", "--encoding=utf-8", "b.c"]
  given := ⟨[("encoding", .text "utf-8")], ["b.c"]⟩
  path := "b.c"
  world := worldOf utf16Copy.result.2.files
  asks := ⟨rfl, ⟨["--encoding=utf-8", "b.c"], by with_unfolding_all rfl, by with_unfolding_all rfl⟩,
    rfl, by decide, by decide⟩

theorem request_utf16Copy :
    SanitizeRequest.ofArguments utf16Copy.given
      = { path := "a.c", encoding := "utf-16le", mode := .keep, output := "b.c" } := by
  with_unfolding_all rfl

theorem readSource_utf16Files :
    readSource .ascii utf16Files "a.c" (RawText.ofString "utf-16le")
      = .ok ['(', '/', '*', '\n', ')', '*', '/', '['] := by
  decide +kernel

/-- The copy is written next to the file. -/
theorem exists_result_utf16Copy :
    utf16Copy.result.1 = none ∧
      ∃ bytes, utf16Copy.result.2.files = utf16Files.put ["b.c"] bytes := by
  have hwrite : ∀ bytes, utf16Files.write "b.c" bytes = (none, utf16Files.put ["b.c"] bytes) := by
    intro bytes
    with_unfolding_all rfl
  obtain ⟨herror, hfiles⟩ := utf16Copy.result_of_write request_utf16Copy readSource_utf16Files
    (by decide) (hwrite _)
  exact ⟨herror, _, hfiles⟩

/-- No configuration file is found beside the two. -/
theorem search?_utf16Second : ConfigFile.search? utf16Second.world.files = none := by
  have hnone : ∀ bytes, ConfigFile.search? (utf16Files.put ["b.c"] bytes) = none := by
    intro bytes
    with_unfolding_all rfl
  obtain ⟨-, bytes, hfiles⟩ := exists_result_utf16Copy
  show ConfigFile.search? utf16Copy.result.2.files = none
  rw [hfiles, hnone]

theorem refusals_utf16Second : utf16Second.world.files.refusals = {} := by
  obtain ⟨-, bytes, hfiles⟩ := exists_result_utf16Copy
  show utf16Copy.result.2.files.refusals = {}
  rw [hfiles]
  rfl

theorem config_utf16First :
    utf16First.config = .ok
      { contextRadius := 40, stackTail := 5, encoding := "utf-16le", preserveLines := true,
        format := textFormat } :=
  FileRun.config_of_search?_none rfl rfl (by decide +kernel) (by rfl) (by decide)

theorem config_utf16Second :
    utf16Second.config = .ok
      { contextRadius := 40, stackTail := 5, encoding := "utf-8", format := textFormat } := by
  have herror : ConfigFile.searchError? utf16Second.world.files = none := by
    unfold ConfigFile.searchError?
    rw [refusals_utf16Second]
    rfl
  exact FileRun.config_of_search?_none rfl herror search?_utf16Second (by rfl) (by decide)

theorem checkedCopy_utf16 :
    CheckedCopy "utf-16le" true utf16First utf16Copy utf16Second where
  source := rfl
  encoding_first := rfl
  encoding_copy := rfl
  encoding_second := rfl
  lines_first := rfl
  lines_copy := rfl
  lines_second := .inr ⟨_, config_utf16Second⟩
  output := congrArg SanitizeRequest.output request_utf16Copy
  named := show "b.c" ≠ "" by decide
  succeeds := exists_result_utf16Copy.1
  files_copy := rfl
  decoders_copy := rfl
  files_second := rfl
  readable := by
    unfold FileTree.LetsRead
    rw [refusals_utf16Second]
    exact ⟨rfl, rfl⟩
  environment := rfl
  order := rfl
  out := rfl
  configFile := rfl
  flags := by
    intro k hk hk'
    cases k <;> first | rfl | contradiction
  notConsulted := by
    intro consulted place hconsulted
    have hfound : ConfigFile.search? utf16Second.world.files = some consulted := hconsulted
    rw [search?_utf16Second] at hfound
    cases hfound

end CheckedCopy

/-- The line feed of the comment is kept in the copy, and the two checks write the same. -/
theorem sanitized_copy_checks_alike_utf16 :
    CheckedCopy "utf-16le" true CheckedCopy.utf16First CheckedCopy.utf16Copy
        CheckedCopy.utf16Second ∧
      CheckedCopy.utf16Second.result.2.out = CheckedCopy.utf16First.result.2.out := by
  refine ⟨CheckedCopy.checkedCopy_utf16, ?_⟩
  refine sanitized_copy_checks_alike CheckedCopy.checkedCopy_utf16 fun c hc => ?_
  cases CheckedCopy.config_utf16First.symm.trans hc
  rfl

end Nesting
