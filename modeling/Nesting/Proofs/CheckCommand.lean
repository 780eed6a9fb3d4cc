import Nesting.Proofs.Configuration
import Nesting.Proofs.Decoding
import Nesting.Proofs.Rendering
import Nesting.Proofs.Runs

/-!
# The command to check a file

The command is `check` with a configuration in front of it and a rendering behind it. As long as
there is no text, nothing is written: the run ends in an error that says by its code whether the
configuration, the file or the encoding is to blame. From then on nothing can go wrong but the
output, because a loaded configuration has settings that are accepted, the report of a scan has the
entries that its rendering asks for, and the text can be held.

What is written is the rendering of the report of `check`. Neither the switches of the log nor the
one of the exit code take part in it (`CheckRefines.independent`).
-/

namespace Nesting

variable {run : FileRun .check} {c : Config} {t : Text} {path : String}

namespace FileRun

/-- What a run is asked to check. -/
def request (run : FileRun .check) : CheckRequest :=
  CheckRequest.ofArguments run.given

/-- The configuration of a run. -/
def config (run : FileRun .check) : Except ConfigError Config :=
  run.request.config run.world

theorem path_request (run : FileRun .check) : run.request.path = run.path := by
  unfold request CheckRequest.ofArguments
  rw [run.asks.operand]
  rfl

theorem fault?_of_config (h : run.config = .ok c) : c.fault? = none := by
  obtain ⟨-, -, -, hfault⟩ := Config.load_eq_ok_iff.mp h
  exact hfault

/-- Without a configuration file a run has what flags, environment and defaults say. -/
theorem config_of_search?_none (hfile : run.given.text "config-file" "" = "")
    (herror : ConfigFile.searchError? run.world.files = none)
    (hsearch : ConfigFile.search? run.world.files = none)
    (hdecode : Config.decode (Sources.value?
      { flags := fun k => run.given.value? k.flagName
        environment := run.world.environment
        defaults := Config.defaults }) = .ok c)
    (hfault : c.fault? = none) : run.config = .ok c := by
  refine Config.load_eq_ok_iff.mpr ⟨[], ?_, hdecode, hfault⟩
  rw [show run.request.configFile = "" from hfile]
  exact ConfigFile.load_of_search?_none herror hsearch

end FileRun

/-! ## Before there is a text -/

/-- **A run that fails before it writes**: nothing reaches the output, and the status is 1. -/
structure FailsSilently (run : FileRun .check) (code : String) : Prop where
  out : run.result.2.out = run.world.out
  status : Command.exitStatus run.result.1 = 1
  code : run.result.1.map (·.code.text) = some code

theorem failsSilently_of_action {e : CommandError} (h : run.action = (some e, run.world)) :
    FailsSilently run e.code.text := by
  refine ⟨?_, ?_, ?_⟩
  · rw [run.out_result, h]
  · rw [run.error_result, h]
    rfl
  · rw [run.error_result, h]
    rfl

theorem failsSilently_of_config_error {e : ConfigError} (h : run.config = .error e) :
    FailsSilently run "UNKNOWN" :=
  failsSilently_of_action (e := .config e) (CheckRequest.runOn_act_of_config_error h)

theorem failsSilently_of_source_error {f : Failure} (hc : run.config = .ok c)
    (h : readSource run.world.decoders run.world.files run.path c.encoding = .error f) :
    FailsSilently run f.code.text := by
  rw [← run.path_request] at h
  exact failsSilently_of_action (e := .failure f) (CheckRequest.runOn_act_of_source_error hc h)

/-- Decoding fails for want of the encoding, or because bytes are refused in it. -/
theorem code_of_decodeSource_error {decoders : Decoders} {label : RawText} {bytes : Bytes}
    {f : Failure} (h : decodeSource decoders label bytes = .error f) : f.code = .encoding := by
  unfold decodeSource at h
  split at h
  · cases h
  · split at h
    · cases h
      rfl
    · split at h
      · cases h
        rfl
      · cases h

/-! ## Nothing goes wrong with a text -/

/-- A configuration that was loaded is accepted by the scanner. -/
theorem checker_of_config (h : c.fault? = none) (path : String) (mode : LineMode) (t : Text) :
    checker path mode t c.settings
      = .ok
        { name := path
          text := sanitize mode t
          options := ⟨c.contextRadius.toNat, c.stackTail.toNat⟩ } := by
  unfold checker Scanner.ofSettings
  rw [Config.ofSettings_settings h]

/-- **A check changes the output and the log**, and a refused setting is not among its errors. -/
theorem CheckRequest.exists_runOn_act (r : CheckRequest) (w : World) :
    ∃ error out log, r.act.runOn w = (error, { w with out, log }) ∧
      ∀ e, error ≠ some (.setting e) := by
  cases hc : r.config w with
  | error e => exact ⟨_, w.out, w.log, runOn_act_of_config_error hc, by simp⟩
  | ok c =>
    cases ht : readSource w.decoders w.files r.path c.encoding with
    | error f => exact ⟨_, w.out, w.log, runOn_act_of_source_error hc ht, by simp⟩
    | ok t =>
      obtain ⟨-, -, -, hfault⟩ := Config.load_eq_ok_iff.mp hc
      obtain ⟨log, hact⟩ := runOn_act_of_source hc ht (checker_of_config hfault r.path _ t)
      rw [hact]
      split
      · refine ⟨_, _, _, rfl, ?_⟩
        unfold ending
        intro e
        split
        · split
          · rename_i failure _
            cases failure <;> simp
          · simp
        · simp
      · exact ⟨_, _, _, rfl, by simp⟩

theorem check_of_checker {mode : LineMode} {settings : List Setting} {scanner : Scanner}
    (h : checker path mode t settings = .ok scanner) :
    check path mode t settings = .ok scanner.scan.1 := by
  unfold check
  rw [h]

/-- The diagnostics of a scan are written piece by piece. -/
theorem exists_writeDiagnostics_eq_each {settings : List Setting} {scanner : Scanner}
    (h : Scanner.ofSettings path t settings = .ok scanner) (hfits : Holdable t) :
    ∃ pieces, scanner.scan.1.writeDiagnostics t = Writing.each Writing.write pieces := by
  rw [report_scan h]
  obtain ⟨ds, hds, hspans⟩ :=
    (complete_ofHalt path scanner.options t (Scan.scan t)).exists_diagnostics_eq
  obtain ⟨figures, rfl, -, hfigures⟩ := exists_figures hspans fun e he =>
    exists_mark_of_mem_entries (Scan.ends_scan t) (mem_entries_of_mem_reported he)
  obtain ⟨pieces, hpieces, -⟩ := writeDiagnostics_eq hds hfigures hfits
  exact ⟨pieces, hpieces⟩

/-- **An output that takes everything takes the report of a scan**, in either format. -/
theorem rendering_completes {settings : List Setting} {scanner : Scanner} {s : Sink}
    (h : Scanner.ofSettings path t settings = .ok scanner) (hs : s.failAt = 0)
    (hfits : c.format = RawText.ofString diagnosticFormat → Holdable t) :
    ((CheckRequest.rendering c t scanner.scan.1).runOn s).1 = none := by
  have hpieces : ∃ pieces,
      CheckRequest.rendering c t scanner.scan.1 = Writing.each Writing.write pieces := by
    unfold CheckRequest.rendering
    split
    · rename_i hformat
      exact exists_writeDiagnostics_eq_each h (hfits hformat)
    · rw [report_scan h]
      exact (complete_ofHalt path scanner.options t (Scan.scan t)).exists_write_eq
  obtain ⟨pieces, hpieces⟩ := hpieces
  obtain ⟨failAt, calls, before⟩ := s
  unfold Writing.runOn
  rw [hpieces, Writing.run_each_write pieces before (.inl hs)]

/-! ## How a check ends -/

/-- **How a run ends once the report is written**: the status is 1 if the configuration asks for it
and a closer is at fault, and then the code says in which way. -/
structure EndsBy (error : Option CommandError) (c : Config) (report : Report) : Prop where
  status : Command.exitStatus error = 1 ↔ c.exitCode = true ∧ report.outcome ≠ .balanced
  unmatched : c.exitCode = true → report.outcome = .unmatched →
    error.map (·.code.text) = some "UNMATCHED"
  mismatched : c.exitCode = true → report.outcome = .mismatched →
    error.map (·.code.text) = some "MISMATCHED"

/-- **A complete report ends its check by its outcome.** -/
theorem endsBy_ending {report : Report} (h : report.Complete) :
    EndsBy (CheckRequest.ending c report) c report := by
  unfold CheckRequest.ending
  cases hexit : c.exitCode with
  | false => exact ⟨by simp [hexit, Command.exitStatus], by simp [hexit], by simp [hexit]⟩
  | true =>
    rw [if_pos rfl]
    unfold Report.failure?
    cases h with
    | balanced ho _ =>
      rw [ho]
      exact ⟨by simp [ho, Command.exitStatus], by simp [ho], by simp [ho]⟩
    | unmatched ho hc =>
      rw [ho, hc]
      exact ⟨by simp [ho, hexit, Command.exitStatus], fun _ _ => rfl, by simp [ho]⟩
    | mismatched ho hop hc =>
      rw [ho, hop, hc]
      exact ⟨by simp [ho, hexit, Command.exitStatus], by simp [ho], fun _ _ => rfl⟩

/-- **A run that writes a report** on a text: in the plain format its lines, in the other one its
diagnostics, and nothing else. If the output takes everything, the report decides how the run
ends. -/
structure WritesReport (run : FileRun .check) (c : Config) (sanitized : Text) (report : Report) :
    Prop where
  format : c.format = RawText.ofString textFormat ∨ c.format = RawText.ofString diagnosticFormat
  lines : c.format = RawText.ofString textFormat →
    run.result.2.out = (report.write.runOn run.world.out).2
  diagnostics : c.format = RawText.ofString diagnosticFormat →
    run.result.2.out = ((report.writeDiagnostics sanitized).runOn run.world.out).2
  ends : run.world.out.failAt = 0 →
    (c.format = RawText.ofString diagnosticFormat → Holdable sanitized) →
    EndsBy run.result.1 c report

theorem textFormat_ne_diagnosticFormat :
    RawText.ofString textFormat ≠ RawText.ofString diagnosticFormat := by
  intro h
  have hshown := congrArg RawText.shown h
  rw [RawText.shown_ofString, RawText.shown_ofString] at hshown
  revert hshown
  decide

/-- **A check with a configuration and a text writes its report.** -/
theorem exists_writesReport (hc : run.config = .ok c)
    (ht : readSource run.world.decoders run.world.files run.path c.encoding = .ok t) :
    ∃ report, check run.path (LineMode.ofSwitch c.preserveLines) t c.settings = .ok report ∧
      WritesReport run c (sanitize (LineMode.ofSwitch c.preserveLines) t) report := by
  have hfault := FileRun.fault?_of_config hc
  have hs := checker_of_config hfault run.path (LineMode.ofSwitch c.preserveLines) t
  refine ⟨_, check_of_checker hs, ?_⟩
  rw [← run.path_request] at ht hs
  obtain ⟨log, haction⟩ := CheckRequest.runOn_act_of_source hc ht hs
  rw [run.path_request] at hs haction
  generalize hscanner : ({ name := run.path, text := _, options := _ } : Scanner) = scanner
    at hs haction ⊢
  have htext : scanner.text = sanitize (LineMode.ofSwitch c.preserveLines) t := by rw [← hscanner]
  rw [htext] at haction
  have hcomplete : scanner.scan.1.Complete := by
    rw [report_scan hs]
    exact complete_ofHalt ..
  have hout : run.result.2.out = ((CheckRequest.rendering c
      (sanitize (LineMode.ofSwitch c.preserveLines) t) scanner.scan.1).runOn run.world.out).2 := by
    rw [run.out_result, show run.action = run.request.act.runOn run.world from rfl, haction]
    split
    · rename_i hrender
      rw [hrender]
    · rename_i hrender
      rw [hrender]
  unfold CheckRequest.rendering at hout
  refine ⟨(Config.fault?_eq_none_iff.mp hfault).2.2, fun hformat => ?_, fun hformat => ?_,
    fun hsink hfits => ?_⟩
  · rw [hout, if_neg (hformat ▸ textFormat_ne_diagnosticFormat)]
  · rw [hout, if_pos hformat]
  · have hnone := rendering_completes hs hsink hfits
    rw [run.error_result, show run.action = run.request.act.runOn run.world from rfl, haction]
    split
    · exact endsBy_ending hcomplete
    · rename_i hrender
      rw [hrender] at hnone
      cases hnone

/-! ## What is written is independent of the log and of the exit code -/

/-- **Runs for the same check** in the same world, but for the exit code and for what is logged. -/
structure SameCheck (run other : FileRun .check) : Prop where
  world : other.world = run.world
  path : other.path = run.path
  configFile : other.given.text "config-file" "" = run.given.text "config-file" ""
  flags : ∀ k : Key, k ≠ .exitCode → other.given.value? k.flagName = run.given.value? k.flagName

namespace SameCheck

variable {other : FileRun .check} {c' : Config}

/-- The configurations of the two agree on everything but the exit code. -/
theorem agree (h : SameCheck run other) (hc : run.config = .ok c) (hc' : other.config = .ok c')
    {k : Key} (hk : k ≠ .exitCode) : Config.Agree c c' k := by
  have hload : Config.load run.world.order run.world.files (run.given.text "config-file" "")
      run.world.environment [] (fun k => other.given.value? k.flagName) = .ok c' := by
    rw [← h.configFile, ← h.world]
    exact hc'
  exact Config.agree_of_load hc hload (h.flags k hk)

/-- **The exit code and the log do not show in what is written.** -/
theorem out_result (h : SameCheck run other) (hc : run.config = .ok c)
    (hc' : other.config = .ok c') : other.result.2.out = run.result.2.out := by
  have hradius : c'.contextRadius = c.contextRadius :=
    h.agree hc hc' (show Key.contextRadius ≠ .exitCode by decide)
  have htail : c'.stackTail = c.stackTail :=
    h.agree hc hc' (show Key.stackTail ≠ .exitCode by decide)
  have hencoding : c'.encoding = c.encoding :=
    h.agree hc hc' (show Key.encoding ≠ .exitCode by decide)
  have hlines : c'.preserveLines = c.preserveLines :=
    h.agree hc hc' (show Key.preserveLines ≠ .exitCode by decide)
  have hformat : c'.format = c.format :=
    h.agree hc hc' (show Key.format ≠ .exitCode by decide)
  have hsettings : c'.settings = c.settings := by
    unfold Config.settings
    rw [hradius, htail]
  have hsource : readSource other.world.decoders other.world.files other.path c'.encoding
      = readSource run.world.decoders run.world.files run.path c.encoding := by
    rw [h.world, h.path, hencoding]
  cases ht : readSource run.world.decoders run.world.files run.path c.encoding with
  | error f =>
    rw [(failsSilently_of_source_error hc ht).out,
      (failsSilently_of_source_error hc' (hsource.trans ht)).out, h.world]
  | ok t =>
    obtain ⟨report, hreport, hwrites⟩ := exists_writesReport hc ht
    obtain ⟨report', hreport', hwrites'⟩ := exists_writesReport hc' (hsource.trans ht)
    rw [h.path, hlines, hsettings, hreport] at hreport'
    cases hreport'
    obtain hplain | hcarets := hwrites.format
    · rw [hwrites.lines hplain, hwrites'.lines (hformat.trans hplain), h.world]
    · rw [hwrites.diagnostics hcarets, hwrites'.diagnostics (hformat.trans hcarets), h.world,
        hlines]

end SameCheck

/-! ## Every run -/

/-- **What it means that a run is a check of a text**: it fails silently where it has no
configuration or no text, and otherwise writes the report that `check` gives. -/
structure CheckRefines (run : FileRun .check) : Prop where
  config_error : ∀ e, run.config = .error e → FailsSilently run "UNKNOWN"
  read_error : ∀ c e, run.config = .ok c → run.world.files.read run.path = .error e →
    FailsSilently run "READ_FILE"
  encoding_error : ∀ c bytes f, run.config = .ok c → run.world.files.read run.path = .ok bytes →
    decodeSource run.world.decoders c.encoding bytes = .error f → FailsSilently run "ENCODING"
  report : ∀ c bytes t, run.config = .ok c → run.world.files.read run.path = .ok bytes →
    decodeSource run.world.decoders c.encoding bytes = .ok t →
    ∃ report, check run.path (LineMode.ofSwitch c.preserveLines) t c.settings = .ok report ∧
      WritesReport run c (sanitize (LineMode.ofSwitch c.preserveLines) t) report
  /-- Another run that differs in the exit code and in the log alone writes the same. -/
  independent : ∀ other c c', SameCheck run other → run.config = .ok c → other.config = .ok c' →
    other.result.2.out = run.result.2.out

/-- **The command to check a file refines the check of a text**, whatever the files, the
environment, the configuration file and the flags are. -/
theorem check_command_refines (run : FileRun .check) : CheckRefines run where
  config_error := fun _ h => failsSilently_of_config_error h
  read_error := fun c _ hc h =>
    failsSilently_of_source_error hc (readSource_of_read_error h run.world.decoders c.encoding)
  encoding_error := by
    intro c bytes f hc hbytes h
    have hfails := failsSilently_of_source_error hc
      ((readSource_of_read hbytes run.world.decoders c.encoding).trans h)
    rw [code_of_decodeSource_error h] at hfails
    exact hfails
  report := fun c _ _ hc hbytes h =>
    exists_writesReport hc ((readSource_of_read hbytes run.world.decoders c.encoding).trans h)
  independent := fun _ _ _ h hc hc' => h.out_result hc hc'

/-- The format comes from the environment and the exit code from a flag. A comment holds the
parenthesis that would have matched. -/
def FileRun.mismatch : FileRun .check where
  arguments := ["--quiet", "check", "--exit-code", "a.c"]
  given := ⟨[("quiet", .truth true), ("exit-code", .truth true)], ["a.c"]⟩
  path := "a.c"
  world :=
    { files := { nodes := [(["a.c"], .file (Utf8.encode "f(x] /* ) */".toList))] }
      environment := [("BRACKETS_FORMAT", "diagnostic")]
      clock := ⟨"", "", "", ""⟩ }
  asks := ⟨rfl, ⟨["--quiet", "--exit-code", "a.c"], by with_unfolding_all rfl,
    by with_unfolding_all rfl⟩, rfl, by decide, by decide⟩

theorem FileRun.config_mismatch :
    mismatch.config = .ok
      { contextRadius := 40, stackTail := 5, encoding := "utf-8", format := diagnosticFormat,
        exitCode := true } :=
  config_of_search?_none rfl rfl (by decide +kernel) (by rfl) (by decide)

/-- The run exits with status 1 and says why. -/
theorem check_command_refines_mismatch :
    Command.exitStatus FileRun.mismatch.result.1 = 1 ∧
      FileRun.mismatch.result.1.map (·.code.text) = some "MISMATCHED" := by
  have hbytes : FileRun.mismatch.world.files.read "a.c"
      = .ok (Utf8.encode "f(x] /* ) */".toList) := by
    with_unfolding_all rfl
  obtain ⟨report, hreport, hwrites⟩ := (check_command_refines FileRun.mismatch).report _ _ _
    FileRun.config_mismatch hbytes (decodeSource_encode (by decide) _)
  have hends := hwrites.ends rfl fun _ => by decide +kernel
  have houtcome : report.outcome = .mismatched := by
    have hcheck : check "a.c" .drop "f(x] /* ) */".toList [.contextRadius 40, .stackTail 5]
        = .ok report := hreport
    cases hcheck
    decide +kernel
  refine ⟨hends.status.mpr ⟨rfl, ?_⟩, hends.mismatched rfl houtcome⟩
  rw [houtcome]
  decide

end Nesting
