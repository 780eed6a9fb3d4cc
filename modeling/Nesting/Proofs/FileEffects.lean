import Nesting.Proofs.CheckCommand

/-!
# What runs do to files

Of all commands only the one that sanitizes writes a file, and only if it is told which. It reads
its source, decodes it and takes out what is to be taken out before it looks at the file that it
writes, so that a source that cannot be read or decoded leaves every file as it is, and so that the
source may be the file that is written. All this holds of every list of arguments: `Command.Ends`
says how a command can end on them, and in all of these ways but the last one no file has been
touched.
-/

namespace Nesting

open Command (exists_ends_of_select files_worldOf decoders_worldOf)

/-! ## Commands that write no file -/

/-- Writing to the output leaves the files alone. -/
theorem Act.files_runOn_write (out : Writing Unit) (w : World) :
    ((Act.write out).runOn w).2.files = w.files := by
  have hbind : (Act.write out).runOn w = (Act.write out >>= pure).runOn w := by rw [bind_pure]
  rw [hbind, Act.runOn_write]
  cases out.runOn w.out with
  | mk fault s => cases fault <;> rfl

theorem Act.files_runOn_offer (pieces : List String) (w : World) :
    ((Act.offer pieces).runOn w).2.files = w.files :=
  rfl

namespace SanitizeRequest

variable {r : SanitizeRequest} {w : World}

/-- Without a file to write to, the text goes to the output. -/
theorem files_runOn_act_of_no_output (h : r.output = "") : (r.act.runOn w).2.files = w.files := by
  cases ht : readSource w.decoders w.files r.path r.encoding with
  | error f => rw [runOn_act_of_source_error ht]
  | ok t =>
    unfold act
    rw [Act.runOn_get, ht, Act.runOn_require_ok]
    dsimp only
    rw [if_pos h]
    exact Act.files_runOn_write _ w

/-- **Sanitizing into a file writes that file or nothing**: if the files change, then the source was
read, and a beginning of what is left of it is in the file. -/
theorem files_runOn_act (r : SanitizeRequest) (w : World) :
    (r.act.runOn w).2.files = w.files ∨
      ∃ t loc taken, readSource w.decoders w.files r.path r.encoding = .ok t ∧
        w.files.LeadsTo r.output loc ∧
        FileTree.Rewrites w.files (r.act.runOn w).2.files loc taken ∧
        taken <+: Utf8.encode (sanitize r.mode t) := by
  by_cases hout : r.output = ""
  · exact .inl (files_runOn_act_of_no_output hout)
  · cases ht : readSource w.decoders w.files r.path r.encoding with
    | error f =>
      rw [runOn_act_of_source_error ht]
      exact .inl rfl
    | ok t =>
      have hcases := w.files.write_cases r.output (Utf8.encode (sanitize r.mode t))
      cases hwrite : w.files.write r.output (Utf8.encode (sanitize r.mode t)) with
      | mk error files =>
        obtain ⟨log, hrun⟩ := runOn_act_of_source ht hout hwrite
        rw [hwrite] at hcases
        rw [hrun]
        obtain ⟨e, hfails⟩ | ⟨loc, taken, hleads, hrewrites, htaken, -⟩ := hcases
        · cases hfails
          exact .inl rfl
        · exact .inr ⟨t, loc, taken, rfl, hleads, hrewrites, htaken⟩

end SanitizeRequest

namespace Command

variable {c : Command} {arguments rest : List String} {a : Arguments} {w : World}

/-- A run that exits with status zero has ended without an error. -/
theorem eq_none_of_exitStatus {error : Option CommandError} (h : exitStatus error = 0) :
    error = none := by
  unfold exitStatus at h
  cases error with
  | none => rfl
  | some e => cases h

/-- A command other than the one that sanitizes changes no file. -/
theorem files_act (h : c ≠ .sanitize) (a : Arguments) (w : World) :
    ((c.act a).runOn w).2.files = w.files := by
  cases c with
  | check =>
    obtain ⟨error, out, log, hact, -⟩ := (CheckRequest.ofArguments a).exists_runOn_act w
    show ((CheckRequest.ofArguments a).act.runOn w).2.files = w.files
    rw [hact]
  | sanitize => exact absurd rfl h
  | help =>
    show ((showHelp a.positional).runOn w).2.files = w.files
    unfold showHelp
    split <;> exact Act.files_runOn_offer _ w
  | version => exact Act.files_runOn_offer _ w
  | root => rfl
  | completion => rfl

/-- So does a run of it, whatever its arguments are. -/
theorem files_run_of_ne (h : select arguments = .command c rest) (hc : c ≠ .sanitize) (w : World) :
    (run arguments w).2.files = w.files := by
  obtain ⟨result, hends, -, hfiles⟩ := exists_ends_of_select h w
  rw [hfiles]
  cases hends with
  | flag => rfl
  | help => rfl
  | operands => rfl
  | acts => rw [files_act hc, files_worldOf]

end Command

/-! ## Sanitizing -/

/-- **What sanitizing does to the files**, with the arguments as they are read. -/
structure SanitizeEffects (a : Arguments) (w : World) (result : Option CommandError × World) :
    Prop where
  /-- Showing help, or having another number of arguments than one, changes nothing. -/
  idle : a.isOn "help" false = true ∨ a.positional.length ≠ 1 → result.2.files = w.files
  /-- Without a file to write to, nothing changes. -/
  noOutput : a.text "output" "" = "" → result.2.files = w.files
  /-- At a place that the path of the output does not lead to there is what there was. -/
  onlyOutput : ∀ place, ¬ w.files.LeadsTo (a.text "output" "") place →
    result.2.files.nodeAt place = w.files.nodeAt place
  /-- A source that cannot be read or decoded changes nothing. -/
  noSource : ∀ path failure, a.positional = [path] →
    readSource w.decoders w.files path (RawText.ofString (a.text "encoding" "utf-8"))
      = .error failure →
    result.2.files = w.files
  /-- A run that succeeds has written what is left of the source as it was before the run. -/
  written : Command.exitStatus result.1 = 0 → a.isOn "help" false = false →
    a.text "output" "" ≠ "" → ∃ path t, a.positional = [path] ∧
      readSource w.decoders w.files path (RawText.ofString (a.text "encoding" "utf-8")) = .ok t ∧
      result.2.files.Contains (a.text "output" "")
        (Utf8.encode (sanitize (LineMode.ofSwitch (a.isOn "preserve-lines" false)) t))
  /-- However a run ends, the files are as they were, or the output holds a beginning of that. -/
  started : result.2.files = w.files ∨ ∃ path t taken, a.positional = [path] ∧
    readSource w.decoders w.files path (RawText.ofString (a.text "encoding" "utf-8")) = .ok t ∧
    taken <+: Utf8.encode (sanitize (LineMode.ofSwitch (a.isOn "preserve-lines" false)) t) ∧
    result.2.files.Contains (a.text "output" "") taken

namespace SanitizeEffects

variable {a : Arguments} {w : World} {result : Option CommandError × World}

/-- A run that ends before the command acts has all of these effects, as it has none. -/
theorem of_files_eq (h : result.2.files = w.files)
    (hfails : a.isOn "help" false = false → result.1 ≠ none) : SanitizeEffects a w result where
  idle := fun _ => h
  noOutput := fun _ => h
  onlyOutput := fun _ _ => by rw [h]
  noSource := fun _ _ _ _ => h
  written := fun hstatus hhelp =>
    absurd (Command.eq_none_of_exitStatus hstatus) (hfails hhelp)
  started := .inl h

/-- **The command has them when it acts.** -/
theorem of_act {w₀ : World} (hfiles : w₀.files = w.files) (hdecoders : w₀.decoders = w.decoders)
    (hhelp : a.isOn "help" false = false) (hlength : a.positional.length = 1)
    (herror : result.1 = ((Command.sanitize.act a).runOn w₀).1)
    (hafter : result.2.files = ((Command.sanitize.act a).runOn w₀).2.files) :
    SanitizeEffects a w result := by
  obtain ⟨path, hpath⟩ := List.length_eq_one_iff.mp hlength
  let r := SanitizeRequest.ofArguments a
  have hpath' : r.path = path := by
    show a.positional.headD "" = path
    rw [hpath]
    rfl
  have hact : (Command.sanitize.act a).runOn w₀ = r.act.runOn w₀ := rfl
  rw [hact] at herror hafter
  have heffect := SanitizeRequest.files_runOn_act r w₀
  rw [← hafter, hpath', hfiles, hdecoders] at heffect
  refine ⟨fun h => ?_, fun h => ?_, fun place h => ?_, fun path' failure hpath'' h => ?_,
    fun hstatus _ hout => ?_, ?_⟩
  · obtain h | h := h
    · rw [hhelp] at h
      cases h
    · exact absurd hlength h
  · rw [hafter, SanitizeRequest.files_runOn_act_of_no_output h, hfiles]
  · obtain hsame | ⟨t, loc, taken, -, hleads, hrewrites, -⟩ := heffect
    · rw [hsame]
    · refine hrewrites.others place ?_
      rintro rfl
      exact h hleads
  · obtain rfl : path = path' := by simpa [hpath] using hpath''
    rw [hafter, SanitizeRequest.runOn_act_of_source_error (f := failure), hfiles]
    rw [hpath', hfiles, hdecoders]
    exact h
  · have hnone : (r.act.runOn w₀).1 = none :=
      herror ▸ Command.eq_none_of_exitStatus hstatus
    obtain ⟨t, ht, hwrite⟩ := SanitizeRequest.exists_written hnone hout
    obtain ⟨loc, hrewrites, hleads⟩ := FileTree.rewrites_of_write hwrite
    rw [hpath', hfiles, hdecoders] at ht
    rw [hafter]
    exact ⟨path, t, hpath, ht, hrewrites.contains hleads⟩
  · obtain hsame | ⟨t, loc, taken, ht, hleads, hrewrites, htaken⟩ := heffect
    · exact .inl hsame
    · exact .inr ⟨path, t, taken, hpath, ht, htaken, hrewrites.contains hleads⟩

end SanitizeEffects

/-! ## Every run -/

/-- **What a run does to the files**, whatever the arguments are and whatever there is. -/
structure FileEffects (arguments : List String) (w : World) : Prop where
  /-- A name that is no command's changes nothing. -/
  unknown : ∀ typed, Command.select arguments = .unknown typed →
    (Command.run arguments w).2.files = w.files
  /-- A check changes nothing, and neither does showing the version, or help. -/
  others : ∀ c rest, Command.select arguments = .command c rest → c ≠ .sanitize →
    (Command.run arguments w).2.files = w.files
  /-- Flags that cannot be read change nothing. -/
  unread : ∀ rest e, Command.select arguments = .command .sanitize rest →
    Arguments.parse Command.sanitize.flags rest = .error e →
    (Command.run arguments w).2.files = w.files
  sanitizes : ∀ rest a, Command.select arguments = .command .sanitize rest →
    Arguments.parse Command.sanitize.flags rest = .ok a →
    SanitizeEffects a w (Command.run arguments w)

/-- **Runs change no file but the one that sanitizing is told to write**, and that one only to hold
what is left of a source that was read before. -/
theorem run_file_effects (arguments : List String) (w : World) : FileEffects arguments w where
  unknown := by
    intro typed h
    unfold Command.run
    rw [h]
    rfl
  others := fun _ _ h hc => Command.files_run_of_ne h hc w
  unread := by
    intro rest e h hparse
    obtain ⟨result, hends, -, hfiles⟩ := exists_ends_of_select h w
    rw [hfiles]
    cases hends with
    | flag => rfl
    | help hok => exact absurd (hparse.symm.trans hok) (by simp)
    | operands hok => exact absurd (hparse.symm.trans hok) (by simp)
    | acts hok => exact absurd (hparse.symm.trans hok) (by simp)
  sanitizes := by
    intro rest a h hparse
    obtain ⟨result, hends, herror, hfiles⟩ := exists_ends_of_select h w
    cases hends with
    | flag hbad => exact absurd (hparse.symm.trans hbad) (by simp)
    | help hok hasked =>
      obtain rfl := Except.ok.inj (hparse.symm.trans hok)
      obtain hasked | hidle := hasked
      · exact .of_files_eq hfiles fun hnot => absurd (hasked.symm.trans hnot) (by decide)
      · cases hidle
    | operands hok =>
      exact .of_files_eq hfiles fun _ => by
        rw [herror]
        simp
    | acts hok hhelp hcount =>
      obtain rfl := Except.ok.inj (hparse.symm.trans hok)
      exact .of_act (files_worldOf a w) (decoders_worldOf a w) hhelp (hcount 1 rfl) herror hfiles

/-- A file is sanitized onto itself. -/
def FileRun.ontoItself : FileRun .sanitize where
  arguments := ["sanitize", "-o", "a.c", "a.c"]
  given := ⟨[("output", .text "a.c")], ["a.c"]⟩
  path := "a.c"
  world :=
    { files := { nodes := [(["a.c"], .file (Utf8.encode ['(', '/', '*', ')', '*', '/']))] }
      environment := []
      clock := ⟨"", "", "", ""⟩ }
  asks := ⟨rfl, ⟨["-o", "a.c", "a.c"], by with_unfolding_all rfl, by with_unfolding_all rfl⟩, rfl,
    by decide, by decide⟩

theorem FileRun.request_ontoItself :
    SanitizeRequest.ofArguments ontoItself.given = { path := "a.c", output := "a.c" } := by
  with_unfolding_all rfl

theorem FileRun.readSource_ontoItself :
    readSource ontoItself.world.decoders ontoItself.world.files "a.c" (RawText.ofString "utf-8")
      = .ok ['(', '/', '*', ')', '*', '/'] := by
  have hbytes : ontoItself.world.files.read "a.c"
      = .ok (Utf8.encode ['(', '/', '*', ')', '*', '/']) := by
    with_unfolding_all rfl
  rw [readSource_of_read hbytes]
  exact decodeSource_encode (by decide) _

/-- What was in the file before the run is read, and what is left of it replaces it. -/
theorem run_file_effects_onto_itself :
    Command.exitStatus FileRun.ontoItself.result.1 = 0 ∧
      FileRun.ontoItself.result.2.files.Contains "a.c" (Utf8.encode ['(']) := by
  have hoff : FileRun.ontoItself.given.isOn "help" false = false := by decide
  have houtput : FileRun.ontoItself.given.text "output" "" = "a.c" :=
    congrArg SanitizeRequest.output FileRun.request_ontoItself
  have hleft : sanitize .drop ['(', '/', '*', ')', '*', '/'] = ['('] := by decide +kernel
  have hstatus : Command.exitStatus FileRun.ontoItself.result.1 = 0 := by
    have hends := FileRun.ontoItself.result_of_write FileRun.request_ontoItself
      FileRun.readSource_ontoItself (by decide)
      (show _ = (none, FileTree.put _ ["a.c"] _) by with_unfolding_all rfl)
    rw [hends.1]
    rfl
  obtain ⟨rest, hselect, hparse⟩ := FileRun.ontoItself.asks.selected
  obtain ⟨path, t, hpath, ht, hholds⟩ :=
    ((run_file_effects _ _).sanitizes rest _ hselect hparse).written hstatus hoff
      (by rw [houtput]; decide)
  cases hpath
  obtain rfl := Except.ok.inj (FileRun.readSource_ontoItself.symm.trans ht)
  rw [show LineMode.ofSwitch _ = .drop from rfl, hleft, houtput] at hholds
  exact ⟨hstatus, hholds⟩

end Nesting
