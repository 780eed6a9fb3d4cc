import Nesting.Command

/-!
# Runs of the commands on files

A run goes through stages, and each of them ends it or hands on to the next one: the command is
selected, its flags are read, its arguments are counted, and then it acts. `run_eq_of_asks` takes a
run that asks for something sensible to what the command does; all that the outer stages add is a
line of the log.

A `FileRun` is such a run, with the world that it starts from. What a command does is a computation
on that world. One equation for each primitive of such computations says how a run goes on behind
it, and the two commands that read files are followed by these equations alone. A check ends in its
configuration, in its source, in the writing of the report, or behind it; sanitizing into a file
ends in its source, or as the writing of the file ends.
-/

namespace Nesting

theorem World.out_note (w : World) (text : String) : (w.note text).out = w.out :=
  rfl

/-! ## Primitives -/

namespace Act

variable {ε α β : Type}

/-- A run goes on with what the first part of it leaves. -/
theorem runOn_bind_of_ok {act : Act α} {a : α} {w w' : World} (h : act.run w = .ok a w')
    (f : α → Act β) : (act >>= f).runOn w = (f a).runOn w' := by
  have hrun : (act >>= f).run w = (f a).run w' := by
    show EStateM.bind act f w = _
    unfold EStateM.bind
    rw [show act w = .ok a w' from h]
    rfl
  unfold runOn
  rw [hrun]

theorem runOn_bind_of_error {act : Act α} {e : CommandError} {w w' : World}
    (h : act.run w = .error e w') (f : α → Act β) : (act >>= f).runOn w = (some e, w') := by
  have hrun : (act >>= f).run w = .error e w' := by
    show EStateM.bind act f w = _
    unfold EStateM.bind
    rw [show act w = .error e w' from h]
  unfold runOn
  rw [hrun]

theorem runOn_get (f : World → Act β) (w : World) :
    ((get : Act World) >>= f).runOn w = (f w).runOn w :=
  rfl

theorem runOn_require_ok (error : ε → CommandError) (a : α) (f : α → Act β) (w : World) :
    (require error (.ok a) >>= f).runOn w = (f a).runOn w :=
  rfl

theorem runOn_require_error (error : ε → CommandError) (e : ε) (f : α → Act β) (w : World) :
    (require error (.error e) >>= f).runOn w = (some (error e), w) :=
  rfl

theorem runOn_note (text : String) (f : Unit → Act β) (w : World) :
    (note text >>= f).runOn w = (f ()).runOn (w.note text) :=
  rfl

/-- A rendering that ends early ends the command. -/
theorem runOn_write (out : Writing Unit) (f : Unit → Act β) (w : World) :
    (write out >>= f).runOn w =
      match out.runOn w.out with
      | (none, s) => (f ()).runOn { w with out := s }
      | (some fault, s) => (some (.fault fault), { w with out := s }) := by
  cases hout : out.runOn w.out with
  | mk fault s =>
    cases fault with
    | none =>
      refine runOn_bind_of_ok ?_ f
      show write out w = _
      unfold write
      rw [hout]
    | some fault =>
      refine runOn_bind_of_error ?_ f
      show write out w = _
      unfold write
      rw [hout]

end Act

/-! ## From the arguments to what a command does -/

namespace Command

/-- **Arguments ask a command to act on a file**: they select the command, their flags can be read,
and one argument is left. They ask neither for help nor for the version. -/
structure Asks (c : Command) (arguments : List String) (a : Arguments) (path : String) : Prop where
  /-- The command takes one file. -/
  takesFile : c.operandCount? = some 1
  selected : ∃ rest, select arguments = .command c rest ∧ Arguments.parse c.flags rest = .ok a
  operand : a.positional = [path]
  noHelp : a.isOn "help" false = false
  noVersion : a.isOn "show-version" false = false

variable {c : Command} {arguments : List String} {a : Arguments} {path : String}

theorem Asks.runOn_execute {rest : List String} (h : c.Asks arguments a path)
    (hparse : Arguments.parse c.flags rest = .ok a) (w : World) :
    (c.execute rest).runOn w = (c.act a).runOn w := by
  have hrunnable : c.isRunnable = true := by
    have hfile := h.takesFile
    revert hfile
    cases c <;> decide
  have hoperands : c.requireOperands a = pure () := by
    unfold requireOperands
    rw [h.takesFile, h.operand]
    rfl
  have hversion : (Logging.ofArguments a).showVersion = false := h.noVersion
  unfold execute
  rw [hparse, Act.runOn_require_ok, h.noHelp, hrunnable, hoperands, hversion]
  rfl

/-- **A run does what its command does**, and if that fails, says so in the log. -/
theorem run_eq_of_asks (h : c.Asks arguments a path) (w : World) :
    ∃ log, run arguments w = (((c.act a).runOn w).1, { ((c.act a).runOn w).2 with log }) := by
  have hquiet : c.hidesUsage = true := by
    have hfile := h.takesFile
    revert hfile
    cases c <;> decide
  obtain ⟨rest, hselect, hparse⟩ := h.selected
  unfold run
  rw [hselect]
  dsimp only
  rw [h.runOn_execute hparse w]
  cases (c.act a).runOn w with
  | mk error after =>
    cases error with
    | none => exact ⟨after.log, rfl⟩
    | some e =>
      dsimp only
      rw [hquiet]
      exact ⟨_, rfl⟩

/-- The world in which a command acts: a line with the version may have been written already. -/
def worldOf (a : Arguments) (w : World) : World :=
  if (Logging.ofArguments a).showVersion then w.offer [versionLine] else w

theorem files_worldOf (a : Arguments) (w : World) : (worldOf a w).files = w.files := by
  unfold worldOf
  split <;> rfl

theorem decoders_worldOf (a : Arguments) (w : World) : (worldOf a w).decoders = w.decoders := by
  unfold worldOf
  split <;> rfl

/-- **How a command can end on its arguments.** -/
inductive Ends (c : Command) (rest : List String) (w : World) : Option CommandError × World → Prop
  /-- A flag is wrong. -/
  | flag {e : FlagError} : Arguments.parse c.flags rest = .error e →
      Ends c rest w (some (.flag e), w)
  /-- Help is shown. -/
  | help {a : Arguments} : Arguments.parse c.flags rest = .ok a →
      a.isOn "help" false = true ∨ c.isRunnable = false → Ends c rest w (none, w.offer c.helpPieces)
  /-- There are too many arguments, or too few. -/
  | operands {a : Arguments} {n : Nat} : Arguments.parse c.flags rest = .ok a →
      c.operandCount? = some n → a.positional.length ≠ n →
      Ends c rest w (some (.operands n a.positional.length), w)
  /-- The command acts. -/
  | acts {a : Arguments} : Arguments.parse c.flags rest = .ok a → a.isOn "help" false = false →
      (∀ n, c.operandCount? = some n → a.positional.length = n) →
      Ends c rest w ((c.act a).runOn (worldOf a w))

theorem requireOperands_cases (c : Command) (a : Arguments) :
    (∀ n, c.operandCount? = some n → a.positional.length = n) ∧ c.requireOperands a = pure () ∨
      ∃ n, c.operandCount? = some n ∧ a.positional.length ≠ n ∧
        c.requireOperands a = throw (.operands n a.positional.length) := by
  unfold requireOperands
  cases c.operandCount? with
  | none => exact .inl ⟨by simp, rfl⟩
  | some n =>
    by_cases hlength : a.positional.length = n
    · exact .inl ⟨by simp [hlength], if_pos hlength⟩
    · exact .inr ⟨n, rfl, hlength, if_neg hlength⟩

/-- **A command ends before it acts, or as what it does ends.** -/
theorem ends_execute (c : Command) (rest : List String) (w : World) :
    Ends c rest w ((c.execute rest).runOn w) := by
  unfold execute
  cases hparse : Arguments.parse c.flags rest with
  | error e =>
    rw [Act.runOn_require_error]
    exact .flag hparse
  | ok a =>
    rw [Act.runOn_require_ok]
    cases hhelp : a.isOn "help" false || !c.isRunnable with
    | true =>
      refine .help hparse ?_
      simpa using hhelp
    | false =>
      obtain ⟨hhelp, -⟩ := Bool.or_eq_false_iff.mp hhelp
      have hversion : ((do
          if (Logging.ofArguments a).showVersion then Act.offer [versionLine]
          c.act a : Act Unit)).runOn w = (c.act a).runOn (worldOf a w) := by
        unfold worldOf
        cases (Logging.ofArguments a).showVersion <;> rfl
      obtain ⟨hlength, hpass⟩ | ⟨n, hcount, hlength, hthrow⟩ := requireOperands_cases c a
      · have hact : Ends c rest w ((c.act a).runOn (worldOf a w)) := .acts hparse hhelp hlength
        rw [← hversion] at hact
        rw [hpass]
        exact hact
      · rw [hthrow]
        exact .operands hparse hcount hlength

/-- **A run ends as its command does**; what it adds concerns the log and the output only. -/
theorem exists_ends_of_select {rest : List String} (h : select arguments = .command c rest)
    (w : World) :
    ∃ result, Ends c rest w result ∧ (run arguments w).1 = result.1 ∧
      (run arguments w).2.files = result.2.files := by
  refine ⟨_, ends_execute c rest w, ?_⟩
  unfold run
  rw [h]
  dsimp only
  cases (c.execute rest).runOn w with
  | mk error after =>
    cases error with
    | none => exact ⟨rfl, rfl⟩
    | some e =>
      dsimp only
      cases c.hidesUsage with
      | true => exact ⟨rfl, rfl⟩
      | false => exact ⟨rfl, rfl⟩

end Command

/-- **A run of a command on a file.** -/
structure FileRun (c : Command) where
  arguments : List String
  /-- The arguments as they are read. -/
  given : Arguments
  path : String
  /-- The world before the run. -/
  world : World
  asks : c.Asks arguments given path

namespace FileRun

variable {c : Command}

/-- The error that a run ends with, if any, and the world after it. -/
def result (run : FileRun c) : Option CommandError × World :=
  Command.run run.arguments run.world

/-- What the command does in a run. -/
def action (run : FileRun c) : Option CommandError × World :=
  (c.act run.given).runOn run.world

theorem error_result (run : FileRun c) : run.result.1 = run.action.1 := by
  obtain ⟨log, hrun⟩ := Command.run_eq_of_asks run.asks run.world
  unfold result
  rw [hrun]
  rfl

theorem out_result (run : FileRun c) : run.result.2.out = run.action.2.out := by
  obtain ⟨log, hrun⟩ := Command.run_eq_of_asks run.asks run.world
  unfold result
  rw [hrun]
  rfl

theorem files_result (run : FileRun c) : run.result.2.files = run.action.2.files := by
  obtain ⟨log, hrun⟩ := Command.run_eq_of_asks run.asks run.world
  unfold result
  rw [hrun]
  rfl

end FileRun

/-! ## Checking -/

namespace CheckRequest

variable {r : CheckRequest} {w : World} {c : Config} {t : Text} {scanner : Scanner}

/-- How a check ends once its report is written. -/
def ending (c : Config) (report : Report) : Option CommandError :=
  if c.exitCode then
    match report.failure? with
    | .ok failure => failure.map .failure
    | .error fault => some (.fault fault)
  else none

/-- The last step of a check. -/
def finish (c : Config) (report : Report) : Act Unit :=
  if c.exitCode then do
    match ← Act.require .fault report.failure? with
    | some failure => throw (.failure failure)
    | none => pure ()
  else pure ()

theorem runOn_finish (c : Config) (report : Report) (w : World) :
    (finish c report).runOn w = (ending c report, w) := by
  unfold finish ending
  cases c.exitCode with
  | false => rfl
  | true =>
    rw [if_pos rfl, if_pos rfl]
    cases report.failure? with
    | error fault => rfl
    | ok failure =>
      rw [Act.runOn_require_ok]
      cases failure with
      | none => rfl
      | some failure => rfl

theorem runOn_act_of_config_error {e : ConfigError} (h : r.config w = .error e) :
    r.act.runOn w = (some (.config e), w) := by
  unfold act
  rw [Act.runOn_get, h, Act.runOn_require_error]

theorem runOn_act_of_source_error {f : Failure} (hc : r.config w = .ok c)
    (h : readSource w.decoders w.files r.path c.encoding = .error f) :
    r.act.runOn w = (some (.failure f), w) := by
  unfold act
  rw [Act.runOn_get, hc, Act.runOn_require_ok, h, Act.runOn_require_error]

/-- **A check that has its text writes the report and then ends.** -/
theorem runOn_act_of_source (hc : r.config w = .ok c)
    (ht : readSource w.decoders w.files r.path c.encoding = .ok t)
    (hs : checker r.path (LineMode.ofSwitch c.preserveLines) t c.settings = .ok scanner) :
    ∃ log, r.act.runOn w =
      match (rendering c scanner.text scanner.scan.1).runOn w.out with
      | (none, s) => (ending c scanner.scan.1, { w with out := s, log })
      | (some fault, s) => (some (.fault fault), { w with out := s, log }) := by
  unfold act
  rw [Act.runOn_get, hc, Act.runOn_require_ok, ht, Act.runOn_require_ok]
  dsimp only
  rw [hs, Act.runOn_require_ok, Act.runOn_note, Act.runOn_write, World.out_note]
  cases (rendering c scanner.text scanner.scan.1).runOn w.out with
  | mk fault s =>
    cases fault with
    | some fault => exact ⟨_, rfl⟩
    | none =>
      -- with or without a line on how it went, what is left is the last step
      cases (r.logging.verbose && !r.logging.quiet) with
      | false => exact ⟨_, runOn_finish c scanner.scan.1 _⟩
      | true => exact ⟨_, runOn_finish c scanner.scan.1 _⟩

end CheckRequest

/-! ## Sanitizing -/

namespace SanitizeRequest

variable {r : SanitizeRequest} {w : World} {t : Text}

theorem runOn_act_of_source_error {f : Failure}
    (h : readSource w.decoders w.files r.path r.encoding = .error f) :
    r.act.runOn w = (some (.failure f), w) := by
  unfold act
  rw [Act.runOn_get, h, Act.runOn_require_error]

/-- **Sanitizing into a file that has its text writes the file**, and ends as the writing does. -/
theorem runOn_act_of_source (ht : readSource w.decoders w.files r.path r.encoding = .ok t)
    (hout : r.output ≠ "") {error? : Option FileError} {files : FileTree}
    (h : w.files.write r.output (Utf8.encode (sanitize r.mode t)) = (error?, files)) :
    ∃ log, r.act.runOn w = (error?.map fun e => .failure (.file e), { w with files, log }) := by
  unfold act
  rw [Act.runOn_get, ht, Act.runOn_require_ok]
  dsimp only
  rw [if_neg hout, h]
  cases error? with
  | none => exact ⟨_, rfl⟩
  | some e => exact ⟨_, rfl⟩

/-- **Sanitizing into a file that succeeds** has read a text and has written what is left of it. -/
theorem exists_written (h : (r.act.runOn w).1 = none) (hout : r.output ≠ "") :
    ∃ t, readSource w.decoders w.files r.path r.encoding = .ok t ∧
      w.files.write r.output (Utf8.encode (sanitize r.mode t))
        = (none, (r.act.runOn w).2.files) := by
  cases ht : readSource w.decoders w.files r.path r.encoding with
  | error f =>
    rw [runOn_act_of_source_error ht] at h
    cases h
  | ok t =>
    cases hwrite : w.files.write r.output (Utf8.encode (sanitize r.mode t)) with
    | mk error? files =>
      obtain ⟨log, hrun⟩ := runOn_act_of_source ht hout hwrite
      rw [hrun] at h ⊢
      cases error? with
      | none => exact ⟨t, rfl, hwrite⟩
      | some e => cases h

end SanitizeRequest

/-- **A run that sanitizes a text into a file ends as the writing of the file does.** -/
theorem FileRun.result_of_write (run : FileRun .sanitize) {r : SanitizeRequest} {t : Text}
    {error? : Option FileError} {files : FileTree}
    (hr : SanitizeRequest.ofArguments run.given = r)
    (ht : readSource run.world.decoders run.world.files r.path r.encoding = .ok t)
    (hout : r.output ≠ "")
    (h : run.world.files.write r.output (Utf8.encode (sanitize r.mode t)) = (error?, files)) :
    run.result.1 = error?.map (fun e => .failure (.file e)) ∧ run.result.2.files = files := by
  subst hr
  obtain ⟨log, hact⟩ := SanitizeRequest.runOn_act_of_source ht hout h
  rw [run.error_result, run.files_result]
  exact ⟨congrArg Prod.fst hact, congrArg (fun result => result.2.files) hact⟩

end Nesting
