import Nesting.Proofs.CheckCommand

/-!
# Configurations that scanners accept

A configuration is checked when it is made, and its settings are checked once more when a scanner is
made from them. The two checks are written apart: the first one looks at the numbers and at the
format, the second one at one number after the other as it is set. They agree on the numbers, and
they find the same one at fault (`Config.ofSettings_settings_eq`). So whatever the sources of a
configuration say, in whatever form they say it, the scanner of a check is never refused.

The numbers of a configuration that is made are words, too, whether they were read from a text,
wrapped around, or cut off a fraction.
-/

namespace Nesting

/-! ## Numbers that are words -/

/-- **An integer is a word.** -/
def Word.Contains (n : Int) : Prop :=
  least ≤ n ∧ n ≤ greatest

instance : DecidablePred Word.Contains :=
  fun _ => inferInstanceAs (Decidable (_ ∧ _))

theorem Word.contains_wrap (n : Int) : Contains (wrap n) := by
  unfold Contains wrap count least greatest
  have hle := Int.le_bmod (x := n) (m := 0x10000000000000000) (by decide)
  have hlt := Int.bmod_lt (x := n) (m := 0x10000000000000000) (by decide)
  constructor <;> omega

theorem Literal.contains_of_signed {negative : Bool} {n : Nat} {w : Int}
    (h : signed negative n = .ok w) : Word.Contains w := by
  unfold signed at h
  split at h
  · split at h
    · cases h
    · cases h
      unfold Word.Contains Word.least Word.greatest at *
      omega
  · split at h
    · cases h
    · cases h
      unfold Word.Contains Word.least Word.greatest at *
      omega

theorem contains_of_readInteger {r : RawText} {n : Int} (h : readInteger r = .ok n) :
    Word.Contains n := by
  unfold readInteger at h
  split at h
  · rename_i m hm
    cases h
    unfold Literal.integer at hm
    dsimp only at hm
    split at hm
    · cases hm
    · exact Literal.contains_of_signed hm
  · cases h

theorem Binary64.contains_truncate (x : Binary64) : Word.Contains x.truncate := by
  have hleast : Word.Contains Word.least := by decide
  unfold truncate
  split
  · dsimp only
    split
    · rename_i hw
      exact Literal.contains_of_signed hw
    · exact hleast
  · exact hleast

/-- **A value is read as a word**, whatever kind of value it is. -/
theorem Value.contains_of_toInteger {v : Value} {key : Key} {n : Int}
    (h : v.toInteger key = .ok n) : Word.Contains n := by
  unfold toInteger at h
  split at h
  · cases h
    decide
  · cases h
    split <;> decide
  · cases h
    exact Word.contains_wrap _
  · cases h
    exact Binary64.contains_truncate _
  · split at h
    · cases h
      decide
    · split at h
      · rename_i hn
        cases h
        exact contains_of_readInteger hn
      · cases h
  · cases h

namespace Config

variable {s : Sources} {c : Config}

theorem contains_of_field {value? : Key → Option Value} {key : Key} {n : Int}
    (h : field 0 Value.toInteger value? key = .ok n) : Word.Contains n := by
  unfold field at h
  split at h
  · cases h
    decide
  · exact Value.contains_of_toInteger h

/-! ## The two checks -/

/-- **A configuration with a known format has a fault exactly if a scanner refuses its
settings.** -/
theorem exists_fault_iff
    (h : c.format = RawText.ofString textFormat ∨ c.format = RawText.ofString diagnosticFormat)
    (name : String) (t : Text) :
    (∃ fault, c.fault? = some fault) ↔ ∃ e, Scanner.ofSettings name t c.settings = .error e := by
  have hknown : ∀ format, c.fault? ≠ some (.unknownFormat format) := by
    intro format
    unfold fault?
    rw [if_pos h]
    split
    · simp
    · split <;> simp
  unfold Scanner.ofSettings
  rw [ofSettings_settings_eq]
  cases hfault : c.fault? with
  | none => simp
  | some fault =>
    cases fault with
    | negativeRadius => simp [refusal?]
    | negativeTail => simp [refusal?]
    | unknownFormat format => exact absurd hfault (hknown format)

/-! ## Configurations that are made -/

/-- **A configuration is accepted downstream**: its numbers are words that are not negative, its
format is known, and every scanner takes its settings as they are. -/
structure Accepted (c : Config) : Prop where
  radius : 0 ≤ c.contextRadius ∧ c.contextRadius ≤ Word.greatest
  tail : 0 ≤ c.stackTail ∧ c.stackTail ≤ Word.greatest
  format : c.format = RawText.ofString textFormat ∨ c.format = RawText.ofString diagnosticFormat
  scanner : ∀ name t, ∃ scanner, Scanner.ofSettings name t c.settings = .ok scanner ∧
    scanner.name = name ∧ scanner.text = t ∧
    (scanner.options.contextRadius : Int) = c.contextRadius ∧
    (scanner.options.stackTail : Int) = c.stackTail

theorem accepted_of_ofSources (h : ofSources s = .ok c) : c.Accepted := by
  obtain ⟨hdecode, hfault⟩ := ofSources_eq_ok_iff.mp h
  obtain ⟨hradius, htail, -⟩ := decode_eq_ok_iff.mp hdecode
  obtain ⟨hradius', htail', hformat⟩ := fault?_eq_none_iff.mp hfault
  refine ⟨⟨hradius', (contains_of_field hradius).2⟩, ⟨htail', (contains_of_field htail).2⟩, hformat,
    fun name t => ?_⟩
  refine ⟨{ name, text := t, options := ⟨c.contextRadius.toNat, c.stackTail.toNat⟩ }, ?_, rfl, rfl,
    Int.toNat_of_nonneg hradius', Int.toNat_of_nonneg htail'⟩
  unfold Scanner.ofSettings
  rw [ofSettings_settings hfault]

theorem accepted_of_load {order : FieldOrder} {files : FileTree} {path : String}
    {environment : List (String × String)} {assigned : Table} {flags : Key → Option Value}
    (h : load order files path environment assigned flags = .ok c) : c.Accepted := by
  obtain ⟨file, -, hsources⟩ := load_eq_ok_iff.mp h
  exact accepted_of_ofSources (ofSources_eq_ok_iff.mpr hsources)

end Config

/-- **No run of a check ends in a refused setting.** -/
theorem run_check_ne_setting {arguments rest : List String}
    (h : Command.select arguments = .command .check rest) (w : World) (e : SettingError) :
    (Command.run arguments w).1 ≠ some (.setting e) := by
  obtain ⟨result, hends, herror, -⟩ := Command.exists_ends_of_select h w
  rw [herror]
  cases hends with
  | flag => simp
  | help => simp
  | operands => simp
  | @acts a _ _ _ =>
    obtain ⟨error, out, log, hact, hne⟩ :=
      (CheckRequest.ofArguments a).exists_runOn_act (Command.worldOf a w)
    rw [show (Command.check.act a).runOn _ = (CheckRequest.ofArguments a).act.runOn _ from rfl,
      hact]
    exact hne e

/-- **A configuration that is made is accepted downstream**, and the check of configurations and
that of settings agree. -/
theorem config_accepted_downstream :
    (∀ s c, Config.ofSources s = .ok c → c.Accepted) ∧
    (∀ order files path environment assigned flags c,
      Config.load order files path environment assigned flags = .ok c → c.Accepted) ∧
    (∀ arguments rest w e, Command.select arguments = .command .check rest →
      (Command.run arguments w).1 ≠ some (.setting e)) ∧
    ∀ (c : Config) (name : String) (t : Text),
      c.format = RawText.ofString textFormat ∨ c.format = RawText.ofString diagnosticFormat →
      ((∃ fault, c.fault? = some fault) ↔
        ∃ e, Scanner.ofSettings name t c.settings = .error e) :=
  ⟨fun _ _ => Config.accepted_of_ofSources, fun _ _ _ _ _ _ _ => Config.accepted_of_load,
    fun _ _ w e h => run_check_ne_setting h w e, fun _ name t h => Config.exists_fault_iff h name t⟩

/-- A radius in hexadecimal from the environment and a truth value as the tail: both become numbers,
and the scanner has them. -/
theorem config_accepted_downstream_hexadecimal :
    ∃ c, Config.load .listed {} "" [("BRACKETS_CONTEXT_RADIUS", "0x10")]
        [("stack_tail", .truth true)] (fun _ => none) = .ok c ∧
      c.contextRadius = 16 ∧ c.stackTail = 1 ∧ c.Accepted := by
  have hread : readInteger (RawText.ofString "0x10") = .ok 16 := by
    unfold readInteger
    rw [RawText.chars_ofString]
    rfl
  have hradius : Value.toInteger .contextRadius (.text (RawText.ofString "0x10")) = .ok 16 := by
    rw [Value.toInteger, if_neg (by decide), hread]
  have hload : Config.load .listed {} "" [("BRACKETS_CONTEXT_RADIUS", "0x10")]
      [("stack_tail", .truth true)] (fun _ => none) = .ok
        { contextRadius := 16, stackTail := 1, encoding := "utf-8", format := textFormat } :=
    Config.load_eq_ok_iff.mpr
      ⟨[], ConfigFile.load_of_search?_none rfl (by decide +kernel),
        Config.decode_eq_ok_iff.mpr ⟨hradius, rfl, rfl, rfl, rfl, rfl⟩, by decide⟩
  exact ⟨_, hload, rfl, rfl, config_accepted_downstream.2.1 _ _ _ _ _ _ _ hload⟩

end Nesting
