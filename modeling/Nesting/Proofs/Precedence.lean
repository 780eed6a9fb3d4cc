import Nesting.Command.Actions
import Nesting.Proofs.Decoding
import Nesting.Proofs.Expansion
import Nesting.Proofs.KeyCase

/-!
# Which source decides a setting

Five sources may say something about a key: the program itself, the flags of a check, the
environment, the configuration file and the defaults. The field of a key is read from the first of
them that has a value for it, and from nothing else. The environment is asked only for keys that are
registered, and the defaults register all of them. So what the sources say about one key bears on no
other key.

There is one way around that. A configuration file of assignments may call for environment
variables, those of the settings among them, so that a variable may change what the file says about
another key. Apart from that a file says the same in every load, as long as it does not spell a key
in more than one way: then it is not the file alone that decides which of the spellings counts.
-/

namespace Nesting

/-! ## Sources in their order -/

namespace Source

/-- The place of a source in the order of precedence; the first one is the strongest. -/
def rank : Source → Nat
  | .assigned => 0
  | .flag => 1
  | .environment => 2
  | .file => 3
  | .default => 4

theorem mem_order (source : Source) : source ∈ order := by
  cases source <;> decide

theorem rank_injective {source source' : Source} (h : source.rank = source'.rank) :
    source = source' := by
  revert h
  cases source <;> cases source' <;> decide

theorem pairwise_order : order.Pairwise fun a b => a.rank < b.rank := by
  decide

/-- The sources that are asked before another one are those in front of it by rank. -/
theorem mem_iff_rank_lt {before after : List Source} {source earlier : Source}
    (h : order = before ++ source :: after) : earlier ∈ before ↔ earlier.rank < source.rank := by
  obtain ⟨-, hafter, hbefore⟩ := List.pairwise_append.mp (h ▸ pairwise_order)
  constructor
  · exact fun hearlier => hbefore earlier hearlier source List.mem_cons_self
  · intro hrank
    have hmem : earlier ∈ before ++ source :: after := h ▸ earlier.mem_order
    rcases List.mem_append.mp hmem with hearlier | hlater
    · exact hearlier
    · rcases List.mem_cons.mp hlater with rfl | hlater
      · exact absurd hrank (Nat.lt_irrefl _)
      · exact absurd (List.rel_of_pairwise_cons hafter hlater) (Nat.lt_asymm hrank)

end Source

theorem Value.present?_eq_some_iff {v w : Value} : v.present? = some w ↔ v = w ∧ w ≠ .null := by
  unfold present?
  split
  · exact iff_of_false (fun h => by cases h) fun h => h.2 h.1.symm
  · rename_i hne
    rw [Option.some.injEq]
    exact ⟨fun h => ⟨h, h ▸ hne⟩, fun h => h.1⟩

namespace Config

/-- **There is a default for every key.** -/
theorem exists_default (k : Key) : ∃ v, defaults k = some v := by
  cases k <;> exact ⟨_, rfl⟩

/-- **The field of a key is read from a value.** -/
def Reads (c : Config) (v : Value) : Key → Prop
  | .contextRadius => v.toInteger .contextRadius = .ok c.contextRadius
  | .stackTail => v.toInteger .stackTail = .ok c.stackTail
  | .encoding => v.toText .encoding = .ok c.encoding
  | .preserveLines => v.toTruth .preserveLines = .ok c.preserveLines
  | .format => v.toText .format = .ok c.format
  | .exitCode => v.toTruth .exitCode = .ok c.exitCode

/-- **Configurations agree on a key for which they are read from one value.** -/
theorem agree_of_reads {c c' : Config} {v : Value} {k : Key} (h : c.Reads v k) (h' : c'.Reads v k) :
    c.Agree c' k := by
  cases k <;> exact Except.ok.inj (h'.symm.trans h)

/-- No field can be read from a table. -/
theorem ne_table_of_reads {c : Config} {v : Value} {k : Key} (h : c.Reads v k)
    (fields : List (String × Value)) : v ≠ .table fields := by
  rintro rfl
  cases k <;> cases h

/-- **When every key has a value, a configuration is what the fields are read from them.** -/
theorem decode_eq_ok_iff_reads {value? : Key → Option Value} {c : Config}
    (h : ∀ k, ∃ v, value? k = some v) :
    decode value? = .ok c ↔ ∀ k, ∃ v, value? k = some v ∧ c.Reads v k := by
  choose value hvalue using h
  have hreads : (∀ k, ∃ v, value? k = some v ∧ c.Reads v k) ↔ ∀ k, c.Reads (value k) k :=
    forall_congr' fun k => by rw [hvalue k]; simp
  rw [hreads, decode_eq_ok_iff, field_of_some (hvalue .contextRadius),
    field_of_some (hvalue .stackTail), field_of_some (hvalue .encoding),
    field_of_some (hvalue .preserveLines), field_of_some (hvalue .format),
    field_of_some (hvalue .exitCode)]
  constructor
  · rintro ⟨hradius, htail, hencoding, hlines, hformat, hexit⟩ k
    cases k <;> assumption
  · exact fun h => ⟨h .contextRadius, h .stackTail, h .encoding, h .preserveLines, h .format,
      h .exitCode⟩

end Config

/-! ## Loading -/

/-- **What a configuration is loaded from.** -/
structure Loading where
  /-- How the fields of tables are gone through. -/
  order : FieldOrder := .listed
  files : FileTree := {}
  /-- The configuration file; none is named by no text. -/
  path : String := ""
  environment : List (String × String) := []
  /-- The values that the program sets itself, one after the other. -/
  assignments : List (String × Value) := []
  /-- The settings that are given as flags. -/
  flags : Key → Option Value := fun _ => none

namespace Loading

/-- The values in the configuration file. -/
def file (l : Loading) : Except ConfigError Table :=
  ConfigFile.load l.order l.files l.environment l.path

/-- The configuration that is loaded. -/
def config (l : Loading) : Except ConfigError Config :=
  Config.load l.order l.files l.path l.environment (Table.ofAssignments l.order l.assignments)
    l.flags

/-- What a check loads its configuration from. -/
def ofCheck (a : Arguments) (w : World) : Loading where
  order := w.order
  files := w.files
  path := a.text "config-file" ""
  environment := w.environment
  flags := fun k => a.value? k.flagName

/-- **A source has a value for a key.** Null is no value, and neither is an empty variable. -/
def Holds (l : Loading) (file : Table) (k : Key) (v : Value) : Source → Prop
  | .assigned => Assigns l.assignments k v ∧ v ≠ .null
  | .flag => l.flags k = some v
  | .environment => ∃ t, l.environment.lookup k.environmentName = some t ∧ t ≠ "" ∧ v = .text t
  | .file => file.find? k.name = some v ∧ v ≠ .null
  | .default => Config.defaults k = some v

/-- **A source decides a key**: it has a value, and no source before it has one. -/
def Decides (l : Loading) (file : Table) (k : Key) (source : Source) (v : Value) : Prop :=
  l.Holds file k v source ∧
    ∀ earlier : Source, earlier.rank < source.rank → ∀ w, ¬ l.Holds file k w earlier

/-- The sources of a load, with what the configuration file holds. -/
def sources (l : Loading) (file : Table) : Sources where
  assigned := Table.ofAssignments l.order l.assignments
  flags := l.flags
  environment := l.environment
  file := file
  defaults := Config.defaults

variable {l l' : Loading} {file file' : Table} {j k : Key} {v : Value} {source : Source}
  {c c' : Config}

/-- **Every key is registered**, since it has a default. -/
theorem isRegistered (l : Loading) (file : Table) (k : Key) :
    (l.sources file).isRegistered k = true := by
  obtain ⟨v, hv⟩ := Config.exists_default k
  exact Sources.isRegistered_of_default hv

/-- So the environment is asked for every key. -/
theorem offer_environment_eq_some_iff :
    (l.sources file).offer k .environment = some v ↔
      ∃ t, l.environment.lookup k.environmentName = some t ∧ t ≠ "" ∧ v = .text t := by
  unfold Sources.offer Sources.variableText?
  dsimp only
  rw [if_pos (l.isRegistered file k)]
  rw [Option.map_eq_some_iff]
  refine exists_congr fun t => ?_
  rw [Option.filter_eq_some_iff, and_assoc, decide_eq_true_eq, eq_comm (b := v)]
  rfl

theorem holds_of_offer (h : (l.sources file).offer k source = some v) :
    l.Holds file k v source := by
  cases source with
  | assigned =>
    obtain ⟨w, hw, hpresent⟩ := Option.bind_eq_some_iff.mp h
    obtain ⟨rfl, hne⟩ := Value.present?_eq_some_iff.mp hpresent
    exact ⟨Table.assigns_of_find? hw, hne⟩
  | flag => exact h
  | environment => exact offer_environment_eq_some_iff.mp h
  | file =>
    obtain ⟨w, hw, hpresent⟩ := Option.bind_eq_some_iff.mp h
    obtain ⟨rfl, hne⟩ := Value.present?_eq_some_iff.mp hpresent
    exact ⟨hw, hne⟩
  | default => exact h

/-- A source that has a value offers it, except that tables may have other fields. -/
theorem offer_of_holds (h : l.Holds file k v source) :
    (l.sources file).offer k source = some v ∨
      ∃ fields fields', v = .table fields ∧
        (l.sources file).offer k source = some (.table fields') := by
  cases source with
  | assigned =>
    obtain ⟨hassigns, hne⟩ := h
    obtain hfind | ⟨fields, fields', rfl, hfind⟩ := Table.find?_of_assigns hassigns
    · exact .inl (Option.bind_eq_some_iff.mpr
        ⟨v, hfind, Value.present?_eq_some_iff.mpr ⟨rfl, hne⟩⟩)
    · exact .inr ⟨fields, fields', rfl, Option.bind_eq_some_iff.mpr ⟨_, hfind, rfl⟩⟩
  | flag => exact .inl h
  | environment => exact .inl (offer_environment_eq_some_iff.mpr h)
  | file =>
    obtain ⟨hfind, hne⟩ := h
    exact .inl (Option.bind_eq_some_iff.mpr ⟨v, hfind, Value.present?_eq_some_iff.mpr ⟨rfl, hne⟩⟩)
  | default => exact .inl h

theorem offer_eq_none_iff :
    (l.sources file).offer k source = none ↔ ∀ v, ¬ l.Holds file k v source := by
  constructor
  · intro h v hv
    have hoffer := offer_of_holds hv
    rw [h] at hoffer
    obtain hnone | ⟨fields, fields', -, hnone⟩ := hoffer
    · cases hnone
    · cases hnone
  · intro h
    refine Option.eq_none_iff_forall_ne_some.mpr fun v hv => ?_
    exact h v (holds_of_offer hv)

theorem value?_eq_first? (l : Loading) (file : Table) (k : Key) :
    (l.sources file).value? k = (l.sources file).first? k := by
  obtain ⟨v, hv⟩ := Config.exists_default k
  obtain ⟨w, hfirst, hvalue⟩ :=
    Sources.exists_value?_of_default (show (l.sources file).defaults k = some v from hv)
  rw [hfirst, hvalue]

/-- **The value of a key is that of the source that decides it.** -/
theorem exists_decides_of_value? (h : (l.sources file).value? k = some v) :
    ∃ source, l.Decides file k source v := by
  rw [value?_eq_first?] at h
  obtain ⟨before, source, after, horder, hoffer, hnone⟩ := List.findSome?_eq_some_iff.mp h
  refine ⟨source, holds_of_offer hoffer, fun earlier hrank => ?_⟩
  exact offer_eq_none_iff.mp (hnone earlier ((Source.mem_iff_rank_lt horder).mpr hrank))

theorem value?_of_decides (h : l.Decides file k source v) (hv : ∀ fields, v ≠ .table fields) :
    (l.sources file).value? k = some v := by
  obtain ⟨hholds, hfirst⟩ := h
  obtain ⟨before, after, horder⟩ := List.append_of_mem source.mem_order
  rw [value?_eq_first?]
  refine List.findSome?_eq_some_iff.mpr ⟨before, source, after, horder, ?_, fun earlier hmem => ?_⟩
  · obtain hoffer | ⟨fields, -, heq, -⟩ := offer_of_holds hholds
    · exact hoffer
    · exact absurd heq (hv fields)
  · exact offer_eq_none_iff.mpr (hfirst earlier ((Source.mem_iff_rank_lt horder).mp hmem))

/-- **Some source decides**, since there is a default. -/
theorem exists_value? (l : Loading) (file : Table) (k : Key) :
    ∃ v, (l.sources file).value? k = some v := by
  obtain ⟨v, hv⟩ := Config.exists_default k
  obtain ⟨w, -, hvalue⟩ :=
    Sources.exists_value?_of_default (show (l.sources file).defaults k = some v from hv)
  exact ⟨w, hvalue⟩

/-- **One source decides, by one value**, except that tables may have other fields. -/
theorem Decides.unique {source' : Source} {v' : Value} (h : l.Decides file k source v)
    (h' : l.Decides file k source' v') :
    v = v' ∨ ∃ fields fields', v = .table fields ∧ v' = .table fields' := by
  obtain rfl : source = source' := by
    refine Source.rank_injective (Nat.le_antisymm (Nat.not_lt.mp fun hlt => ?_)
      (Nat.not_lt.mp fun hlt => ?_))
    · exact h.2 source' hlt v' h'.1
    · exact h'.2 source hlt v h.1
  have hholds := h.1
  have hholds' := h'.1
  cases source with
  | assigned => exact Table.eq_of_assigns hholds.1 hholds'.1
  | flag => exact .inl (Option.some.inj (hholds.symm.trans hholds'))
  | environment =>
    obtain ⟨t, ht, -, rfl⟩ := hholds
    obtain ⟨t', ht', -, rfl⟩ := hholds'
    exact .inl (by rw [Option.some.inj (ht.symm.trans ht')])
  | file => exact .inl (Option.some.inj (hholds.1.symm.trans hholds'.1))
  | default => exact .inl (Option.some.inj (hholds.symm.trans hholds'))

/-- **Every field is read from the value of the source that decides its key.** -/
theorem config_eq_ok_iff :
    l.config = .ok c ↔ ∃ file, l.file = .ok file ∧
      (∀ k, ∃ source v, l.Decides file k source v ∧ c.Reads v k) ∧ c.fault? = none := by
  have hload : l.config = .ok c ↔ ∃ file, l.file = .ok file ∧
      Config.decode (l.sources file).value? = .ok c ∧ c.fault? = none := Config.load_eq_ok_iff
  rw [hload]
  refine exists_congr fun file => and_congr_right fun _ => and_congr_left fun _ => ?_
  rw [Config.decode_eq_ok_iff_reads (l.exists_value? file)]
  refine forall_congr' fun k => ?_
  constructor
  · rintro ⟨v, hvalue, hreads⟩
    obtain ⟨source, hdecides⟩ := exists_decides_of_value? hvalue
    exact ⟨source, v, hdecides, hreads⟩
  · rintro ⟨source, v, hdecides, hreads⟩
    exact ⟨v, value?_of_decides hdecides (Config.ne_table_of_reads hreads), hreads⟩

/-! ## Loads that differ in one key -/

/-- **Two loads differ in one key only**: the sources say the same about every other key. -/
structure DifferOnlyIn (j : Key) (l l' : Loading) : Prop where
  assignments : (l'.assignments.filter fun a => ¬ j.Covers a.1)
    = l.assignments.filter fun a => ¬ j.Covers a.1
  flags : ∀ k, k ≠ j → l'.flags k = l.flags k
  environment : ∀ k : Key, k ≠ j →
    l'.environment.lookup k.environmentName = l.environment.lookup k.environmentName
  file : ∀ file file', l.file = .ok file → l'.file = .ok file' →
    ∀ k : Key, k ≠ j → file'.find? k.name = file.find? k.name

/-- **What the sources say about one key bears on no other key.** -/
theorem DifferOnlyIn.holds_iff (h : DifferOnlyIn j l l') (hne : k ≠ j) (hfile : l.file = .ok file)
    (hfile' : l'.file = .ok file') : l'.Holds file' k v source ↔ l.Holds file k v source := by
  cases source with
  | assigned => exact and_congr_left fun _ => assigns_iff_of_filter hne h.assignments
  | flag =>
    unfold Holds
    rw [h.flags k hne]
  | environment =>
    unfold Holds
    rw [h.environment k hne]
  | file =>
    unfold Holds
    rw [h.file file file' hfile hfile' k hne]
  | default => rfl

theorem DifferOnlyIn.agree (h : DifferOnlyIn j l l') (hne : k ≠ j) (hc : l.config = .ok c)
    (hc' : l'.config = .ok c') : c.Agree c' k := by
  obtain ⟨file, hfile, hdecided, -⟩ := config_eq_ok_iff.mp hc
  obtain ⟨file', hfile', hdecided', -⟩ := config_eq_ok_iff.mp hc'
  obtain ⟨source, v, hdecides, hreads⟩ := hdecided k
  obtain ⟨source', v', ⟨hholds', hfirst'⟩, hreads'⟩ := hdecided' k
  -- the source that decides in the second load decides in the first one as well
  have hdecides' : l.Decides file k source' v' := by
    refine ⟨(h.holds_iff hne hfile hfile').mp hholds', fun earlier hrank w hholds => ?_⟩
    exact hfirst' earlier hrank w ((h.holds_iff hne hfile hfile').mpr hholds)
  obtain rfl | ⟨fields, -, rfl, -⟩ := hdecides.unique hdecides'
  · exact Config.agree_of_reads hreads hreads'
  · exact absurd rfl (Config.ne_table_of_reads hreads fields)

end Loading

/-- **What decides the settings that are loaded.** -/
structure Precedence (l : Loading) : Prop where
  /-- The defaults register every key, so that the environment is asked for it. -/
  registered : ∀ file k, (l.sources file).isRegistered k = true
  /-- Some source decides each key. -/
  decided : ∀ file k, ∃ source v, l.Decides file k source v
  /-- A configuration is loaded if the configuration file can be, if every field can be read from
  the value of the source that decides its key, and if the configuration passes its check; and only
  then. -/
  loaded_iff : ∀ c, l.config = .ok c ↔ ∃ file, l.file = .ok file ∧
    (∀ k, ∃ source v, l.Decides file k source v ∧ c.Reads v k) ∧ c.fault? = none
  /-- The configuration file has a value for a key just when it spells the key in some way, and then
  it has the value of one of the spellings. -/
  spelt : ∀ file, l.file = .ok file → ∀ k : Key,
    (file.find? k.name = none ↔
      ∀ w, ¬ ConfigFile.Spells l.files l.environment l.path k.name w) ∧
    ∀ v, file.find? k.name = some v →
      ∃ w, ConfigFile.Spells l.files l.environment l.path k.name w ∧ v = w.lowerKeys l.order
  /-- What the sources say about one key changes no field but its own. -/
  others : ∀ l' j k c c', Loading.DifferOnlyIn j l l' → k ≠ j → l.config = .ok c →
    l'.config = .ok c' → c.Agree c' k
  /-- A configuration file says the same in every load, unless it calls for variables, or has keys
  that differ only in their case and is gone through in another order. -/
  file_eq : ∀ l' : Loading, l'.files = l.files → l'.path = l.path →
    (∀ consulted bytes, ConfigFile.Consulted l.files l.path consulted →
      l.files.read consulted = .ok bytes → ¬ ConfigFile.CallsForVariables consulted bytes) →
    (l'.order = l.order ∨ ∀ consulted bytes fields,
      ConfigFile.Consulted l.files l.path consulted → l.files.read consulted = .ok bytes →
      ConfigFile.document? l.environment consulted bytes = some fields →
      Value.Unambiguous (.table fields)) →
    l'.file = l.file

/-- **The first source that has a value for a key decides its field and no other**, for whatever a
configuration is loaded from and so for every check. -/
theorem config_precedence (l : Loading) :
    Precedence l ∧
      ∀ a w, (CheckRequest.ofArguments a).config w = (Loading.ofCheck a w).config := by
  refine ⟨⟨l.isRegistered, fun file k => ?_, fun c => Loading.config_eq_ok_iff,
    fun file hfile k => ConfigFile.spells_of_load hfile k.name, ?_, ?_⟩, fun a w => rfl⟩
  · obtain ⟨v, hv⟩ := l.exists_value? file k
    obtain ⟨source, hdecides⟩ := Loading.exists_decides_of_value? hv
    exact ⟨source, v, hdecides⟩
  · exact fun l' j k c c' h hne hc hc' => h.agree hne hc hc'
  · intro l' hfiles hpath hcalls horder
    have henvironment : ConfigFile.load l'.order l.files l'.environment l.path
        = ConfigFile.load l'.order l.files l.environment l.path :=
      ConfigFile.load_eq_of_files hcalls
    unfold Loading.file
    rw [hfiles, hpath, henvironment]
    obtain horder | hunambiguous := horder
    · rw [horder]
    · exact ConfigFile.load_eq_of_unambiguous hunambiguous

/-! ## The length of the tail -/

namespace Loading

/-- A flag and the environment set the length of the tail, and so may the program. -/
def withTail (assignments : List (String × Value)) : Loading where
  environment := [("BRACKETS_STACK_TAIL", "5"), ("BRACKETS_ENCODING", "latin1")]
  assignments := assignments
  flags := fun k => if k = .stackTail then some (.integer 9) else none

theorem file_withTail (assignments : List (String × Value)) :
    (withTail assignments).file = .ok [] :=
  ConfigFile.load_of_search?_none rfl
    (show ConfigFile.search? {} = none from by decide +kernel)

theorem lowered_stack_tail : lowered "Stack_Tail" = Key.stackTail.name := by
  decide +kernel

theorem config_withTail_assigned :
    (withTail [("Stack_Tail", .integer 2)]).config = .ok
      { contextRadius := 40, stackTail := 2, encoding := "latin1", format := textFormat } := by
  have htable : Table.ofAssignments .listed [("Stack_Tail", .integer 2)]
      = [("stack_tail", .integer 2)] := by
    refine (Table.ofAssignments_concat .listed [] _).trans ?_
    unfold Table.assign
    rw [Key.steps_of_eq lowered_stack_tail]
    rfl
  refine (congrArg (fun assigned => Config.load _ _ _ _ assigned _) htable).trans ?_
  exact Config.load_eq_ok_iff.mpr ⟨[], file_withTail [],
    Config.decode_eq_ok_iff.mpr ⟨rfl, rfl, rfl, rfl, rfl, rfl⟩, by decide⟩

theorem config_withTail :
    (withTail []).config = .ok
      { contextRadius := 40, stackTail := 9, encoding := "latin1", format := textFormat } :=
  Config.load_eq_ok_iff.mpr ⟨[], file_withTail [],
    Config.decode_eq_ok_iff.mpr ⟨rfl, rfl, rfl, rfl, rfl, rfl⟩, by decide⟩

theorem differOnlyIn_withTail :
    DifferOnlyIn .stackTail (withTail [("Stack_Tail", .integer 2)]) (withTail []) := by
  have hcovers : Key.stackTail.Covers "Stack_Tail" := .inl lowered_stack_tail
  refine ⟨?_, fun _ _ => rfl, fun _ _ => rfl, fun file file' h h' k _ => ?_⟩
  · exact (List.filter_cons_of_neg (by simpa using hcovers)).symm
  · cases (file_withTail _).symm.trans h
    cases (file_withTail _).symm.trans h'
    rfl

end Loading

/-- Without what the program sets the flag decides, and the encoding, which comes from the
environment, stays. -/
theorem config_precedence_tail :
    ∃ c c', (Loading.withTail [("Stack_Tail", .integer 2)]).config = .ok c ∧
      (Loading.withTail []).config = .ok c' ∧ c.stackTail = 2 ∧ c'.stackTail = 9 ∧
      c.encoding = RawText.ofString "latin1" ∧ ∀ k, k ≠ .stackTail → c.Agree c' k :=
  ⟨_, _, Loading.config_withTail_assigned, Loading.config_withTail, rfl, rfl, rfl, fun _ hk =>
    (config_precedence _).1.others _ _ _ _ _ Loading.differOnlyIn_withTail hk
      Loading.config_withTail_assigned Loading.config_withTail⟩

/-! ## A file that calls for a variable -/

/-- The configuration file calls for the variable of the radius where it sets the length of the
tail. -/
def Loading.callsForRadius (environment : List (String × String)) : Loading where
  files :=
    { nodes := [([".brackets.env"],
        .file (Utf8.encode "STACK_TAIL=$BRACKETS_CONTEXT_RADIUS\n".toList))] }
  environment := environment

theorem Loading.file_callsForRadius {environment : List (String × String)} {tail : RawText}
    (h : Dotenv.document environment
      (Utf8.encode "STACK_TAIL=$BRACKETS_CONTEXT_RADIUS\n".toList)
        = some [("STACK_TAIL", .text tail)]) :
    (callsForRadius environment).file = .ok [("stack_tail", .text tail)] := by
  have hsearch : ConfigFile.search? (callsForRadius environment).files = some ".brackets.env" :=
    show ConfigFile.search? (callsForRadius []).files = _ from by decide +kernel
  have hformat : FileFormat.extensions.lookup (ConfigFile.extension ".brackets.env")
      = some .dotenv := by
    decide +kernel
  have hlowered : lowered "STACK_TAIL" = "stack_tail" := by decide +kernel
  have htable : Table.ofMixedCase .listed (Value.lowerFields .listed [("STACK_TAIL", .text tail)])
      = [("stack_tail", .text tail)] := by
    rw [Table.ofMixedCase_eq (by rw [Value.map_lowerFields]; exact List.nodup_singleton _)]
    simp [Table.lowerKey, Table.ofFields, Table.insert, Value.lowerFields, Value.lowerKeys,
      hlowered]
  have hread : ConfigFile.read .listed (callsForRadius environment).files environment
      ".brackets.env" = .ok [("stack_tail", .text tail)] := by
    refine ConfigFile.read_eq_ok_iff_document.mpr
      ⟨_, [("STACK_TAIL", .text tail)], by with_unfolding_all rfl, ?_, htable.symm⟩
    unfold ConfigFile.document?
    rw [hformat]
    exact h
  exact (ConfigFile.load_of_search?_some rfl hsearch).trans hread

/-- **A variable may change the field of another key** through a configuration file that calls for
it. -/
theorem tail_follows_radius :
    (Loading.callsForRadius []).config
        = .ok { contextRadius := 40, stackTail := 0, encoding := "utf-8", format := textFormat } ∧
      (Loading.callsForRadius [("BRACKETS_CONTEXT_RADIUS", "7")]).config
        = .ok
          { contextRadius := 7, stackTail := 7, encoding := "utf-8", format := textFormat } := by
  have hunset : (Loading.callsForRadius []).file = .ok [("stack_tail", .text "")] :=
    Loading.file_callsForRadius (by with_unfolding_all rfl)
  have hset : (Loading.callsForRadius [("BRACKETS_CONTEXT_RADIUS", "7")]).file
      = .ok [("stack_tail", .text "7")] :=
    Loading.file_callsForRadius (by with_unfolding_all rfl)
  have hseven : readInteger (RawText.ofString "7") = .ok 7 := by
    unfold readInteger
    rw [RawText.chars_ofString]
    rfl
  have hread : ∀ k, Value.toInteger k (.text (RawText.ofString "7")) = .ok 7 := by
    intro k
    rw [Value.toInteger, if_neg (by decide), hseven]
  constructor
  · exact Config.load_eq_ok_iff.mpr
      ⟨_, hunset, Config.decode_eq_ok_iff.mpr ⟨rfl, rfl, rfl, rfl, rfl, rfl⟩, by decide⟩
  · exact Config.load_eq_ok_iff.mpr
      ⟨_, hset, Config.decode_eq_ok_iff.mpr ⟨hread _, hread _, rfl, rfl, rfl, rfl⟩, by decide⟩

end Nesting
