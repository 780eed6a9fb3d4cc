import Nesting.Config.File
import Nesting.Proofs.FileTrees

/-!
# Configurations that are loaded

A configuration is made key by key: each field is read from the value of its key and from nothing
else (`decode_eq_ok_iff`), and that value comes from the first source that has one. So two loads
that differ in the flags of some keys differ in those fields alone.

A configuration that is loaded has passed its check, and then the scanner accepts its settings.

Loading sees no more of the files than the bytes of the configuration file. Writing another file
changes nothing for it, as long as no file appears under a name that comes earlier in the search;
and where that happens, the file that appears is the one that is consulted.
-/

namespace Nesting

namespace Config

/-! ## Fields -/

/-- **A configuration is read field by field.** -/
theorem decode_eq_ok_iff {value? : Key → Option Value} {c : Config} :
    decode value? = .ok c ↔
      field 0 Value.toInteger value? .contextRadius = .ok c.contextRadius ∧
      field 0 Value.toInteger value? .stackTail = .ok c.stackTail ∧
      field (RawText.ofString "") Value.toText value? .encoding = .ok c.encoding ∧
      field false Value.toTruth value? .preserveLines = .ok c.preserveLines ∧
      field (RawText.ofString "") Value.toText value? .format = .ok c.format ∧
      field false Value.toTruth value? .exitCode = .ok c.exitCode := by
  obtain ⟨contextRadius, stackTail, encoding, preserveLines, format, exitCode⟩ := c
  unfold decode
  dsimp only
  split
  · rename_i hradius htail hencoding hlines hformat hexit
    rw [hradius, htail, hencoding, hlines, hformat, hexit]
    simp
  · rename_i hnone
    refine iff_of_false (fun h => by cases h) ?_
    rintro ⟨hradius, htail, hencoding, hlines, hformat, hexit⟩
    exact hnone _ _ _ _ _ _ hradius htail hencoding hlines hformat hexit

theorem field_of_some {α : Type} {zero : α} {read : Key → Value → Except FieldError α}
    {value? : Key → Option Value} {key : Key} {v : Value} (h : value? key = some v) :
    field zero read value? key = read key v := by
  unfold field
  rw [h]

theorem field_congr {α : Type} {zero : α} {read : Key → Value → Except FieldError α}
    {value? value?' : Key → Option Value} {key : Key} (h : value?' key = value? key) :
    field zero read value?' key = field zero read value? key := by
  unfold field
  rw [h]

end Config

/-! ## Sources -/

namespace Sources

variable {s s' : Sources} {k : Key}

/-- **What other keys say does not matter**: sources that differ only in flags have the same value
for every key on which the flags agree. -/
theorem value?_congr (hassigned : s'.assigned = s.assigned)
    (henvironment : s'.environment = s.environment) (hfile : s'.file = s.file)
    (hdefaults : s'.defaults = s.defaults) (hflag : s'.flags k = s.flags k) :
    s'.value? k = s.value? k := by
  have hregistered : s'.isRegistered k = s.isRegistered k := by
    unfold isRegistered
    rw [hassigned, hfile, hdefaults, hflag]
  have hvariable : s'.variableText? k = s.variableText? k := by
    unfold variableText?
    rw [henvironment]
  have hoffer : s'.offer k = s.offer k := by
    funext source
    cases source <;> simp only [offer, hassigned, hregistered, hvariable, hfile, hdefaults, hflag]
  unfold value? first? inside? variant?
  rw [hregistered, hvariable, hoffer, hassigned, hfile]

/-- **A default registers its key.** -/
theorem isRegistered_of_default {v : Value} (h : s.defaults k = some v) :
    s.isRegistered k = true := by
  unfold isRegistered
  rw [h]
  rfl

/-- **A key with a default has the value of the first source that has one.** -/
theorem exists_value?_of_default {v : Value} (h : s.defaults k = some v) :
    ∃ w, s.first? k = some w ∧ s.value? k = some w := by
  have hsome : (s.first? k).isSome := by
    refine List.findSome?_isSome_iff.mpr ⟨.default, by decide, ?_⟩
    show (s.defaults k).isSome
    rw [h]
    rfl
  obtain ⟨w, hw⟩ := Option.isSome_iff_exists.mp hsome
  refine ⟨w, hw, ?_⟩
  unfold value?
  rw [if_pos (isRegistered_of_default h), hw]
  rfl

/-- **A flag that is given decides**, unless the program has assigned a value itself. -/
theorem value?_of_flag {v v' : Value} (hassigned : s.assigned = []) (hflag : s.flags k = some v)
    (hdefault : s.defaults k = some v') : s.value? k = some v := by
  have hnone : s.offer k .assigned = none := by
    show (s.assigned.find? k.name).bind Value.present? = none
    rw [hassigned]
    rfl
  have hsome : s.offer k .flag = some v := hflag
  obtain ⟨w, hfirst, hvalue⟩ := exists_value?_of_default hdefault
  rw [hvalue, ← hfirst]
  unfold first? Source.order
  rw [List.findSome?_cons, hnone]
  dsimp only
  rw [List.findSome?_cons, hsome]

end Sources

namespace Config

/-! ## Configurations that pass their check -/

theorem fault?_eq_none_iff {c : Config} :
    c.fault? = none ↔
      0 ≤ c.contextRadius ∧ 0 ≤ c.stackTail ∧
        (c.format = RawText.ofString textFormat ∨
          c.format = RawText.ofString diagnosticFormat) := by
  unfold fault?
  split
  · rename_i h
    exact iff_of_false (fun h => by cases h) fun h' => absurd h (Int.not_lt.mpr h'.1)
  · rename_i hradius
    split
    · rename_i h
      exact iff_of_false (fun h => by cases h) fun h' => absurd h (Int.not_lt.mpr h'.2.1)
    · rename_i htail
      split
      · rename_i hformat
        exact iff_of_true rfl ⟨Int.not_lt.mp hradius, Int.not_lt.mp htail, hformat⟩
      · rename_i hformat
        exact iff_of_false (fun h => by cases h) fun h' => hformat h'.2.2

/-- The refusal of a scanner that a fault foretells; a scanner does not look at the format. -/
def refusal? (c : Config) : ConfigFault → Option SettingError
  | .negativeRadius => some (.negativeRadius c.contextRadius)
  | .negativeTail => some (.negativeTail c.stackTail)
  | .unknownFormat _ => none

/-- **The check of a configuration and that of its settings find the same at fault**, in the same
order. -/
theorem ofSettings_settings_eq (c : Config) :
    Options.ofSettings c.settings =
      match c.fault?.bind c.refusal? with
      | some e => .error e
      | none => .ok ⟨c.contextRadius.toNat, c.stackTail.toNat⟩ := by
  unfold Options.ofSettings settings fault?
  rw [Options.setAll, Options.set]
  by_cases hradius : c.contextRadius < 0
  · rw [if_pos hradius, if_pos hradius]
    rfl
  · rw [if_neg hradius, if_neg hradius]
    dsimp only
    rw [Options.setAll, Options.set]
    by_cases htail : c.stackTail < 0
    · rw [if_pos htail, if_pos htail]
      rfl
    · rw [if_neg htail, if_neg htail]
      by_cases hformat :
          c.format = RawText.ofString textFormat ∨ c.format = RawText.ofString diagnosticFormat
      · rw [if_pos hformat]
        rfl
      · rw [if_neg hformat]
        rfl

/-- **A scanner accepts the settings of a configuration that passes its check.** -/
theorem ofSettings_settings {c : Config} (h : c.fault? = none) :
    Options.ofSettings c.settings = .ok ⟨c.contextRadius.toNat, c.stackTail.toNat⟩ := by
  rw [ofSettings_settings_eq, h]
  rfl

/-- **What it takes to make a configuration**: fields that can be read, and no fault. -/
theorem ofSources_eq_ok_iff {s : Sources} {c : Config} :
    ofSources s = .ok c ↔ decode s.value? = .ok c ∧ c.fault? = none := by
  unfold ofSources
  cases hdecode : decode s.value? with
  | error errors => simp
  | ok config =>
    cases hfault : config.fault? with
    | some fault =>
      refine iff_of_false (by simp [hfault]) ?_
      rintro ⟨hc, hnone⟩
      cases hc
      rw [hfault] at hnone
      cases hnone
    | none =>
      simp only [hfault, Except.ok.injEq]
      exact ⟨fun hc => ⟨hc, hc ▸ hfault⟩, fun h => h.1⟩

/-- **What it takes to load one**: the configuration file as well. -/
theorem load_eq_ok_iff {order : FieldOrder} {files : FileTree} {path : String}
    {environment : List (String × String)} {assigned : Table} {flags : Key → Option Value}
    {c : Config} :
    load order files path environment assigned flags = .ok c ↔
      ∃ file, ConfigFile.load order files environment path = .ok file ∧
        decode (Sources.value? { assigned, flags, environment, file, defaults }) = .ok c ∧
        c.fault? = none := by
  unfold load
  cases ConfigFile.load order files environment path with
  | error e => simp
  | ok file =>
    simp only [Except.ok.injEq, exists_eq_left']
    exact ofSources_eq_ok_iff

/-! ## Loads that differ in some flags -/

/-- **Two configurations agree on a key** when they have the same field there. -/
def Agree (c c' : Config) : Key → Prop
  | .contextRadius => c'.contextRadius = c.contextRadius
  | .stackTail => c'.stackTail = c.stackTail
  | .encoding => c'.encoding = c.encoding
  | .preserveLines => c'.preserveLines = c.preserveLines
  | .format => c'.format = c.format
  | .exitCode => c'.exitCode = c.exitCode

/-- **Configurations agree on every key for which they are read from the same value.** -/
theorem agree_of_decode {value? value?' : Key → Option Value} {c c' : Config} {k : Key}
    (h : decode value? = .ok c) (h' : decode value?' = .ok c') (hk : value?' k = value? k) :
    Agree c c' k := by
  have hsame : ∀ {α : Type} {zero a a' : α} {read : Key → Value → Except FieldError α},
      field zero read value? k = .ok a → field zero read value?' k = .ok a' → a' = a := by
    intro α zero a a' read ha ha'
    rw [field_congr hk, ha] at ha'
    exact (Except.ok.inj ha').symm
  obtain ⟨hradius, htail, hencoding, hlines, hformat, hexit⟩ := decode_eq_ok_iff.mp h
  obtain ⟨hradius', htail', hencoding', hlines', hformat', hexit'⟩ := decode_eq_ok_iff.mp h'
  cases k with
  | contextRadius => exact hsame hradius hradius'
  | stackTail => exact hsame htail htail'
  | encoding => exact hsame hencoding hencoding'
  | preserveLines => exact hsame hlines hlines'
  | format => exact hsame hformat hformat'
  | exitCode => exact hsame hexit hexit'

variable {order : FieldOrder} {files files' : FileTree} {path : String}
  {environment : List (String × String)} {flags flags' : Key → Option Value} {c c' : Config}

theorem agree_of_load {k : Key} (h : load order files path environment [] flags = .ok c)
    (h' : load order files path environment [] flags' = .ok c') (hk : flags' k = flags k) :
    Agree c c' k := by
  obtain ⟨file, hfile, hdecode, -⟩ := load_eq_ok_iff.mp h
  obtain ⟨file', hfile', hdecode', -⟩ := load_eq_ok_iff.mp h'
  rw [hfile] at hfile'
  cases hfile'
  exact agree_of_decode hdecode hdecode' (Sources.value?_congr rfl rfl rfl rfl hk)

/-- The encoding that is given by a flag is that of the configuration. -/
theorem encoding_of_flag {label : RawText} (h : load order files path environment [] flags = .ok c)
    (hflag : flags .encoding = some (.text label)) : c.encoding = label := by
  obtain ⟨file, -, hdecode, -⟩ := load_eq_ok_iff.mp h
  obtain ⟨-, -, hencoding, -⟩ := decode_eq_ok_iff.mp hdecode
  rw [field_of_some (Sources.value?_of_flag rfl hflag rfl)] at hencoding
  exact (Except.ok.inj hencoding).symm

/-- **Another encoding and another line mode are all that changes** when their flags are given, as
long as the configuration files say the same. -/
theorem load_of_flags {label : RawText} {lines : Bool}
    (hfiles : ∀ file, ConfigFile.load order files environment path = .ok file →
      ConfigFile.load order files' environment path = .ok file)
    (hflags : ∀ k, k ≠ .encoding → k ≠ .preserveLines → flags' k = flags k)
    (hlabel : flags' .encoding = some (.text label))
    (hlines : flags' .preserveLines = some (.truth lines))
    (h : load order files path environment [] flags = .ok c) :
    load order files' path environment [] flags'
      = .ok { c with encoding := label, preserveLines := lines } := by
  obtain ⟨file, hfile, hdecode, hfault⟩ := load_eq_ok_iff.mp h
  refine load_eq_ok_iff.mpr ⟨file, hfiles file hfile, ?_, ?_⟩
  · obtain ⟨hradius, htail, -, -, hformat, hexit⟩ := decode_eq_ok_iff.mp hdecode
    have hvalue : ∀ k, k ≠ .encoding → k ≠ .preserveLines →
        Sources.value? { assigned := [], flags := flags', environment, file, defaults } k
          = Sources.value? { assigned := [], flags, environment, file, defaults } k :=
      fun k hk hk' => Sources.value?_congr rfl rfl rfl rfl (hflags k hk hk')
    refine decode_eq_ok_iff.mpr ⟨?_, ?_, ?_, ?_, ?_, ?_⟩
    · exact (field_congr (hvalue .contextRadius (by decide) (by decide))).trans hradius
    · exact (field_congr (hvalue .stackTail (by decide) (by decide))).trans htail
    · rw [field_of_some (Sources.value?_of_flag rfl hlabel rfl)]
      rfl
    · rw [field_of_some (Sources.value?_of_flag rfl hlines rfl)]
      rfl
    · exact (field_congr (hvalue .format (by decide) (by decide))).trans hformat
    · exact (field_congr (hvalue .exitCode (by decide) (by decide))).trans hexit
  · exact hfault

end Config

/-! ## Configuration files -/

namespace ConfigFile

open FileTree

variable {order : FieldOrder} {files files' : FileTree} {environment : List (String × String)}
  {path : String} {loc : Location} {bytes : Bytes} {table : Table}

/-- The document that the bytes of a configuration file are; its path says what format it is in. -/
def document? (environment : List (String × String)) (path : String) (bytes : Bytes) :
    Option Table := do
  let format ← FileFormat.extensions.lookup (extension path)
  format.document environment bytes

/-- **Of the files, only the bytes of the configuration file matter.** -/
theorem read_eq_ok_iff_document :
    read order files environment path = .ok table ↔
      ∃ bytes fields, files.read path = .ok bytes ∧
        document? environment path bytes = some fields ∧
        table = Table.ofMixedCase order (Value.lowerFields order fields) := by
  unfold read document?
  cases FileFormat.extensions.lookup (extension path) with
  | none => simp
  | some format =>
    cases files.read path with
    | error e => simp
    | ok bytes =>
      cases hfields : format.document environment bytes with
      | none => simp [hfields]
      | some fields => simp [hfields, eq_comm]

/-- **The configuration file that a check consults**: the one that is named, or the one that is
found. -/
def Consulted (files : FileTree) (path consulted : String) : Prop :=
  if path = "" then search? files = some consulted else consulted = path

/-- Without a file that is named or found there are no values. -/
theorem load_of_search?_none (herror : searchError? files = none) (h : search? files = none) :
    load order files environment "" = .ok [] := by
  unfold load
  rw [if_pos rfl, herror, h]

/-- A file that is found is read. -/
theorem load_of_search?_some {found : String} (herror : searchError? files = none)
    (h : search? files = some found) :
    load order files environment "" = read order files environment found := by
  unfold load
  rw [if_pos rfl, herror, h]

/-- **Two loads have the same values if they read the same from the file that is consulted.** -/
theorem load_congr {order' : FieldOrder} {environment' : List (String × String)}
    (h : ∀ consulted, Consulted files path consulted →
      read order' files environment' consulted = read order files environment consulted) :
    load order' files environment' path = load order files environment path := by
  unfold load
  unfold Consulted at h
  by_cases hpath : path = ""
  · simp only [if_pos hpath] at h ⊢
    cases searchError? files with
    | some e => rfl
    | none =>
      cases hfound : search? files with
      | none => rfl
      | some found => exact h found hfound
  · simp only [if_neg hpath] at h ⊢
    exact h path rfl

theorem searchError?_eq (h : Rewrites files files' loc bytes) :
    searchError? files' = searchError? files := by
  unfold searchError?
  rw [h.refusals]

/-- The names that are looked for are names of files in the working directory. -/
theorem leadsTo_of_mem_candidates {name : String} (h : name ∈ candidates) (files : FileTree) :
    files.LeadsTo name [name] := by
  have hplain : ∀ name ∈ candidates, name ≠ "" ∧ name ≠ "." ∧ name ≠ ".." ∧ origin name = [] ∧
      components name = [name] := by
    decide +kernel
  obtain ⟨hempty, hdot, hdots, horigin, hcomponents⟩ := hplain name h
  have henter : Location.enter [] name = [name] := by
    unfold Location.enter
    simp [hempty, hdot, hdots]
  refine ⟨hempty, ?_⟩
  rw [horigin, hcomponents, walk_cons_eq_ok_iff, henter]
  exact ⟨isDirectory_iff.mpr (.inl rfl), rfl⟩

/-- **The search finds the same file**, unless the one that it finds now is the one that was
written. -/
theorem search?_eq (h : Rewrites files files' loc bytes)
    (hfound : ∀ name, search? files' = some name → [name] ≠ loc) :
    search? files = search? files' := by
  unfold search? at hfound ⊢
  rw [← h.refusals]
  generalize candidates = names at hfound ⊢
  induction names with
  | nil => rfl
  | cons name names ih =>
    rw [List.find?_cons, List.find?_cons]
    rw [List.find?_cons] at hfound
    cases hstat : decide (files'.refusals.stat name = none) with
    | false =>
      rw [hstat] at hfound
      exact ih hfound
    | true =>
      rw [hstat, Bool.true_and] at hfound
      rw [Bool.true_and, Bool.true_and]
      cases hfile : files'.isFile [name] with
      | true =>
        -- the search ends here, and what it finds has not been written
        rw [hfile] at hfound
        rw [← h.isFile_of_ne (hfound name rfl), hfile]
      | false =>
        have hne : [name] ≠ loc := by
          rintro rfl
          rw [h.isFile_self] at hfile
          cases hfile
        rw [hfile] at hfound
        rw [← h.isFile_of_ne hne, hfile]
        exact ih hfound

theorem read_eq_ok_iff_of_rewrites (h : Rewrites files files' loc bytes)
    (hne : ¬ files'.LeadsTo path loc) :
    read order files' environment path = .ok table
      ↔ read order files environment path = .ok table := by
  rw [read_eq_ok_iff_document, read_eq_ok_iff_document]
  refine exists_congr fun bytes' => exists_congr fun fields => and_congr_left fun _ => ?_
  exact h.read_eq_ok_iff_of_ne hne

/-- **Writing a file that is not consulted changes nothing** for the configuration. -/
theorem load_eq_ok_iff_of_rewrites (h : Rewrites files files' loc bytes)
    (hnot : ∀ consulted, Consulted files' path consulted → ¬ files'.LeadsTo consulted loc) :
    load order files' environment path = .ok table
      ↔ load order files environment path = .ok table := by
  unfold load
  by_cases hpath : path = ""
  · rw [if_pos hpath, if_pos hpath]
    have hconsulted : ∀ name, search? files' = some name → Consulted files' path name := by
      intro name hname
      unfold Consulted
      rw [if_pos hpath]
      exact hname
    have hmem : ∀ name, search? files' = some name → name ∈ candidates :=
      fun name hname => List.mem_of_find?_eq_some hname
    have hsearch : search? files = search? files' := by
      refine search?_eq h fun name hname heq => ?_
      refine hnot name (hconsulted name hname) ?_
      exact heq ▸ leadsTo_of_mem_candidates (hmem name hname) files'
    rw [hsearch, searchError?_eq h]
    cases searchError? files with
    | some e => rfl
    | none =>
      cases hfound : search? files' with
      | none => rfl
      | some name => exact read_eq_ok_iff_of_rewrites h (hnot name (hconsulted name hfound))
  · rw [if_neg hpath, if_neg hpath]
    refine read_eq_ok_iff_of_rewrites h (hnot path ?_)
    unfold Consulted
    rw [if_neg hpath]

end ConfigFile

end Nesting
