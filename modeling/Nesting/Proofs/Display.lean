import Nesting.Proofs.FirstError

/-!
# Settings change what is shown, and nothing else

Settings are taken one after the other. The first negative one ends it, and the error is its own; as
long as there is none, each setting overrides those of its kind before it, so that of a list that is
accepted only the last radius and the last tail are left, or the defaults (`Options.setAll_append`).

The options do not reach the scan. They come in when its end is made a report: the radius says how
wide the context is, and the tail how many of the openers left are listed. A longer tail adds to the
list at its beginning, where the outer openers stand, so the list for a shorter one is what the
longer one ends with.
-/

namespace Nesting

/-! ## Lists of settings -/

namespace Setting

/-- The number that is set. -/
def value : Setting → Int
  | contextRadius n => n
  | stackTail n => n

/-- The error of a setting with a negative number. -/
def refusal : Setting → SettingError
  | contextRadius n => .negativeRadius n
  | stackTail n => .negativeTail n

/-- The radius that is set, if it is one. -/
def radius? : Setting → Option Int
  | contextRadius n => some n
  | stackTail _ => none

/-- The tail that is set, if it is one. -/
def tail? : Setting → Option Int
  | contextRadius _ => none
  | stackTail n => some n

end Setting

/-- The last number of one kind in a list of settings. -/
def lastOr (kind : Setting → Option Int) (default : Int) (settings : List Setting) : Int :=
  (settings.filterMap kind).getLast?.getD default

/-- The radius that a list of settings asks for. -/
def lastRadius (settings : List Setting) : Int :=
  lastOr Setting.radius? 40 settings

/-- The tail that a list of settings asks for. -/
def lastTail (settings : List Setting) : Int :=
  lastOr Setting.tail? 5 settings

/-- **The first negative setting of a list.** -/
def FirstNegative (settings : List Setting) (s : Setting) : Prop :=
  ∃ before after, settings = before ++ s :: after ∧ (∀ x ∈ before, 0 ≤ x.value) ∧ s.value < 0

section Settings

variable {kind : Setting → Option Int} {default : Int} {s : Setting}
  {settings before : List Setting}

theorem lastOr_cons :
    lastOr kind default (s :: settings) = lastOr kind ((kind s).getD default) settings := by
  unfold lastOr
  cases hs : kind s with
  | none => rw [List.filterMap_cons_none hs, Option.getD_none]
  | some n =>
    rw [List.filterMap_cons_some hs, List.getLast?_cons, Option.getD_some, Option.getD_some]

/-- If a setting of a list is negative, then one is the first. -/
theorem forall_nonneg_or_firstNegative (settings : List Setting) :
    (∀ s ∈ settings, 0 ≤ s.value) ∨ ∃ s, FirstNegative settings s := by
  cases hfind : settings.find? (fun s => s.value < 0) with
  | none =>
    refine .inl fun s hs => ?_
    simpa using List.find?_eq_none.mp hfind s hs
  | some s =>
    obtain ⟨hs, before, after, hsettings, hbefore⟩ := List.find?_eq_some_iff_append.mp hfind
    exact .inr ⟨s, before, after, hsettings, fun x hx => by simpa using hbefore x hx,
      by simpa using hs⟩

namespace Options

/-- **What one setting does**: it overrides the number of its kind, or it is refused. -/
theorem set_cases (o : Options) (s : Setting) :
    (0 ≤ s.value ∧ ∃ next, o.set s = .ok next ∧
      (next.contextRadius : Int) = s.radius?.getD o.contextRadius ∧
      (next.stackTail : Int) = s.tail?.getD o.stackTail) ∨
    (s.value < 0 ∧ o.set s = .error s.refusal) := by
  by_cases hs : s.value < 0
  · refine .inr ⟨hs, ?_⟩
    cases s <;> exact if_pos hs
  · have hnonneg := Int.not_lt.mp hs
    refine .inl ⟨hnonneg, ?_⟩
    cases s with
    | contextRadius n => exact ⟨_, if_neg hs, Int.toNat_of_nonneg hnonneg, rfl⟩
    | stackTail n => exact ⟨_, if_neg hs, rfl, Int.toNat_of_nonneg hnonneg⟩

/-- **Settings that are accepted leave the last of each kind**, and those behind them go on from
there. -/
theorem setAll_append (o : Options) (h : ∀ s ∈ before, 0 ≤ s.value) :
    ∃ next : Options, (next.contextRadius : Int) = lastOr Setting.radius? o.contextRadius before ∧
      (next.stackTail : Int) = lastOr Setting.tail? o.stackTail before ∧
      ∀ rest, o.setAll (before ++ rest) = next.setAll rest := by
  induction before generalizing o with
  | nil => exact ⟨o, rfl, rfl, fun _ => rfl⟩
  | cons s before ih =>
    obtain ⟨-, first, hset, hradius, htail⟩ | ⟨hs, -⟩ := o.set_cases s
    · obtain ⟨next, hradius', htail', hrest⟩ := ih first fun x hx => h x (List.mem_cons_of_mem s hx)
      refine ⟨next, ?_, ?_, fun rest => ?_⟩
      · rw [lastOr_cons, ← hradius, hradius']
      · rw [lastOr_cons, ← htail, htail']
      · rw [List.cons_append, setAll, hset]
        exact hrest rest
    · exact absurd hs (Int.not_lt.mpr (h s List.mem_cons_self))

theorem setAll_of_firstNegative (o : Options) (h : FirstNegative settings s) :
    o.setAll settings = .error s.refusal := by
  obtain ⟨before, after, rfl, hbefore, hs⟩ := h
  obtain ⟨next, -, -, hrest⟩ := o.setAll_append hbefore
  obtain ⟨hnonneg, -⟩ | ⟨-, hset⟩ := next.set_cases s
  · exact absurd hs (Int.not_lt.mpr hnonneg)
  · rw [hrest, setAll, hset]

end Options

/-! ## Scanners -/

variable {name : String} {t : Text}

/-- **A list without a negative setting makes a scanner**, with the last radius and the last
tail. -/
theorem exists_scanner_of_nonneg (name : String) (t : Text) (h : ∀ s ∈ settings, 0 ≤ s.value) :
    ∃ scanner, Scanner.ofSettings name t settings = .ok scanner ∧
      (scanner.options.contextRadius : Int) = lastRadius settings ∧
      (scanner.options.stackTail : Int) = lastTail settings := by
  obtain ⟨options, hradius, htail, hrest⟩ := Options.setAll_append {} h
  have hsettings : Options.ofSettings settings = .ok options := by
    have hall := hrest []
    rw [List.append_nil] at hall
    exact hall
  unfold Scanner.ofSettings
  rw [hsettings]
  exact ⟨_, rfl, hradius, htail⟩

theorem ofSettings_of_firstNegative (h : FirstNegative settings s) :
    Scanner.ofSettings name t settings = .error s.refusal := by
  unfold Scanner.ofSettings Options.ofSettings
  rw [Options.setAll_of_firstNegative {} h]

/-- **A scanner is refused with the error of the first negative setting.** -/
theorem ofSettings_eq_error_iff {e : SettingError} :
    Scanner.ofSettings name t settings = .error e ↔
      ∃ s, FirstNegative settings s ∧ e = s.refusal := by
  constructor
  · intro he
    obtain hnonneg | ⟨s, hs⟩ := forall_nonneg_or_firstNegative settings
    · obtain ⟨scanner, hok, -⟩ := exists_scanner_of_nonneg name t hnonneg
      rw [hok] at he
      cases he
    · rw [ofSettings_of_firstNegative hs] at he
      cases he
      exact ⟨s, hs, rfl⟩
  · rintro ⟨s, hs, rfl⟩
    exact ofSettings_of_firstNegative hs

/-- A scanner is refused exactly if some setting is negative. -/
theorem exists_error_iff :
    (∃ e, Scanner.ofSettings name t settings = .error e) ↔ ∃ s ∈ settings, s.value < 0 := by
  constructor
  · rintro ⟨e, he⟩
    obtain ⟨s, ⟨before, after, rfl, -, hs⟩, -⟩ := ofSettings_eq_error_iff.mp he
    exact ⟨s, List.mem_append_right before List.mem_cons_self, hs⟩
  · rintro ⟨s, hmem, hs⟩
    obtain hnonneg | ⟨first, hfirst⟩ := forall_nonneg_or_firstNegative settings
    · exact absurd hs (Int.not_lt.mpr (hnonneg s hmem))
    · exact ⟨_, ofSettings_of_firstNegative hfirst⟩

theorem options_of_ofSettings {scanner : Scanner}
    (h : Scanner.ofSettings name t settings = .ok scanner) :
    (scanner.options.contextRadius : Int) = lastRadius settings ∧
      (scanner.options.stackTail : Int) = lastTail settings := by
  obtain hnonneg | ⟨s, hs⟩ := forall_nonneg_or_firstNegative settings
  · obtain ⟨scanner', h', hoptions⟩ := exists_scanner_of_nonneg name t hnonneg
    rw [h] at h'
    cases h'
    exact hoptions
  · rw [ofSettings_of_firstNegative hs] at h
    cases h

end Settings

/-! ## Reports of one scan -/

/-- **Two reports that differ in what is shown at most**, and how that depends on the settings. -/
structure DifferInDisplay (settings settings' : List Setting) (r r' : Report) : Prop where
  name : r.name = r'.name
  outcome : r.outcome = r'.outcome
  opener : r.opener = r'.opener
  closer : r.closer = r'.closer
  depth : r.depth = r'.depth
  /-- The context is a matter of the last radius alone. -/
  context : lastRadius settings = lastRadius settings' → r.context = r'.context
  /-- The openers listed are a matter of the last tail alone. -/
  top : lastTail settings = lastTail settings' → r.top = r'.top
  /-- With a shorter tail they are the last ones, as many as the tail and the depth allow. -/
  shorter : lastTail settings ≤ lastTail settings' →
    r.top <:+ r'.top ∧ (r.top.length : Int) = min (lastTail settings) r.depth

section Report

variable (name : String) (o o' : Options) (t : Text) (halt : Scan.Halt)

theorem depth_ofHalt : (Report.ofHalt name o t halt).depth = halt.state.stack.length := by
  unfold Report.ofHalt
  cases halt.verdict <;> rfl

/-- The options have no part in what a report says of the scan itself. -/
theorem finding_ofHalt :
    (Report.ofHalt name o t halt).name = (Report.ofHalt name o' t halt).name ∧
      (Report.ofHalt name o t halt).outcome = (Report.ofHalt name o' t halt).outcome ∧
      (Report.ofHalt name o t halt).opener = (Report.ofHalt name o' t halt).opener ∧
      (Report.ofHalt name o t halt).closer = (Report.ofHalt name o' t halt).closer := by
  unfold Report.ofHalt
  -- each side is reduced by itself, so that the two windows are never compared
  cases halt.verdict <;> dsimp only <;> exact ⟨rfl, rfl, rfl, rfl⟩

variable {o o'}

theorem context_ofHalt (h : o.contextRadius = o'.contextRadius) :
    (Report.ofHalt name o t halt).context = (Report.ofHalt name o' t halt).context := by
  unfold Report.ofHalt
  rw [h]
  cases halt.verdict <;> dsimp only

/-- **A shorter tail lists the last of the openers that a longer one lists.** -/
theorem top_suffix_ofHalt (h : o.stackTail ≤ o'.stackTail) :
    (Report.ofHalt name o t halt).top <:+ (Report.ofHalt name o' t halt).top := by
  rw [top_ofHalt, top_ofHalt]
  exact (List.reverse_suffix.mpr (List.take_prefix_take_left h)).map Mark.entry

theorem length_top_ofHalt :
    (Report.ofHalt name o t halt).top.length = min o.stackTail halt.state.stack.length := by
  rw [top_ofHalt, List.length_map, List.length_reverse, List.length_take]

end Report

/-- **Settings change what a report shows and nothing else.** A scanner is refused exactly if a
setting is negative, with the error of the first that is; and any two lists that are accepted give
reports of one text that differ in their context and in the openers listed at most. -/
theorem settings_change_display_only :
    (∀ name t settings,
      ((∃ e, Scanner.ofSettings name t settings = .error e) ↔ ∃ s ∈ settings, s.value < 0) ∧
      ∀ e, Scanner.ofSettings name t settings = .error e ↔
        ∃ s, FirstNegative settings s ∧ e = s.refusal) ∧
    ∀ name t settings settings' scanner scanner',
      Scanner.ofSettings name t settings = .ok scanner →
      Scanner.ofSettings name t settings' = .ok scanner' →
      DifferInDisplay settings settings' scanner.scan.1 scanner'.scan.1 := by
  refine ⟨fun _ _ _ => ⟨exists_error_iff, fun _ => ofSettings_eq_error_iff⟩, ?_⟩
  intro name t settings settings' scanner scanner' h h'
  obtain ⟨hradius, htail⟩ := options_of_ofSettings h
  obtain ⟨hradius', htail'⟩ := options_of_ofSettings h'
  rw [report_scan h, report_scan h']
  generalize Scan.scan t = halt
  obtain ⟨hname, houtcome, hopener, hcloser⟩ :=
    finding_ofHalt name scanner.options scanner'.options t halt
  refine ⟨hname, houtcome, hopener, hcloser, ?_, ?_, ?_, ?_⟩
  · rw [depth_ofHalt, depth_ofHalt]
  · intro heq
    exact context_ofHalt name t halt (by omega)
  · intro heq
    have htails : scanner.options.stackTail = scanner'.options.stackTail := by omega
    rw [top_ofHalt, top_ofHalt, htails]
  · intro hle
    refine ⟨top_suffix_ofHalt name t halt (by omega), ?_⟩
    rw [length_top_ofHalt, depth_ofHalt]
    omega

/-- Of the tails 9 and 1 the last counts, and it lists the bracket where a tail of 2 lists the
parenthesis too. The first of two negative settings is the one that is refused. -/
theorem settings_change_display_only_overridden :
    let t := ['(', '[', '{', ')']
    let settings : List Setting := [.stackTail 9, .contextRadius 3, .stackTail 1]
    let scanner : Scanner := { name := "a", text := t, options := ⟨3, 1⟩ }
    let scanner' : Scanner := { name := "a", text := t, options := ⟨40, 2⟩ }
    Scanner.ofSettings "a" t settings = .ok scanner ∧
      Scanner.ofSettings "a" t [.stackTail 2] = .ok scanner' ∧
      lastTail settings = 1 ∧
      scanner.scan.1.top = [(Mark.behind ['('] '[').entry] ∧
      scanner'.scan.1.top = [(Mark.behind [] '(').entry, (Mark.behind ['('] '[').entry] ∧
      DifferInDisplay settings [.stackTail 2] scanner.scan.1 scanner'.scan.1 ∧
      Scanner.ofSettings "a" t [.stackTail 3, .contextRadius (-1), .stackTail (-2)]
        = .error (.negativeRadius (-1)) := by
  intro t settings scanner scanner'
  have h : Scanner.ofSettings "a" t settings = .ok scanner := rfl
  have h' : Scanner.ofSettings "a" t [.stackTail 2] = .ok scanner' := rfl
  obtain ⟨hrefused, hdiffer⟩ := settings_change_display_only
  have hfirst : FirstNegative [.stackTail 3, .contextRadius (-1), .stackTail (-2)]
      (.contextRadius (-1)) := ⟨[.stackTail 3], [.stackTail (-2)], rfl, by decide, by decide⟩
  exact ⟨h, h', rfl, by decide, by decide, hdiffer _ _ _ _ _ _ h h',
    ((hrefused _ _ _).2 _).mpr ⟨_, hfirst, rfl⟩⟩

end Nesting
