import Nesting.Proofs.Rendering

/-!
# The views of a report agree

What a scan has found can be asked for in several ways: as a failure, as diagnostics, as their
printed form, and in the log. Each has a wording of its own, and the log does not even take its
place from the report but from the counters of the scan as they stand at its end. That all of them
name the same place is seen at the last step of a scan: a closer is not a line feed, so the counters
behind it are the line and the column of its mark (`Mark.behind_place`).

When no closer is at fault, the views have to account for the openers that are left. The report
lists the last few of them, each listed one has a warning, and the first warning has a note on how
many are not listed. The two numbers add up to the height of the stack. If none is listed there is
no warning to carry the note, and the printed form says the number itself.
-/

namespace Nesting

variable {name : String} {t p : Text} {c : Char} {m : Mark} {e : Entry} {d : Diagnostic}
  {r : Report}

/-! ## Texts that begin with a place -/

/-- The place of an entry, as messages begin with it: the name of the source, the line, the
column. -/
def Entry.placeIn (e : Entry) (name : String) : String :=
  name ++ ":" ++ e.coordinates ++ ": "

/-- **A text begins with another one.** -/
def BeginsWith (s front : String) : Prop :=
  ∃ rest, s = front ++ rest

/-- The header of a diagnostic begins with the place of the entry that it is about. -/
theorem beginsWith_header (h : d.span = e.span) (name : String) :
    BeginsWith (d.header name) (e.placeIn name) := by
  refine ⟨d.severity.name ++ ": " ++ d.message ++ "\n", ?_⟩
  unfold Diagnostic.header
  rw [h]
  simp [Entry.placeIn, Entry.coordinates, Entry.span, String.append_assoc]

/-- The message of a failure begins with the place of the closer. -/
theorem beginsWith_unmatched (name : String) (closer : Entry) :
    BeginsWith (Failure.unmatched name closer).message (closer.placeIn name) := by
  refine ⟨"unmatched closing " ++ quotedChar closer.glyph, ?_⟩
  unfold Failure.message
  rw [show ": unmatched closing " = ": " ++ "unmatched closing " by decide]
  simp only [Entry.placeIn, String.append_assoc]

theorem beginsWith_mismatched (name : String) (opener closer : Entry) :
    BeginsWith (Failure.mismatched name opener closer).message (closer.placeIn name) := by
  refine ⟨"mismatched " ++ quotedChar opener.glyph ++ " opened at " ++ opener.coordinates
    ++ ", closed by " ++ quotedChar closer.glyph, ?_⟩
  unfold Failure.message
  rw [show ": mismatched " = ": " ++ "mismatched " by decide]
  simp only [Entry.placeIn, String.append_assoc]

/-- **Behind a character that ends no line, the counters of a scan are those of its mark.** -/
theorem Mark.behind_place (hc : c ≠ '\n') (p : Text) (stack : List Mark) :
    (Scan.State.behind (p ++ [c]) stack).line = (Mark.behind p c).line ∧
      (Scan.State.behind (p ++ [c]) stack).column = (Mark.behind p c).column := by
  refine ⟨?_, ?_⟩
  · show lineAfter (p ++ [c]) = lineAfter p
    rw [lineAfter_append, if_neg hc]
  · show columnAfter (p ++ [c]) = columnAfter p + 1
    rw [columnAfter_append, if_neg hc]

/-- What is logged begins with the place of the mark that the scan stopped at. -/
theorem beginsWith_logRecord {halt : Scan.Halt} (hline : halt.state.line = m.line)
    (hcolumn : halt.state.column = m.column) (name : String) :
    BeginsWith (Scanner.logRecord name halt).message (m.entry.placeIn name) := by
  unfold BeginsWith Scanner.logRecord Entry.placeIn Entry.coordinates
  rw [hline, hcolumn]
  simp only [String.append_assoc]
  exact ⟨_, rfl⟩

/-! ## A closer at fault -/

/-- **All views blame the closer.** There is one diagnostic, one failure and one record in the log,
and each begins with the place of the closer. -/
structure BlamesCloser (t : Text) (r : Report) (ds : List Diagnostic) (log : List LogRecord)
    (closer : Entry) (d : Diagnostic) (f : Failure) (record : LogRecord) : Prop where
  stopped : r.closer = some closer
  diagnostics : ds = [d]
  severity : d.severity = .error
  /-- The span holds just the closer. -/
  span : d.span.start = closer.offset ∧ (Holdable t → d.span.stop = closer.offset + 1)
  failure : r.failure? = .ok (some f)
  failure_begins : BeginsWith f.message (closer.placeIn r.name)
  logged : log = [record] ∧ record.severity = .debug
  log_begins : BeginsWith record.message (closer.placeIn r.name)
  header_begins : BeginsWith (d.header r.name) (closer.placeIn r.name)
  /-- The header is what is printed first. -/
  printed : Holdable t →
    ∃ text, (r.writeDiagnostics t).text = .ok text ∧ BeginsWith text (d.header r.name)

theorem caretFits_of_standsIn (hm : m.StandsIn t) (hd : d.span = m.entry.span)
    (hfits : Holdable t) : d.CaretFits := by
  have hpoints := hm.pointsInto hd
  obtain ⟨k, hk, -⟩ := hpoints.caret
  have hle := hpoints.column_le
  refine ⟨?_, hle.trans hfits⟩
  show (0 : Int) ≤ (Figure.ofEntry t m.entry d).diagnostic.span.column
  omega

/-- In a text that can be held, the span of a mark ends one character behind it. -/
theorem span_stop (hm : m.StandsIn t) (hfits : Holdable t) :
    m.entry.span.stop = m.entry.offset + 1 := by
  have hlt : (m.entry.offset : Int) < t.length := by
    have h := hm.at_offset.lt_length
    rw [hm.at_offset.offset]
    omega
  have hpos : 0 ≤ m.entry.offset := Int.natCast_nonneg _
  have hroom : widestPadding ≤ Word.greatest := by decide
  unfold Holdable at hfits
  unfold Entry.span
  rw [Word.wrap_of_mem]
  · unfold Word.least
    omega
  · omega

/-- A single diagnostic whose caret can be placed is printed with its header first. -/
theorem exists_text_of_single (hds : r.diagnostics? = .ok [d]) (hd : d.CaretFits) (t : Text) :
    ∃ text, (r.writeDiagnostics t).text = .ok text ∧ BeginsWith text (d.header r.name) := by
  have hprint : r.writeDiagnostics t = Writing.each Writing.write (d.pieces r.name t) := by
    unfold Report.writeDiagnostics
    rw [hds]
    show Writing.each (fun d => d.print r.name t) [d] = _
    rw [Writing.each_singleton, Diagnostic.print_eq_each hd]
  refine ⟨String.join (d.pieces r.name t), ?_, String.join ((d.pieces r.name t).drop 1), ?_⟩
  · rw [hprint, Writing.text_each_write]
  · show String.join (d.header r.name :: (d.pieces r.name t).drop 1) = _
    rw [String.join_cons]

/-- **A report with a failure and an error at the place of a closer blames it**, if the log does. -/
theorem blamesCloser_of_mark {f : Failure} {halt : Scan.Halt} (hm : m.StandsIn t)
    (hcloser : r.closer = some m.entry) (hds : r.diagnostics? = .ok [d])
    (hseverity : d.severity = .error) (hspan : d.span = m.entry.span)
    (hfailure : r.failure? = .ok (some f)) (hf : BeginsWith f.message (m.entry.placeIn r.name))
    (hline : halt.state.line = m.line) (hcolumn : halt.state.column = m.column) :
    BlamesCloser t r [d] [Scanner.logRecord r.name halt] m.entry d f
      (Scanner.logRecord r.name halt) where
  stopped := hcloser
  diagnostics := rfl
  severity := hseverity
  span := by
    rw [hspan]
    exact ⟨rfl, span_stop hm⟩
  failure := hfailure
  failure_begins := hf
  logged := ⟨rfl, rfl⟩
  log_begins := beginsWith_logRecord hline hcolumn r.name
  header_begins := beginsWith_header hspan r.name
  printed := fun hfits => exists_text_of_single hds (caretFits_of_standsIn hm hspan hfits) t

/-! ## Openers that are left -/

/-- **A diagnostic announces a number of openers** that are not listed; none are announced by no
note. -/
def Diagnostic.Announces (d : Diagnostic) (n : Nat) : Prop :=
  d.notes = if n = 0 then [] else [toString n ++ " more unclosed delimiters not shown"]

/-- A diagnostic warns of an opener that is left. -/
structure Diagnostic.WarnsOf (d : Diagnostic) (e : Entry) : Prop where
  severity : d.severity = .warning
  message : d.message = "unclosed " ++ quotedChar e.glyph
  span : d.span = e.span

/-- **The views account for every opener that is left.** -/
structure AccountsForOpeners (t : Text) (r : Report) (ds : List Diagnostic) : Prop where
  /-- There is one warning for each opener listed, in the same order. -/
  warnings : List.Forall₂ Diagnostic.WarnsOf ds r.top
  /-- With the number that the first of them announces, they are all. -/
  all : Holdable t → r.top ≠ [] → ∃ first rest n, ds = first :: rest ∧ first.Announces n ∧
    (ds.length : Int) + n = r.depth
  /-- If none is listed, one line says whether any are left, and how many. -/
  unlisted : r.top = [] →
    ((r.writeDiagnostics t).text = .ok (r.name ++ ": ok\n") ↔ r.depth = 0) ∧
      (r.depth ≠ 0 → (r.writeDiagnostics t).text
        = .ok (r.name ++ ": " ++ toString r.depth ++ " unclosed delimiters\n"))

theorem severity_of_mem_warnings {ds : List Diagnostic} {es : List Entry}
    (h : List.Forall₂ Diagnostic.WarnsOf ds es) (hd : d ∈ ds) : d.severity = .warning := by
  induction h with
  | nil => cases hd
  | cons hwarns _ ih =>
    obtain rfl | hd := List.mem_cons.mp hd
    · exact hwarns.severity
    · exact ih hd

/-- The warnings of a report without a closer at fault, and the number that the first announces. -/
theorem exists_warnings (ho : r.outcome = .balanced) :
    ∃ ds, r.diagnostics? = .ok ds ∧ List.Forall₂ Diagnostic.WarnsOf ds r.top ∧
      ∀ n : Nat, r.hidden = n → r.top ≠ [] →
        ∃ first rest, ds = first :: rest ∧ first.Announces n := by
  have hrest : ∀ es : List Entry, List.Forall₂ Diagnostic.WarnsOf (es.map Report.unclosed) es := by
    intro es
    rw [List.forall₂_map_left_iff]
    exact List.forall₂_same.mpr fun _ _ => ⟨rfl, rfl, rfl⟩
  unfold Report.diagnostics?
  rw [ho]
  dsimp only
  cases r.top with
  | nil => exact ⟨[], rfl, .nil, fun _ _ h => absurd rfl h⟩
  | cons e es =>
    rw [List.map_cons]
    dsimp only
    split
    · rename_i hsome
      refine ⟨_, rfl, .cons ⟨rfl, rfl, rfl⟩ (hrest es), fun n hn _ => ⟨_, _, rfl, ?_⟩⟩
      rw [hn] at hsome ⊢
      rw [Diagnostic.Announces, if_neg (by omega)]
      rfl
    · rename_i hnone
      refine ⟨_, rfl, hrest (e :: es), fun n hn _ => ⟨_, _, rfl, ?_⟩⟩
      rw [hn] at hnone
      rw [Diagnostic.Announces, if_pos (by omega)]
      rfl

/-- Without diagnostics there is one line, and it tells no opener from some. -/
theorem text_of_no_diagnostics (hds : r.diagnostics? = .ok []) (t : Text) :
    ((r.writeDiagnostics t).text = .ok (r.name ++ ": ok\n") ↔ r.depth = 0) ∧
      (r.depth ≠ 0 → (r.writeDiagnostics t).text
        = .ok (r.name ++ ": " ++ toString r.depth ++ " unclosed delimiters\n")) := by
  have htext : (r.writeDiagnostics t).text
      = .ok (if r.depth ≠ 0 then r.name ++ ": " ++ toString r.depth ++ " unclosed delimiters\n"
          else r.name ++ ": ok\n") := by
    unfold Report.writeDiagnostics
    rw [hds]
    show Writing.text (if r.depth ≠ 0 then _ else _) = _
    split
    · rw [← Writing.each_singleton Writing.write, Writing.text_each_write]
      simp
    · rw [← Writing.each_singleton Writing.write, Writing.text_each_write]
      simp
  rw [htext]
  by_cases hd : r.depth = 0
  · simp [hd]
  · rw [if_pos hd]
    refine ⟨⟨fun h => ?_, fun h => absurd h hd⟩, fun _ => rfl⟩
    -- the two lines differ in length
    have hlen := congrArg String.length (Except.ok.inj h)
    simp only [String.length_append] at hlen
    have h22 : " unclosed delimiters\n".length = 21 := by decide
    have h5 : ": ok\n".length = 5 := by decide
    omega

theorem Opened.length_le {stack : List Mark} (h : Opened t stack) : stack.length ≤ t.length := by
  induction h with
  | flat => exact Nat.zero_le _
  | deeper _ _ _ ih =>
    rw [List.length_cons, List.length_append, List.length_cons]
    omega

/-- **At the end of a text every opener on the stack is accounted for.** -/
theorem exists_accountsForOpeners {options : Options} {stack : List Mark}
    (hopened : Opened t stack) :
    ∃ ds, (Report.ofHalt name options t ⟨.balanced, .behind t stack⟩).diagnostics? = .ok ds ∧
      AccountsForOpeners t (Report.ofHalt name options t ⟨.balanced, .behind t stack⟩) ds := by
  set r := Report.ofHalt name options t ⟨.balanced, .behind t stack⟩ with hr
  have hdepth : r.depth = stack.length := rfl
  have htop : r.top.length = min options.stackTail stack.length := by
    rw [hr, top_ofHalt, List.length_map, List.length_reverse, List.length_take]
    rfl
  have hhidden : Holdable t → r.hidden = ((stack.length - r.top.length : Nat) : Int) := by
    intro hfits
    have hle := hopened.length_le
    have hroom : widestPadding ≤ Word.greatest := by decide
    unfold Holdable at hfits
    unfold Report.hidden
    rw [hdepth, Word.wrap_of_mem]
    · omega
    · unfold Word.least
      omega
    · omega
  obtain ⟨ds, hds, hwarns, hfirst⟩ := exists_warnings (r := r) rfl
  refine ⟨ds, hds, hwarns, fun hfits hne => ?_, fun hnil => ?_⟩
  · obtain ⟨first, rest, hcons, hannounces⟩ := hfirst _ (hhidden hfits) hne
    refine ⟨first, rest, _, hcons, hannounces, ?_⟩
    rw [hwarns.length_eq, hdepth]
    omega
  · rw [hnil] at hwarns
    cases hwarns
    exact text_of_no_diagnostics hds t

/-! ## Every report of a scan -/

/-- **The views of a report agree**, about the text that was scanned and what was logged. -/
structure ViewsAgree (t : Text) (r : Report) (log : List LogRecord) (ds : List Diagnostic) :
    Prop where
  diagnostics : r.diagnostics? = .ok ds
  failure_iff : r.failure? = .ok none ↔ r.ok = true
  error_iff : r.ok = true ↔ ∀ d ∈ ds, d.severity ≠ .error
  fault : r.ok = false → ∃ closer d f record, BlamesCloser t r ds log closer d f record
  leftover : r.ok = true → AccountsForOpeners t r ds

theorem viewsAgree_of_blames {log : List LogRecord} {ds : List Diagnostic} {closer : Entry}
    {f : Failure} {record : LogRecord} (hok : r.ok = false) (hds : r.diagnostics? = .ok ds)
    (h : BlamesCloser t r ds log closer d f record) : ViewsAgree t r log ds where
  diagnostics := hds
  failure_iff := by
    rw [h.failure, hok]
    simp
  error_iff := by
    rw [hok, h.diagnostics]
    simp [h.severity]
  fault := fun _ => ⟨closer, d, f, record, h⟩
  leftover := fun h => by
    rw [hok] at h
    cases h

theorem viewsAgree_of_accounts {log : List LogRecord} {ds : List Diagnostic}
    (ho : r.outcome = .balanced) (hds : r.diagnostics? = .ok ds) (h : AccountsForOpeners t r ds) :
    ViewsAgree t r log ds := by
  have hok : r.ok = true := decide_eq_true ho
  refine ⟨hds, ?_, ?_, fun hnot => ?_, fun _ => h⟩
  · unfold Report.failure?
    simp [ho, hok]
  · rw [hok, eq_self_iff_true, true_iff]
    intro d hd herror
    rw [severity_of_mem_warnings h.warnings hd] at herror
    exact absurd herror (by decide)
  · rw [hok] at hnot
    cases hnot

/-- **The views of every report of a scan agree.** -/
theorem views_agree {settings : List Setting} {scanner : Scanner}
    (h : Scanner.ofSettings name t settings = .ok scanner) :
    ∃ ds, ViewsAgree t scanner.scan.1 scanner.scan.2.log ds := by
  rw [(scanner_scan h).2, report_scan h]
  have hends := Scan.ends_scan t
  generalize Scan.scan t = halt at hends
  cases hends with
  | @balanced stack hr =>
    have hr : Scan.Reachable (t ++ []) (.behind t stack) := by rwa [List.append_nil]
    obtain ⟨ds, hds, haccounts⟩ := exists_accountsForOpeners hr.opened_prefix
    exact ⟨ds, viewsAgree_of_accounts rfl hds haccounts⟩
  | @unmatched p rest c ht _ hk =>
    have hm : (Mark.behind p c).StandsIn t := ⟨p, c, rest, ht, isDelimiter_of_closer hk, rfl⟩
    obtain ⟨hline, hcolumn⟩ :=
      Mark.behind_place (ne_newline_of_isDelimiter (isDelimiter_of_closer hk)) p []
    exact ⟨_, viewsAgree_of_blames rfl rfl (blamesCloser_of_mark hm rfl rfl rfl rfl rfl
      (beginsWith_unmatched _ _) hline hcolumn)⟩
  | @mismatched p rest c o stack ht _ hk _ =>
    have hm : (Mark.behind p c).StandsIn t := ⟨p, c, rest, ht, isDelimiter_of_closer hk, rfl⟩
    obtain ⟨hline, hcolumn⟩ :=
      Mark.behind_place (ne_newline_of_isDelimiter (isDelimiter_of_closer hk)) p stack
    exact ⟨_, viewsAgree_of_blames rfl rfl (blamesCloser_of_mark hm rfl rfl rfl rfl rfl
      (beginsWith_mismatched _ _ _) hline hcolumn)⟩

/-- Of three openers two are listed; the first of two warnings announces the third. -/
theorem views_agree_hidden_opener :
    let t := ['(', '\n', '{', '[']
    let scanner : Scanner := { name := "a", text := t, options := { stackTail := 2 } }
    Scanner.ofSettings "a" t [.stackTail 2] = .ok scanner ∧ Holdable t ∧
      scanner.scan.1.depth = 3 ∧ scanner.scan.1.top.length = 2 ∧
      ∃ ds, ViewsAgree t scanner.scan.1 scanner.scan.2.log ds := by
  intro t scanner
  have h : Scanner.ofSettings "a" t [.stackTail 2] = .ok scanner := rfl
  exact ⟨h, by decide, by decide, by decide, views_agree h⟩

end Nesting
