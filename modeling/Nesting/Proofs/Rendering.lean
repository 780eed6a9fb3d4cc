import Nesting.Proofs.LineSearch
import Nesting.Proofs.Places

/-!
# What a rendering shows

A rendering can end early for three reasons: the sink refuses a piece, an entry is missing that the
outcome asks for, or a caret is too far out. The report of a scan gives only the first of them. It
has the entries, and the column of a diagnostic is never beyond the length of the text, so that a
padding is too wide only if the text itself would be.

A rendering that only the sink can stop is one that writes a list of pieces in order; `each_write`
lemmas bring the renderings into that form, and it says at once what is written to a sink that takes
everything. For a diagnostic the pieces are its header, the line that it points into and a caret.
`Figure.PointsInto` is what they must be: the line has the number that the header names, and the
caret stands under the delimiter.
-/

namespace Nesting

/-! ## Renderings that only a sink can stop -/

namespace Writing

variable {α : Type} {pieces : List String}

/-- **A rendering that ends early only when its sink refuses a piece.** -/
def OnlyRefused (w : Writing Unit) : Prop :=
  ∀ s : Sink, (w.runOn s).1 = none ∨ (w.runOn s).1 = some .refused

/-- To write pieces is to write the first ones and then the others. -/
theorem each_append (f : α → Writing Unit) (l l' : List α) :
    each f (l ++ l') = (do each f l; each f l') := by
  induction l with
  | nil => simp [each]
  | cons a l ih => simp [each, ih]

theorem each_singleton (f : α → Writing Unit) (a : α) : each f [a] = f a := by
  simp [each]

theorem each_map {β : Type} (f : β → Writing Unit) (g : α → β) (l : List α) :
    each f (l.map g) = each (fun a => f (g a)) l := by
  induction l with
  | nil => rfl
  | cons a l ih => rw [List.map_cons, each, each, ih]

/-- What is written piece by piece for each of a list is written piece by piece. -/
theorem each_flatMap {f : α → Writing Unit} {g : α → List String} {l : List α}
    (h : ∀ a ∈ l, f a = each write (g a)) : each f l = each write (l.flatMap g) := by
  induction l with
  | nil => rfl
  | cons a l ih =>
    rw [List.flatMap_cons, each_append, each, h a List.mem_cons_self,
      ih fun b hb => h b (List.mem_cons_of_mem a hb)]

theorem run_each_cons_of_ok (f : α → Writing Unit) {a : α} {s s' : Sink}
    (h : (f a).run s = .ok () s') (l : List α) : (each f (a :: l)).run s = (each f l).run s' := by
  show EStateM.bind (f a) (fun _ => each f l) s = _
  unfold EStateM.bind
  rw [show f a s = .ok () s' from h]
  rfl

theorem run_each_cons_of_error (f : α → Writing Unit) {a : α} {s s' : Sink} {e : Fault}
    (h : (f a).run s = .error e s') (l : List α) : (each f (a :: l)).run s = .error e s' := by
  show EStateM.bind (f a) (fun _ => each f l) s = _
  unfold EStateM.bind
  rw [show f a s = .error e s' from h]

theorem run_each_cons_of_refused {s : Sink} (hs : s.refusesNext = true) (piece : String) :
    (each write (piece :: pieces)).run s = .error .refused { s with calls := s.calls + 1 } := by
  refine run_each_cons_of_error write ?_ pieces
  exact if_pos hs

theorem run_each_cons_of_taken {s : Sink} (hs : s.refusesNext = false) (piece : String) :
    (each write (piece :: pieces)).run s = (each write pieces).run
      { s with calls := s.calls + 1, pieces := s.pieces ++ [piece] } := by
  refine run_each_cons_of_ok write ?_ pieces
  exact if_neg (by rw [hs]; exact Bool.false_ne_true)

/-- **Writing pieces is stopped by the sink or by nothing.** -/
theorem onlyRefused_each_write (pieces : List String) : (each write pieces).OnlyRefused := by
  induction pieces with
  | nil => exact fun _ => .inl rfl
  | cons piece pieces ih =>
    intro s
    unfold runOn
    cases hs : s.refusesNext with
    | true =>
      rw [run_each_cons_of_refused hs]
      exact .inr rfl
    | false =>
      rw [run_each_cons_of_taken hs]
      exact ih _

/-- A sink that takes as many pieces as there are holds them in order. -/
theorem run_each_write {n calls : Nat} (pieces before : List String)
    (h : n = 0 ∨ calls + pieces.length < n) :
    (each write pieces).run ⟨n, calls, before⟩
      = .ok () ⟨n, calls + pieces.length, before ++ pieces⟩ := by
  induction pieces generalizing calls before with
  | nil =>
    rw [List.append_nil]
    rfl
  | cons piece pieces ih =>
    rw [List.length_cons] at h
    have htaken : Sink.refusesNext ⟨n, calls, before⟩ = false := by
      show (decide (n ≠ 0) && decide (n ≤ calls + 1)) = false
      rw [Bool.and_eq_false_iff, decide_eq_false_iff_not, decide_eq_false_iff_not]
      omega
    have hrest : n = 0 ∨ calls + 1 + pieces.length < n := by omega
    rw [run_each_cons_of_taken htaken, ih _ hrest, List.append_assoc, List.length_cons,
      Nat.add_right_comm]
    rfl

theorem text_each_write (pieces : List String) :
    (each write pieces).text = .ok (String.join pieces) := by
  unfold text
  rw [run_each_write pieces [] (.inl rfl)]
  rfl

end Writing

/-! ## One diagnostic -/

/-- The pieces that a diagnostic is printed by: the header, the line that it points into, the caret
below it with some padding, and the notes. -/
def Diagnostic.layout (d : Diagnostic) (name : String) (line padding : Text) : List String :=
  [d.header name,
    "    " ++ String.ofList line ++ "\n",
    "    " ++ String.ofList padding ++ "^\n"]
    ++ d.notes.map fun note => "    note: " ++ note ++ "\n"

/-- **What is shown of a diagnostic**: the entry that it is about, the line that it points into, and
what stands before the caret below it. -/
structure Figure where
  entry : Entry
  diagnostic : Diagnostic
  line : Text
  padding : Text

namespace Figure

/-- The pieces that a figure is printed by. -/
def pieces (name : String) (f : Figure) : List String :=
  f.diagnostic.layout name f.line f.padding

/-- **A figure points into a text**: it shows the line with the number of the span, and the caret
stands under the delimiter that is reported. -/
structure PointsInto (f : Figure) (t : Text) : Prop where
  span : f.diagnostic.span = f.entry.span
  /-- The line shown is the one with the number of the span, counted from 1. -/
  line : ∃ k : Nat, f.diagnostic.span.line = k + 1 ∧ (linesOf t)[k]? = some f.line
  /-- In the column of the span the line has the delimiter; as many tabs and blanks as there are
  characters before it stand before the caret, a tab under each tab. -/
  caret : ∃ k : Nat, f.diagnostic.span.column = k + 1 ∧
    f.line[k]?.map CodePoint.ofChar = some f.entry.delimiter ∧ f.padding.length = k ∧
    ∀ i < k, f.padding[i]? = some (if f.line[i]? = some '\t' then '\t' else ' ')
  column_le : f.diagnostic.span.column ≤ t.length

/-- The figure that a diagnostic about an entry is printed as. -/
def ofEntry (t : Text) (e : Entry) (d : Diagnostic) : Figure where
  entry := e
  diagnostic := d
  line := lineAt t d.span.start
  padding := caretPadding (lineAt t d.span.start) d.span.column

end Figure

variable {t p u : Text} {c : Char} {m : Mark} {d : Diagnostic} {name : String}

/-- The line of a character that is not a line feed is what is before it on its line, the character,
and the rest of the line. -/
theorem lineAt_append (p u : Text) (hc : c ≠ '\n') :
    lineAt (p ++ c :: u) p.length = lastLine p ++ c :: u.takeWhile (· ≠ '\n') := by
  have hline := lineAround?_append '\n' p (List.cons_ne_nil c u)
  rw [lineAround?_eq_lineAt, List.takeWhile_cons_of_pos (by simpa using hc)] at hline
  exact Option.some.inj hline

/-- **The figure of a mark points into its text.** -/
theorem Mark.StandsIn.pointsInto (h : m.StandsIn t) (hd : d.span = m.entry.span) :
    (Figure.ofEntry t m.entry d).PointsInto t := by
  obtain ⟨p, c, u, rfl, hc, rfl⟩ := h
  have hline := lineAt_append p u (ne_newline_of_isDelimiter hc)
  have hlen := length_lastLine p
  have hstart : d.span.start = p.length := by
    rw [hd]
    rfl
  have hcolumn : d.span.column = (lastLine p).length + 1 := by
    rw [hd, hlen]
    rfl
  have hshown : (Figure.ofEntry (p ++ c :: u) (Mark.behind p c).entry d).line
      = lastLine p ++ c :: u.takeWhile (· ≠ '\n') := by
    show lineAt (p ++ c :: u) d.span.start = _
    rw [hstart, hline]
  have hpadding : (Figure.ofEntry (p ++ c :: u) (Mark.behind p c).entry d).padding
      = (lastLine p).map fun c => if c = '\t' then '\t' else ' ' := by
    show caretPadding (lineAt (p ++ c :: u) d.span.start) d.span.column = _
    have hk : (((lastLine p).length : Int) + 1 - 1).toNat = (lastLine p).length := by omega
    rw [hstart, hline, hcolumn, caretPadding, hk, List.take_left]
  refine ⟨hd, ⟨p.count '\n', ?_, ?_⟩, ⟨(lastLine p).length, hcolumn, ?_, ?_, ?_⟩, ?_⟩
  · show d.span.line = _
    rw [hd]
    show ((1 + p.count '\n' : Nat) : Int) = _
    omega
  · rw [hshown]
    exact getElem?_linesOf_cons p u (ne_newline_of_isDelimiter hc)
  · rw [hshown, List.getElem?_append_right (Nat.le_refl _), Nat.sub_self]
    rfl
  · rw [hpadding, List.length_map]
  · intro i hi
    rw [hpadding, hshown, List.getElem?_map, List.getElem?_append_left hi,
      List.getElem?_eq_getElem hi]
    simp
  · show d.span.column ≤ _
    have hle := columnAfter_le_length p
    rw [hcolumn, List.length_append, List.length_cons]
    omega

/-- **A caret can be placed** when its column is not negative and the padding before it fits. -/
def Diagnostic.CaretFits (d : Diagnostic) : Prop :=
  0 ≤ d.span.column ∧ d.span.column ≤ widestPadding

instance : DecidablePred Diagnostic.CaretFits :=
  fun _ => inferInstanceAs (Decidable (_ ∧ _))

/-- The pieces that a diagnostic about a text is printed by. -/
def Diagnostic.pieces (d : Diagnostic) (name : String) (t : Text) : List String :=
  let line := lineAt t d.span.start
  d.layout name line (caretPadding line d.span.column)

/-- They are those of its figure, whichever entry the figure is about. -/
theorem Figure.pieces_ofEntry (t : Text) (e : Entry) (d : Diagnostic) (name : String) :
    (Figure.ofEntry t e d).pieces name = d.pieces name t :=
  rfl

/-- **A diagnostic whose caret can be placed is printed piece by piece.** -/
theorem Diagnostic.print_eq_each (h : d.CaretFits) :
    d.print name t = Writing.each Writing.write (d.pieces name t) := by
  obtain ⟨hpos, hwide⟩ := h
  have hnot : ¬ (d.span.column < 0 ∨ widestPadding < d.span.column) := by omega
  unfold Diagnostic.print Diagnostic.pieces Diagnostic.layout
  rw [Writing.each_append, Writing.each_map]
  simp [Writing.each, hnot]

/-! ## The diagnostics of a report -/

/-- The entries that the diagnostics of a report are about: the closer, or the openers listed. -/
def Report.reported (r : Report) : List Entry :=
  match r.closer with
  | some closer => [closer]
  | none => r.top

theorem mem_entries_of_mem_reported {r : Report} {e : Entry} (h : e ∈ r.reported) :
    e ∈ r.entries := by
  unfold Report.reported at h
  unfold Report.entries
  split at h
  · rename_i closer hcloser
    rw [hcloser, List.mem_singleton.mp h]
    simp
  · exact List.mem_append_right _ h

/-- **A report is complete** when it has the entries that its outcome asks for. -/
inductive Report.Complete (r : Report) : Prop
  | balanced : r.outcome = .balanced → r.closer = none → Complete r
  | unmatched {closer : Entry} : r.outcome = .unmatched → r.closer = some closer → Complete r
  | mismatched {opener closer : Entry} : r.outcome = .mismatched → r.opener = some opener →
      r.closer = some closer → Complete r

theorem complete_ofHalt (name : String) (options : Options) (t : Text) (halt : Scan.Halt) :
    (Report.ofHalt name options t halt).Complete := by
  unfold Report.ofHalt
  cases halt.verdict with
  | balanced => exact .balanced rfl rfl
  | unmatched => exact .unmatched rfl rfl
  | mismatched => exact .mismatched rfl rfl rfl

/-- The plain lines of a report in which no closer is at fault. -/
def Report.leftoverLines (r : Report) : List String :=
  ("OK, stack size " ++ toString r.depth ++ "\n")
    :: if r.top = [] then []
      else ["Top of stack " ++ ", ".intercalate (r.top.map Entry.describe) ++ "\n"]

theorem Report.write_eq_leftoverLines {r : Report} (hu : r.outcome ≠ .unmatched)
    (hm : r.outcome ≠ .mismatched) :
    r.write = Writing.each Writing.write r.leftoverLines := by
  unfold Report.write Report.leftoverLines
  split
  · exact absurd ‹_› hu
  · exact absurd ‹_› hm
  · by_cases htop : r.top = [] <;> simp [Writing.each, htop]

namespace Report.Complete

variable {r : Report}

/-- **The plain lines of a complete report are written piece by piece.** -/
theorem exists_write_eq (h : r.Complete) :
    ∃ pieces, r.write = Writing.each Writing.write pieces := by
  cases h with
  | balanced ho _ =>
    exact ⟨_, Report.write_eq_leftoverLines (by rw [ho]; decide) (by rw [ho]; decide)⟩
  | unmatched ho hc =>
    unfold Report.write
    rw [ho, hc]
    exact ⟨[_], by simp [Writing.each, Writing.need]; rfl⟩
  | mismatched ho hop hc =>
    unfold Report.write
    rw [ho, hop, hc]
    exact ⟨[_], by simp [Writing.each, Writing.need]; rfl⟩

theorem exists_failure_eq (h : r.Complete) : ∃ failure, r.failure? = .ok failure := by
  unfold Report.failure?
  cases h with
  | balanced ho _ => exact ⟨none, by rw [ho]⟩
  | unmatched ho hc => exact ⟨_, by rw [ho, hc]⟩
  | mismatched ho hop hc => exact ⟨_, by rw [ho, hop, hc]⟩

/-- **There is one diagnostic for each entry reported**, in the same order and at its place. -/
theorem exists_diagnostics_eq (h : r.Complete) :
    ∃ ds, r.diagnostics? = .ok ds ∧ List.Forall₂ (fun d e => d.span = e.span) ds r.reported := by
  unfold Report.diagnostics? Report.reported
  cases h with
  | unmatched ho hc =>
    rw [ho, hc]
    exact ⟨_, rfl, .cons rfl .nil⟩
  | mismatched ho hop hc =>
    rw [ho, hop, hc]
    exact ⟨_, rfl, .cons rfl .nil⟩
  | balanced ho hc =>
    rw [ho, hc]
    dsimp only
    cases r.top with
    | nil => exact ⟨[], rfl, .nil⟩
    | cons e es =>
      have hrest : List.Forall₂ (fun d e => d.span = e.span) (es.map Report.unclosed) es := by
        rw [List.forall₂_map_left_iff]
        exact List.forall₂_same.mpr fun _ _ => rfl
      rw [List.map_cons]
      dsimp only
      split
      · exact ⟨_, rfl, .cons rfl hrest⟩
      · exact ⟨_, rfl, .cons rfl hrest⟩

end Report.Complete

/-- **Diagnostics at the places of marks are figures that point into the text.** -/
theorem exists_figures {ds : List Diagnostic} {es : List Entry}
    (h : List.Forall₂ (fun d e => d.span = e.span) ds es)
    (hmarks : ∀ e ∈ es, ∃ m : Mark, m.StandsIn t ∧ e = m.entry) :
    ∃ figures : List Figure, figures.map (·.diagnostic) = ds ∧ figures.map (·.entry) = es ∧
      ∀ f ∈ figures, f.PointsInto t ∧ f = Figure.ofEntry t f.entry f.diagnostic := by
  induction h with
  | nil => exact ⟨[], rfl, rfl, by simp⟩
  | @cons d e ds es hd _ ih =>
    obtain ⟨figures, rfl, rfl, hfigures⟩ := ih fun e he => hmarks e (List.mem_cons_of_mem _ he)
    obtain ⟨m, hm, rfl⟩ := hmarks e List.mem_cons_self
    refine ⟨Figure.ofEntry t m.entry d :: figures, rfl, rfl, ?_⟩
    intro f hf
    obtain rfl | hf := List.mem_cons.mp hf
    · exact ⟨hm.pointsInto hd, rfl⟩
    · exact hfigures f hf

/-- **A text that can be held at all.** Its code points take as much room as those of a padding, so
the limit is the same. A longer one is never scanned. -/
def Holdable (t : Text) : Prop :=
  (t.length : Int) ≤ widestPadding

instance : DecidablePred Holdable :=
  fun _ => inferInstanceAs (Decidable (_ ≤ _))

/-- Without diagnostics there is one line, with diagnostics there are their figures. -/
theorem writeDiagnostics_eq {r : Report} {figures : List Figure}
    (hds : r.diagnostics? = .ok (figures.map (·.diagnostic)))
    (hfigures : ∀ f ∈ figures, f.PointsInto t ∧ f = Figure.ofEntry t f.entry f.diagnostic)
    (hfits : Holdable t) :
    ∃ pieces, r.writeDiagnostics t = Writing.each Writing.write pieces ∧
      (figures = [] → pieces.length = 1) ∧
      (figures ≠ [] → pieces = figures.flatMap (·.pieces r.name)) := by
  unfold Report.writeDiagnostics
  rw [hds]
  cases figures with
  | nil =>
    show ∃ pieces, (if r.depth ≠ 0 then _ else _) = _ ∧ _
    split
    · exact ⟨[_], (Writing.each_singleton _ _).symm, fun _ => rfl, fun h => absurd rfl h⟩
    · exact ⟨[_], (Writing.each_singleton _ _).symm, fun _ => rfl, fun h => absurd rfl h⟩
  | cons f figures =>
    refine ⟨_, ?_, fun h => absurd h (List.cons_ne_nil _ _), fun _ => rfl⟩
    show Writing.each (fun d => d.print r.name t) ((f :: figures).map (·.diagnostic)) = _
    rw [Writing.each_map]
    refine Writing.each_flatMap fun g hg => ?_
    obtain ⟨hpoints, hg⟩ := hfigures g hg
    obtain ⟨k, hk, -⟩ := hpoints.caret
    have hcaret : g.diagnostic.CaretFits := ⟨by omega, hpoints.column_le.trans hfits⟩
    rw [Diagnostic.print_eq_each hcaret, ← Figure.pieces_ofEntry t g.entry, ← hg]

/-! ## Every report of a scan -/

/-- **What it means that a report can be rendered**, about the text `t` that was scanned. -/
structure Renders (t : Text) (r : Report) : Prop where
  /-- The plain lines are written, to any sink. -/
  write : r.write.OnlyRefused
  /-- They make a text. -/
  text : ∃ text, r.write.text = .ok text
  failure : ∃ failure, r.failure? = .ok failure
  /-- There are diagnostics, one for each entry reported, and each points at its delimiter. They are
  what is printed, to any sink. -/
  diagnostics : ∃ figures : List Figure, r.diagnostics? = .ok (figures.map (·.diagnostic)) ∧
    figures.map (·.entry) = r.reported ∧ (∀ f ∈ figures, f.PointsInto t) ∧
    (Holdable t →
      (r.writeDiagnostics t).OnlyRefused ∧
      ∃ pieces, (r.writeDiagnostics t).text = .ok (String.join pieces) ∧
        (figures = [] → pieces.length = 1) ∧
        (figures ≠ [] → pieces = figures.flatMap (·.pieces r.name)))

/-- **Every report of a scan can be rendered, and its carets stand under the delimiters.** -/
theorem report_renders {settings : List Setting} {scanner : Scanner}
    (h : Scanner.ofSettings name t settings = .ok scanner) : Renders t scanner.scan.1 := by
  rw [report_scan h]
  have hcomplete := complete_ofHalt name scanner.options t (Scan.scan t)
  have hmarks : ∀ e ∈ (Report.ofHalt name scanner.options t (Scan.scan t)).reported,
      ∃ m : Mark, m.StandsIn t ∧ e = m.entry := fun e he =>
    exists_mark_of_mem_entries (Scan.ends_scan t) (mem_entries_of_mem_reported he)
  generalize Report.ofHalt name scanner.options t (Scan.scan t) = r at hcomplete hmarks
  obtain ⟨lines, hlines⟩ := hcomplete.exists_write_eq
  obtain ⟨ds, hds, hspans⟩ := hcomplete.exists_diagnostics_eq
  obtain ⟨figures, rfl, hentries, hfigures⟩ := exists_figures hspans hmarks
  refine ⟨?_, ?_, hcomplete.exists_failure_eq, figures, hds, hentries,
    fun f hf => (hfigures f hf).1, fun hfits => ?_⟩
  · rw [hlines]
    exact Writing.onlyRefused_each_write lines
  · rw [hlines]
    exact ⟨_, Writing.text_each_write lines⟩
  · obtain ⟨pieces, hpieces, hnone, hsome⟩ := writeDiagnostics_eq hds hfigures hfits
    rw [hpieces]
    exact ⟨Writing.onlyRefused_each_write pieces, pieces, Writing.text_each_write pieces, hnone,
      hsome⟩

/-- A bracket closed by a parenthesis on an indented line: two blanks and a tab stand before the
caret, under `\t[b)`. -/
theorem report_renders_indented :
    let t := ['f', '(', 'a', ',', '\n', '\t', '[', 'b', ')']
    let scanner : Scanner := { name := "a", text := t, options := {} }
    Scanner.ofSettings "a" t [] = .ok scanner ∧ Holdable t ∧
      scanner.scan.1.reported.map (fun e => (e.line, e.column)) = [(2, 4)] ∧
      caretPadding (lineAt t 8) 4 = ['\t', ' ', ' '] ∧ Renders t scanner.scan.1 := by
  intro t scanner
  have h : Scanner.ofSettings "a" t [] = .ok scanner := rfl
  exact ⟨h, by decide, by decide, by decide, report_renders h⟩

end Nesting
