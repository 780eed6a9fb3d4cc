import Nesting.Proofs.Lines
import Nesting.Proofs.Positions

/-!
# Places are exact

A scan counts characters, lines and columns on its way, and a report gives them as the places of
delimiters. Made by positions, it comes to the same report (`exists_scannedByPositions`), and its
positions never leave the text. What they ought to be can be said of the text alone: the line is one
more than the number of line feeds before the place, and the column is counted from where that line
begins. That the counters agree with this in every state is `Reachable.located`, since a reachable
state is a function of the text read (`State.behind`).

All that a report says about places then follows from one fact: each of its entries is that of a
mark that stands in the text (`exists_mark_of_mem_entries`). No two places share a line and a
column, for between two offsets on one line the column grows with the offset.
-/

namespace Nesting

variable {t p u : Text} {c : Char} {i j : Nat} {e e' : Entry} {m : Mark} {stack : List Mark}

/-! ## The places of a scan -/

/-- **The counters of a state are right**: the line, and the number of characters read of it. -/
structure Scan.State.Located (s : Scan.State) (t : Text) : Prop where
  offset_le : s.offset ≤ t.length
  line : s.line = 1 + (t.take s.offset).count '\n'
  column : ∃ b, LineStart t s.offset b ∧ s.column = s.offset - b

namespace Scan

/-- A state behind the beginning of a text has the right counters. -/
theorem State.Located.behind (p u : Text) (stack : List Mark) :
    (State.behind p stack).Located (p ++ u) where
  offset_le := by
    show p.length ≤ (p ++ u).length
    rw [List.length_append]
    exact Nat.le_add_right _ _
  line := by
    show lineAfter p = 1 + ((p ++ u).take p.length).count '\n'
    rw [List.take_left]
    rfl
  column := by
    refine ⟨_, lineStart_append p u, ?_⟩
    show columnAfter p = p.length - (p.length - columnAfter p)
    exact (Nat.sub_sub_self (columnAfter_le_length p)).symm

/-- The state behind one more character has them too. -/
theorem State.Located.behind_next (p u : Text) (c : Char) (stack : List Mark) :
    (State.behind (p ++ [c]) stack).Located (p ++ c :: u) := by
  rw [show p ++ c :: u = p ++ [c] ++ u by simp]
  exact .behind _ _ _

variable {s : State}

theorem Reachable.located (h : Reachable t s) : s.Located t := by
  obtain ⟨p, u, stack, rfl, rfl, -⟩ := h.opened
  exact .behind p u stack

/-- The character at the offset of a reachable state is the one behind the text read. -/
theorem Reachable.opened_next (h : Reachable t s) (hc : t[s.offset]? = some c) :
    ∃ p u stack, t = p ++ c :: u ∧ s = .behind p stack ∧ Opened p stack := by
  obtain ⟨p, u, stack, rfl, rfl, hO⟩ := h.opened
  have hc : (p ++ u)[p.length]? = some c := hc
  rw [List.getElem?_append_right (Nat.le_refl _), Nat.sub_self] at hc
  cases u with
  | nil => cases hc
  | cons d u =>
    obtain rfl : d = c := Option.some.inj hc
    exact ⟨p, u, stack, rfl, rfl, hO⟩

/-- **A scan goes on from each state it reaches**, with the text from its offset on. -/
theorem Reachable.run_eq (h : Reachable t s) : scan t = run s (t.drop s.offset) := by
  induction h with
  | start => rfl
  | @step s next c hr hc hs ih =>
    obtain ⟨p, u, stack, rfl, rfl, hO⟩ := hr.opened_next hc
    obtain ⟨stack', rfl, -⟩ := opened_step hO hs
    calc scan (p ++ c :: u)
        = run (.behind p stack) ((p ++ c :: u).drop p.length) := ih
      _ = run (.behind p stack) (c :: u) := by rw [List.drop_left]
      _ = run (.behind (p ++ [c]) stack') u := run_cons hs
      _ = run (.behind (p ++ [c]) stack') ((p ++ [c] ++ u).drop (p ++ [c]).length) := by
          rw [List.drop_left]
      _ = run (.behind (p ++ [c]) stack')
            ((p ++ c :: u).drop (State.behind (p ++ [c]) stack').offset) := by
          rw [List.append_assoc, List.singleton_append]
          rfl

/-- The state in which a scan stops has the right counters, with or without its stack. -/
theorem Ends.located {halt : Halt} (h : Ends t halt) :
    State.Located { halt.state with stack := [] } t := by
  cases h with
  | balanced =>
    have hloc := State.Located.behind t [] []
    rw [List.append_nil] at hloc
    exact hloc
  | @unmatched p u c ht =>
    rw [ht]
    exact .behind_next p u c []
  | @mismatched p u c _ _ ht =>
    rw [ht]
    exact .behind_next p u c []

end Scan

/-! ## The marks of a text -/

theorem ne_newline_of_isDelimiter (h : isDelimiter c = true) : c ≠ '\n' := by
  rintro rfl
  revert h
  decide

/-- **A mark stands in a text**: it is that of a delimiter of the text. -/
def Mark.StandsIn (m : Mark) (t : Text) : Prop :=
  ∃ p c u, t = p ++ c :: u ∧ isDelimiter c = true ∧ m = Mark.behind p c

theorem Mark.StandsIn.append (h : m.StandsIn t) (u : Text) : m.StandsIn (t ++ u) := by
  obtain ⟨p, c, v, rfl, hc, rfl⟩ := h
  exact ⟨p, c, v ++ u, by simp, hc, rfl⟩

/-- The openers left open stand in the text. -/
theorem Opened.standsIn (h : Opened t stack) (hm : m ∈ stack) : m.StandsIn t := by
  induction h with
  | flat => cases hm
  | @deeper t u c stack _ hc _ ih =>
    obtain rfl | hm := List.mem_cons.mp hm
    · exact ⟨t, c, u, rfl, isDelimiter_of_opener hc, rfl⟩
    · exact (ih hm).append _

/-- The entries of a report: the opener, the closer, and those listed. -/
def Report.entries (r : Report) : List Entry :=
  r.opener.toList ++ r.closer.toList ++ r.top

theorem exists_mem_stack_of_mem_top {name : String} {options : Options} {halt : Scan.Halt}
    (h : e ∈ (Report.ofHalt name options t halt).top) :
    ∃ m ∈ halt.state.stack, e = m.entry := by
  rw [top_ofHalt] at h
  obtain ⟨m, hm, rfl⟩ := List.mem_map.mp h
  exact ⟨m, List.mem_of_mem_take (List.mem_reverse.mp hm), rfl⟩

/-- **Every entry of the report of a scan is that of a mark in the text.** -/
theorem exists_mark_of_mem_entries {name : String} {options : Options} {halt : Scan.Halt}
    (hends : Scan.Ends t halt) (h : e ∈ (Report.ofHalt name options t halt).entries) :
    ∃ m : Mark, m.StandsIn t ∧ e = m.entry := by
  obtain h | htop := List.mem_append.mp h
  · cases hends with
    | balanced => cases h
    | @unmatched p u c ht _ hk =>
      obtain rfl := List.mem_singleton.mp h
      exact ⟨_, ⟨p, c, u, ht, isDelimiter_of_closer hk, rfl⟩, rfl⟩
    | @mismatched p u c o stack ht hr hk _ =>
      subst ht
      obtain rfl | h := List.mem_cons.mp h
      · exact ⟨_, (hr.opened_prefix.standsIn List.mem_cons_self).append _, rfl⟩
      · obtain rfl := List.mem_singleton.mp h
        exact ⟨_, ⟨p, c, u, rfl, isDelimiter_of_closer hk, rfl⟩, rfl⟩
  · obtain ⟨m, hm, rfl⟩ := exists_mem_stack_of_mem_top htop
    refine ⟨m, ?_, rfl⟩
    cases hends with
    | @balanced stack hr =>
      have hr : Scan.Reachable (t ++ []) (.behind t stack) := by rwa [List.append_nil]
      exact hr.opened_prefix.standsIn hm
    | unmatched => cases hm
    | mismatched ht hr _ _ =>
      subst ht
      exact (hr.opened_prefix.standsIn (List.mem_cons_of_mem _ hm)).append _

/-! ## The places of entries -/

/-- **An entry is about the character at offset `i` of a text**, and its line and its column are
those of this place. -/
structure Entry.At (e : Entry) (t : Text) (i : Nat) : Prop where
  offset : e.offset = i
  delimiter : t[i]?.map CodePoint.ofChar = some e.delimiter
  line : e.line = 1 + (t.take i).count '\n'
  column : ∃ b, LineStart t i b ∧ e.column = (i : Int) - b + 1
  one_le_column : 1 ≤ e.column

theorem Mark.StandsIn.at_offset (h : m.StandsIn t) : m.entry.At t m.offset := by
  obtain ⟨p, c, u, rfl, -, rfl⟩ := h
  have hle := columnAfter_le_length p
  refine ⟨rfl, ?_, ?_, ⟨_, lineStart_append p (c :: u), ?_⟩, ?_⟩
  · show (p ++ c :: u)[p.length]?.map _ = some (CodePoint.ofChar c)
    simp
  · show ((lineAfter p : Nat) : Int) = 1 + (((p ++ c :: u).take p.length).count '\n' : Nat)
    rw [List.take_left, lineAfter, Int.natCast_add]
    rfl
  · show ((columnAfter p + 1 : Nat) : Int) = (p.length : Int) - (p.length - columnAfter p : Nat) + 1
    omega
  · show 1 ≤ ((columnAfter p + 1 : Nat) : Int)
    omega

theorem Entry.At.lt_length (h : e.At t i) : i < t.length := by
  obtain ⟨c, hc, -⟩ := Option.map_eq_some_iff.mp h.delimiter
  exact (List.getElem?_eq_some_iff.mp hc).1

theorem Entry.At.column_eq (h : e.At t i) : e.column = columnAfter (t.take i) + 1 := by
  obtain ⟨b, hb, hcol⟩ := h.column
  have hsub := hb.sub_eq (Nat.le_of_lt h.lt_length)
  have hle := hb.le
  omega

/-- Within one line the column grows with the offset. -/
theorem eq_of_same_place (hij : i ≤ j) (hj : j ≤ t.length)
    (hline : (t.take i).count '\n' = (t.take j).count '\n')
    (hcolumn : columnAfter (t.take i) = columnAfter (t.take j)) : i = j := by
  have hsplit : t.take j = t.take i ++ (t.take j).drop i := by
    conv_lhs => rw [← List.take_append_drop i (t.take j)]
    rw [List.take_take, Nat.min_eq_left hij]
  have hclear : '\n' ∉ (t.take j).drop i := by
    rw [hsplit, List.count_append] at hline
    exact List.count_eq_zero.mp (by omega)
  rw [hsplit, columnAfter_of_not_mem hclear, List.length_drop, List.length_take,
    Nat.min_eq_left hj] at hcolumn
  omega

/-- **Line and column determine the place.** -/
theorem Entry.At.eq_of_same_place (h : e.At t i) (h' : e'.At t j) (hline : e.line = e'.line)
    (hcolumn : e.column = e'.column) : i = j := by
  have hi := h.lt_length
  have hj := h'.lt_length
  rw [h.line, h'.line] at hline
  rw [h.column_eq, h'.column_eq] at hcolumn
  obtain hij | hji := Nat.le_total i j
  · exact Nesting.eq_of_same_place hij (Nat.le_of_lt hj) (by omega) (by omega)
  · exact (Nesting.eq_of_same_place hji (Nat.le_of_lt hi) (by omega) (by omega)).symm

/-! ## The scanner after the scan -/

section Scanner

variable {name : String} {settings : List Setting} {scanner : Scanner}

/-- The first scan of a scanner leaves the place at which it ended and logs one record. -/
theorem scanner_scan (h : Scanner.ofSettings name t settings = .ok scanner) :
    scanner.scan.2.state = { (Scan.scan t).state with stack := [] } ∧
      scanner.scan.2.log = [Scanner.logRecord name (Scan.scan t)] := by
  unfold Scanner.ofSettings at h
  split at h
  · cases h
    exact ⟨rfl, rfl⟩
  · cases h

/-- **The scan of a scanner, made by positions**: it never looks for a character where there is
none, and it comes to the same report and the same place. -/
structure ScannedByPositions (name : String) (t : Text) (scanner : Scanner) (stop : Stop) :
    Prop where
  scan : (Cursor.start t).scan? = some stop
  reached : Cursor.Reached t stop.cursor
  report : stop.report name scanner.options = scanner.scan.1
  next : stop.cursor.next = scanner.scan.2.state.offset
  line : stop.cursor.line = scanner.scan.2.state.line
  column : stop.cursor.column = scanner.scan.2.state.column
  /-- At the end of the text the current position is behind its last character. -/
  current : scanner.scan.1.outcome = .balanced → stop.cursor.current = t.length

theorem exists_scannedByPositions (h : Scanner.ofSettings name t settings = .ok scanner) :
    ∃ stop, ScannedByPositions name t scanner stop := by
  obtain ⟨stop, hscan, hshows⟩ := Cursor.exists_scan?_start t
  obtain ⟨hstate, -⟩ := scanner_scan h
  refine ⟨stop, hscan, hshows.reached, ?_, ?_, ?_, ?_, fun hbalanced => ?_⟩
  · rw [report_scan h, hshows.report]
  · rw [hstate, hshows.next]
  · rw [hstate, hshows.line]
  · rw [hstate, hshows.column]
  · rw [report_scan h] at hbalanced
    exact hshows.current (verdict_of_outcome hbalanced)

/-- **What exact places are**, for the first scan of a scanner of a text. -/
structure PlacesExact (name : String) (t : Text) (scanner : Scanner) : Prop where
  /-- The two positions of the scan are in order and within the text, and its counters are those of
  the text in front of the next one. -/
  positions : ∀ c, Cursor.Reached t c → c.Sound t
  /-- So there is a character wherever the scan reads one. -/
  reads : ∀ c, Cursor.Reached t c → c.next < c.length →
    ∃ moved, c.read? = some moved ∧ Cursor.Reads t c moved
  /-- The positions are those of the scan that gives the report. -/
  scanned : ∃ stop, ScannedByPositions name t scanner stop
  /-- In every state reached the counters are right, and what is left to read is the text from the
  offset on. -/
  reached : ∀ s, Scan.Reachable t s → s.Located t ∧ Scan.scan t = Scan.run s (t.drop s.offset)
  /-- So they are where the scan stops. -/
  stopped : scanner.scan.2.state.Located t
  /-- Opener, closer and the openers listed have the places of their delimiters. -/
  entries : ∀ e ∈ scanner.scan.1.entries, ∃ i, e.At t i
  /-- A line and a column are those of one place. -/
  unique : ∀ (e e' : Entry) (i j : Nat), e.At t i → e'.At t j → e.line = e'.line →
    e.column = e'.column → i = j
  /-- At the end of the text the log names its last line, and the number of characters on it. -/
  logged : scanner.scan.1.outcome = .balanced → ∃ b, LineStart t t.length b ∧
    scanner.scan.2.log = [{
      severity := .debug
      message := name ++ ":" ++ toString (1 + t.count '\n') ++ ":" ++ toString (t.length - b)
        ++ ": " ++ ("end of input with " ++ toString scanner.scan.1.depth ++ " open") }]

/-- **Places are exact**: in every state that a scan reaches, in the state it stops in, in all
entries of its report and in the log. -/
theorem places_exact (h : Scanner.ofSettings name t settings = .ok scanner) :
    PlacesExact name t scanner where
  positions := fun _ hc => hc.sound
  reads := by
    intro c hc hlt
    obtain ⟨moved, hread⟩ := hc.sound.exists_read? hlt
    exact ⟨moved, hread, hc.sound.reads hread⟩
  scanned := exists_scannedByPositions h
  reached := fun s hs => ⟨hs.located, hs.run_eq⟩
  stopped := by
    rw [(scanner_scan h).1]
    exact (Scan.ends_scan t).located
  entries := by
    intro e he
    rw [report_scan h] at he
    obtain ⟨m, hm, rfl⟩ := exists_mark_of_mem_entries (Scan.ends_scan t) he
    exact ⟨_, hm.at_offset⟩
  unique := fun _ _ _ _ hi hj => hi.eq_of_same_place hj
  logged := by
    rw [(scanner_scan h).2, report_scan h]
    have hends := Scan.ends_scan t
    generalize Scan.scan t = halt at hends
    intro hbalanced
    cases hends with
    | balanced =>
      have hb := lineStart_append t []
      rw [List.append_nil] at hb
      refine ⟨_, hb, ?_⟩
      rw [Nat.sub_sub_self (columnAfter_le_length t)]
      rfl
    | unmatched => cases hbalanced
    | mismatched => cases hbalanced

/-- In a text with a blank line, a tab and an opener on another line than the closer, the bracket at
offset 9 is on line 4 in column 3. -/
theorem places_exact_mismatch :
    let t := ['{', '\n', ' ', ' ', '(', '\n', '\n', '\t', 'x', ']', '\n']
    let scanner : Scanner := { name := "a", text := t, options := {} }
    Scanner.ofSettings "a" t [] = .ok scanner ∧
      scanner.scan.1.entries.map (fun e => (e.line, e.column, e.offset))
        = [(2, 3, 4), (4, 3, 9), (1, 1, 0)] ∧
      PlacesExact "a" t scanner := by
  intro t scanner
  have h : Scanner.ofSettings "a" t [] = .ok scanner := rfl
  exact ⟨h, by decide, places_exact h⟩

end Scanner

end Nesting
