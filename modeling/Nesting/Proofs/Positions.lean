import Nesting.Proofs.Verdict
import Nesting.Scan.Cursor

/-!
# Positions stay in the text

A scan by positions keeps its two positions in order and within the text, so that there is a
character wherever it looks for one. Its counters are those of the text in front of the next
position. All of this is one invariant, `Cursor.Sound`: each move of a cursor keeps it, and so it
holds in every cursor that is reached (`Reached.sound`).

The same scan is made by `Scan.run`, which consumes its text. The text in front of the next position
is what that has read, and the two stacks hold the same delimiters. Reading a character keeps the
one, treating it keeps the other (`treat_of_step_ok`), so both scans stop with the same report: this
is an induction over the text that is left to read (`exists_scan?_shows`).
-/

namespace Nesting

variable {t p u : Text} {c moved : Cursor} {d : Char} {stack : List Mark}

namespace Cursor

/-! ## The cursors of a scan -/

/-- **The cursors that a scan by positions can reach.** The moves are not tied to their order in a
scan, so there are some more than it does reach. -/
inductive Reached (t : Text) : Cursor → Prop
  | start : Reached t (.start t)
  /-- The next character is read. -/
  | read {c moved : Cursor} : Reached t c → c.next < c.length → c.read? = some moved →
      Reached t moved
  /-- The current character is treated. -/
  | treat {c treated : Cursor} : Reached t c → c.treat = .ok treated → Reached t treated
  /-- A closer stops the scan. -/
  | wrong {c : Cursor} {stop : Stop} : Reached t c → c.treat = .error stop → Reached t stop.cursor
  /-- The end of the text stops the scan. -/
  | exhausted {c : Cursor} : Reached t c → ¬ c.next < c.length →
      Reached t { c with current := c.length }

/-- **The positions of a cursor are in order and within the text**, and its counters are those of
the text in front of the next position. -/
structure Sound (t : Text) (c : Cursor) : Prop where
  input : c.input = t
  length : c.length = t.length
  current_nonneg : 0 ≤ c.current
  current_le_next : c.current ≤ c.next
  next_le_length : c.next ≤ c.length
  line : c.line = 1 + ((t.take c.next.toNat).count '\n' : Int)
  column : c.column = columnAfter (t.take c.next.toNat)

theorem sound_start (t : Text) : Sound t (.start t) where
  input := rfl
  length := rfl
  current_nonneg := Int.le_refl 0
  current_le_next := Int.le_refl 0
  next_le_length := Int.natCast_nonneg _
  line := rfl
  column := rfl

/-- There is a character at each position in front of the end. -/
theorem exists_charAt? {position : Int} (h : 0 ≤ position) (hlt : position < t.length) :
    ∃ d, charAt? t position = some d := by
  unfold charAt?
  rw [if_pos h]
  exact ⟨_, List.getElem?_eq_getElem (by omega)⟩

/-- **Reading never fails in front of the end.** -/
theorem Sound.exists_read? (h : c.Sound t) (hlt : c.next < c.length) :
    ∃ moved, c.read? = some moved := by
  have h0 := h.current_nonneg
  have hle := h.current_le_next
  have hlen := h.length
  obtain ⟨d, hd⟩ := exists_charAt? (t := t) (by omega : 0 ≤ c.next) (by omega)
  rw [← h.input] at hd
  unfold Cursor.read?
  rw [hd]
  exact ⟨_, rfl⟩

/-- What reading a character does beside counting it. -/
structure Reads (t : Text) (c moved : Cursor) : Prop where
  char : charAt? t moved.current = some moved.char
  current : moved.current = c.next
  next : moved.next = c.next + 1
  stack : moved.stack = c.stack

theorem Sound.reads (h : c.Sound t) (hread : c.read? = some moved) : Reads t c moved := by
  obtain ⟨d, hd, rfl⟩ := Option.map_eq_some_iff.mp hread
  rw [h.input] at hd
  exact ⟨hd, rfl, rfl, rfl⟩

theorem Sound.read (h : c.Sound t) (hread : c.read? = some moved) : moved.Sound t := by
  have h0 : 0 ≤ c.next := Int.le_trans h.current_nonneg h.current_le_next
  obtain ⟨d, hd, rfl⟩ := Option.map_eq_some_iff.mp hread
  have hd : t[c.next.toNat]? = some d := by
    rw [h.input, charAt?, if_pos h0] at hd
    exact hd
  have hlt := (List.getElem?_eq_some_iff.mp hd).1
  have htake : t.take (c.next + 1).toNat = t.take c.next.toNat ++ [d] := by
    rw [Int.toNat_add h0 (by decide), show (1 : Int).toNat = 1 from rfl, List.take_add_one, hd]
    rfl
  have hlen := h.length
  exact {
    input := h.input
    length := h.length
    current_nonneg := h0
    current_le_next := by
      show c.next ≤ c.next + 1
      omega
    next_le_length := by
      show c.next + 1 ≤ c.length
      omega
    line := by
      show (if d = '\n' then c.line + 1 else c.line) = (lineAfter (t.take (c.next + 1).toNat) : Nat)
      rw [htake, lineAfter_append, h.line]
      unfold lineAfter
      split <;> omega
    column := by
      show (if d = '\n' then 0 else c.column + 1) = (columnAfter (t.take (c.next + 1).toNat) : Int)
      rw [htake, columnAfter_append, h.column]
      split <;> rfl }

theorem Sound.with_stack (h : c.Sound t) (stack : List Entry) : Sound t { c with stack } :=
  ⟨h.input, h.length, h.current_nonneg, h.current_le_next, h.next_le_length, h.line, h.column⟩

/-- At the end of the text both positions are its length. -/
theorem Sound.exhausted (h : c.Sound t) (hend : ¬ c.next < c.length) :
    Sound t { c with current := c.length } :=
  ⟨h.input, h.length,
    Int.le_trans h.current_nonneg (Int.le_trans h.current_le_next h.next_le_length),
    Int.not_lt.mp hend, h.next_le_length, h.line, h.column⟩

/-- **Every cursor that is reached is sound.** -/
theorem Reached.sound (h : Reached t c) : c.Sound t := by
  induction h with
  | start => exact sound_start t
  | read _ _ hread ih => exact ih.read hread
  | @treat c treated _ htreat ih =>
    obtain ⟨stack, hok⟩ | ⟨_, _, herror, -⟩ := c.treat_cases
    · cases htreat.symm.trans hok
      exact ih.with_stack stack
    · cases htreat.symm.trans herror
  | @wrong c stop _ htreat ih =>
    obtain ⟨_, hok⟩ | ⟨_, stack, herror, hcursor⟩ := c.treat_cases
    · cases htreat.symm.trans hok
    · cases htreat.symm.trans herror
      rw [hcursor]
      exact ih.with_stack stack
  | exhausted _ hend ih => exact ih.exhausted hend

/-! ## The same scan -/

/-- The counters of a sound cursor, by the text in front of the next position. -/
theorem Sound.counters (h : c.Sound (p ++ u)) (hnext : c.next = p.length) :
    c.line = lineAfter p ∧ c.column = columnAfter p := by
  have hline := h.line
  have hcolumn := h.column
  rw [hnext, Int.toNat_natCast, List.take_left] at hline hcolumn
  refine ⟨?_, hcolumn⟩
  rw [hline]
  exact (Int.natCast_add 1 _).symm

/-- The entry of a character just read is that of its mark. -/
theorem Sound.entry_eq (h : moved.Sound (p ++ d :: u)) (hchar : moved.char = d) (hd : d ≠ '\n')
    (hcurrent : moved.current = p.length) (hnext : moved.next = p.length + 1) :
    moved.entry = (Mark.behind p d).entry := by
  have h : moved.Sound (p ++ [d] ++ u) := by
    rw [List.append_assoc]
    exact h
  obtain ⟨hline, hcolumn⟩ := h.counters (by rw [hnext, List.length_append]; rfl)
  rw [lineAfter_append, if_neg hd] at hline
  rw [columnAfter_append, if_neg hd] at hcolumn
  unfold entry Mark.entry Mark.behind
  rw [hchar, hline, hcolumn, hcurrent]

end Cursor

/-- **A scan by positions stops as a scan does that consumes its text**: at the same place, with the
same report. -/
structure Stop.Shows (t : Text) (halt : Scan.Halt) (s : Stop) : Prop where
  reached : Cursor.Reached t s.cursor
  next : s.cursor.next = halt.state.offset
  line : s.cursor.line = halt.state.line
  column : s.cursor.column = halt.state.column
  report : ∀ name options, s.report name options = Report.ofHalt name options t halt
  /-- A scan that comes through the text leaves the current position behind its last character. -/
  current : halt.verdict = .balanced → s.cursor.current = t.length

namespace Cursor

/-! ### One turn of the scan -/

/-- The equation of a scan, without what its termination needs. -/
theorem scan?_eq (c : Cursor) :
    c.scan? = match c.advance? with
      | none => none
      | some (false, last) => some { outcome := .balanced, cursor := last }
      | some (true, found) =>
        match found.treat with
        | .error stop => some stop
        | .ok treated => treated.scan? := by
  rw [scan?]
  split
  · simp only [*]
  · simp only [*]
  · simp only [*]
    split <;> simp only [*]

/-- A line feed is passed over. -/
theorem scan?_of_feed (hlt : c.next < c.length) (hread : c.read? = some moved)
    (hfeed : moved.char = '\n') : c.scan? = moved.scan? := by
  have hadvance : c.advance? = moved.advance? := by
    rw [advance?, if_pos hlt]
    split
    · cases hread.symm.trans ‹_›
    · cases hread.symm.trans ‹_›
      exact if_pos hfeed
  rw [scan?_eq c, scan?_eq moved, hadvance]

/-- Any other character is treated. -/
theorem scan?_of_found (hlt : c.next < c.length) (hread : c.read? = some moved)
    (hfound : moved.char ≠ '\n') :
    c.scan? = match moved.treat with
      | .error stop => some stop
      | .ok treated => treated.scan? := by
  have hadvance : c.advance? = some (true, moved) := by
    rw [advance?, if_pos hlt]
    split
    · cases hread.symm.trans ‹_›
    · cases hread.symm.trans ‹_›
      exact if_neg hfound
  rw [scan?_eq, hadvance]

/-- Without a character left the scan has come through. -/
theorem scan?_of_end (hend : ¬ c.next < c.length) :
    c.scan? = some { outcome := .balanced, cursor := { c with current := c.length } } := by
  have hadvance : c.advance? = some (false, { c with current := c.length }) := by
    rw [advance?, if_neg hend]
  rw [scan?_eq, hadvance]

/-! ### One delimiter -/

/-- For a closer, asking for its code point is asking for it. -/
theorem closer_ofChar_eq_iff {o : Char} (h : Kind.ofChar d = .closer) :
    (CodePoint.ofChar o).closer = CodePoint.ofChar d ↔ closing? o = some d := by
  refine ⟨fun heq => ?_, CodePoint.closer_ofChar⟩
  cases hc : closing? o with
  | none =>
    have hzero : (CodePoint.ofChar o).closer = CodePoint.ofChar '\x00' := by
      unfold CodePoint.closer
      rw [CodePoint.char?_ofChar, Option.bind_some, hc]
      rfl
    obtain rfl := CodePoint.ofChar_injective (hzero.symm.trans heq)
    revert h
    decide
  | some e =>
    rw [CodePoint.ofChar_injective ((CodePoint.closer_ofChar hc).symm.trans heq)]

section Treat

variable (hentry : moved.entry = (Mark.behind p moved.char).entry)
  (hstack : moved.stack = stack.map Mark.entry)

include hentry hstack

/-- **A character that lets the scan go on does the same to both stacks.** -/
theorem treat_of_step_ok {next : Scan.State}
    (h : Scan.step (.behind p stack) moved.char = .ok next) :
    ∃ stack', next = .behind (p ++ [moved.char]) stack' ∧
      moved.treat = .ok { moved with stack := stack'.map Mark.entry } := by
  have hmoves := Scan.moves_step p stack moved.char
  rw [h] at hmoves
  unfold treat
  cases hmoves with
  | pass hk =>
    refine ⟨stack, rfl, ?_⟩
    rw [hk, ← hstack]
  | push hk =>
    refine ⟨_, rfl, ?_⟩
    rw [hk, hstack, hentry, List.map_cons]
  | @pop o stack _ hc =>
    refine ⟨stack, rfl, ?_⟩
    rw [(kind_of_closing hc).2, hstack, hentry]
    exact if_pos (CodePoint.closer_ofChar hc)

/-- **A closer that stops the one scan stops the other**, with the same report. -/
theorem treat_of_step_error {halt : Scan.Halt} (hinput : moved.input = t)
    (h : Scan.step (.behind p stack) moved.char = .error halt) :
    ∃ stop stack', halt.state = .behind (p ++ [moved.char]) stack' ∧ moved.treat = .error stop ∧
      stop.cursor = { moved with stack := stack'.map Mark.entry } ∧
      ∀ name options, stop.report name options = Report.ofHalt name options t halt := by
  have hmoves := Scan.moves_step p stack moved.char
  rw [h] at hmoves
  unfold treat
  cases hmoves with
  | unmatched hk =>
    have hnil : moved.stack = [] := hstack
    rw [hk, hnil]
    refine ⟨_, [], rfl, rfl, ?_, fun name options => ?_⟩
    · show moved = { moved with stack := [] }
      rw [← hnil]
    · simp only [Stop.report, Report.ofHalt, hentry, hstack, hinput, List.map_reverse,
        List.map_take]
      rfl
  | @mismatched o stack _ hk hc =>
    have hne : ¬ (o.entry.delimiter.closer = (Mark.behind p moved.char).entry.delimiter) :=
      mt (closer_ofChar_eq_iff hk).mp hc
    rw [hk, hstack, hentry, List.map_cons]
    dsimp only
    rw [if_neg hne]
    refine ⟨_, stack, rfl, rfl, rfl, fun name options => ?_⟩
    simp only [Stop.report, Report.ofHalt, hinput, List.map_reverse, List.map_take, List.length_map]
    rfl

end Treat

/-! ### The whole scan -/

/-- The character read next is the first of what is left. -/
theorem Reads.char_eq (h : Reads (p ++ d :: u) c moved) (hnext : c.next = p.length) :
    moved.char = d := by
  have hchar := h.char
  rw [h.current, hnext, charAt?, if_pos (Int.natCast_nonneg _), Int.toNat_natCast] at hchar
  simpa using hchar.symm

/-- What comes at the end of the text, for a cursor that has come there. -/
theorem shows_of_end (hr : Reached t c) (hnext : c.next = t.length)
    (hstack : c.stack = stack.map Mark.entry) :
    ∃ stop, c.scan? = some stop ∧ stop.Shows t ⟨.balanced, .behind t stack⟩ := by
  have hlen := hr.sound.length
  have hend : ¬ c.next < c.length := by omega
  have hs : c.Sound (t ++ []) := by
    rw [List.append_nil]
    exact hr.sound
  obtain ⟨hline, hcolumn⟩ := hs.counters hnext
  refine ⟨_, scan?_of_end hend, hr.exhausted hend, hnext, hline, hcolumn, fun name options => ?_,
    fun _ => hlen⟩
  simp only [Stop.report, Report.ofHalt, hstack, List.map_reverse, List.map_take, List.length_map]
  rfl

/-- What comes of a closer that stops the scan, for a cursor that has just read it. -/
theorem shows_of_wrong {halt : Scan.Halt} (hm : Reached t moved) (ht : t = p ++ [moved.char] ++ u)
    (hnext : moved.next = (p ++ [moved.char]).length)
    (hentry : moved.entry = (Mark.behind p moved.char).entry)
    (hstack : moved.stack = stack.map Mark.entry)
    (hs : Scan.step (.behind p stack) moved.char = .error halt) :
    ∃ stop, moved.treat = .error stop ∧ stop.Shows t halt := by
  obtain ⟨stop, stack', hstate, htreat, hcursor, hreport⟩ :=
    treat_of_step_error hentry hstack hm.sound.input hs
  obtain ⟨hline, hcolumn⟩ := (ht ▸ hm.sound).counters hnext
  refine ⟨stop, htreat, hm.wrong htreat, ?_, ?_, ?_, hreport, fun hbalanced => ?_⟩
  · rw [hcursor, hstate]
    exact hnext
  · rw [hcursor, hstate]
    exact hline
  · rw [hcursor, hstate]
    exact hcolumn
  · exact absurd hbalanced (Scan.verdict_ne_balanced hs)

/-- From every cursor that is reached, both scans stop in the same way. -/
theorem exists_scan?_shows (hr : Reached t c) (ht : t = p ++ u) (hnext : c.next = p.length)
    (hstack : c.stack = stack.map Mark.entry) :
    ∃ stop, c.scan? = some stop ∧ stop.Shows t (Scan.run (.behind p stack) u) := by
  induction u generalizing c p stack with
  | nil =>
    rw [List.append_nil] at ht
    subst ht
    exact shows_of_end hr hnext hstack
  | cons d u ih =>
    have ht' : t = p ++ [d] ++ u := by rw [ht, List.append_assoc, List.singleton_append]
    have hlt : c.next < c.length := by
      rw [hnext, hr.sound.length, ht, List.length_append, List.length_cons]
      omega
    obtain ⟨moved, hread⟩ := hr.sound.exists_read? hlt
    have hm : Reached t moved := hr.read hlt hread
    have hreads := hr.sound.reads hread
    obtain rfl : moved.char = d := Reads.char_eq (ht ▸ hreads) hnext
    have hnext' : moved.next = (p ++ [moved.char]).length := by
      rw [hreads.next, hnext, List.length_append]
      rfl
    have hstack' : moved.stack = stack.map Mark.entry := hreads.stack.trans hstack
    by_cases hfeed : moved.char = '\n'
    · -- a line feed is passed over by the one scan and delimits nothing in the other
      have hk : Kind.ofChar moved.char = .notDelimiter := by
        rw [hfeed]
        rfl
      rw [scan?_of_feed hlt hread hfeed, Scan.run_cons (Scan.step_pass hk)]
      exact ih hm ht' hnext' hstack'
    · have hentry : moved.entry = (Mark.behind p moved.char).entry :=
        (ht ▸ hm.sound).entry_eq rfl hfeed (hreads.current.trans hnext) (by rw [hreads.next, hnext])
      rw [scan?_of_found hlt hread hfeed]
      cases hs : Scan.step (.behind p stack) moved.char with
      | ok next =>
        obtain ⟨stack', rfl, htreat⟩ := treat_of_step_ok hentry hstack' hs
        rw [htreat, Scan.run_cons hs]
        exact ih (hm.treat htreat) ht' hnext' rfl
      | error halt =>
        obtain ⟨stop, htreat, hshows⟩ := shows_of_wrong hm ht' hnext' hentry hstack' hs
        rw [htreat, Scan.run_cons_error hs]
        exact ⟨stop, rfl, hshows⟩

/-- **A scan by positions never fails, and stops as the scan does that consumes its text.** -/
theorem exists_scan?_start (t : Text) :
    ∃ stop, (start t).scan? = some stop ∧ stop.Shows t (Scan.scan t) := by
  have hstack : (start t).stack = ([] : List Mark).map Mark.entry := rfl
  exact exists_scan?_shows (p := []) .start rfl rfl hstack

end Cursor

end Nesting
