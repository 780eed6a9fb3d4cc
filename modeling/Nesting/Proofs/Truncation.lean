import Mathlib.Algebra.GroupWithZero.Nat
import Nesting.Proofs.Rendering

/-!
# Sinks that fail half-way

A sink that refuses its `n`-th piece, and every piece behind it, should be left with the first `n -
1` pieces of a rendering and with nothing else, and whoever asked for the rendering should be told.
A rendering is a loop over diagnostics with a loop over notes inside, and has lines that are written
in some cases only; one refusal that it does not pass on, and it would go on writing.

None of that has to be followed refusal by refusal. A rendering that comes to its end on a sink that
takes everything is *equal* to the writing of a list of pieces, one after the other, and for such a
list the cut is a single induction (`run_each_write_refused`). What has to be shown of each
rendering is the equality. It holds for reports and diagnostics put together by hand as well: what
could make it fail, a missing entry or a caret that cannot be placed, would end the rendering on any
sink.
-/

namespace Nesting

/-! ## Lists of pieces -/

namespace Writing

/-- **A rendering comes to its end** on a sink that takes everything: it lacks nothing that it
needs. -/
def Completes (w : Writing Unit) : Prop :=
  (w.runOn {}).1 = none

instance : DecidablePred Completes :=
  fun _ => inferInstanceAs (Decidable (_ = _))

/-- **The `n`-th piece is refused, and none is offered behind it.** -/
theorem run_each_write_refused {n calls : Nat} (pieces before : List String) (hlt : calls < n)
    (hle : n ≤ calls + pieces.length) :
    (each write pieces).run ⟨n, calls, before⟩
      = .error .refused ⟨n, n, before ++ pieces.take (n - calls - 1)⟩ := by
  induction pieces generalizing calls before with
  | nil =>
    rw [List.length_nil] at hle
    omega
  | cons piece pieces ih =>
    have hnext : Sink.refusesNext ⟨n, calls, before⟩ = decide (n ≤ calls + 1) := by
      show (decide (n ≠ 0) && decide (n ≤ calls + 1)) = _
      rw [decide_eq_true (show n ≠ 0 by omega), Bool.true_and]
    by_cases hn : n ≤ calls + 1
    · rw [run_each_cons_of_refused (hnext.trans (decide_eq_true hn))]
      obtain rfl : n = calls + 1 := by omega
      rw [show calls + 1 - calls - 1 = 0 by omega, List.take_zero, List.append_nil]
    · rw [List.length_cons] at hle
      have hrest : n ≤ calls + 1 + pieces.length := by omega
      rw [run_each_cons_of_taken (hnext.trans (decide_eq_false hn)), ih _ (by omega) hrest,
        List.append_assoc, List.singleton_append, ← List.take_succ_cons]
      rw [show n - (calls + 1) - 1 + 1 = n - calls - 1 by omega]

/-- **A rendering is cut off cleanly** by a sink that fails, where `pieces` are what it writes to
one that does not. -/
structure TruncatesCleanly (w : Writing Unit) (pieces : List String) : Prop where
  /-- A sink that takes everything holds all pieces, one for each call. -/
  whole : w.runOn {} = (none, { calls := pieces.length, pieces := pieces })
  /-- If the `n`-th piece is refused, those before it are held. There is no call behind the `n`-th,
  and the refusal is passed on. -/
  cut : ∀ n, 1 ≤ n → n ≤ pieces.length →
    w.runOn { failAt := n }
      = (some .refused, { failAt := n, calls := n, pieces := pieces.take (n - 1) })
  /-- A refusal that would come behind the last piece is never met. -/
  uncut : ∀ n, pieces.length < n →
    w.runOn { failAt := n } = (none, { failAt := n, calls := pieces.length, pieces := pieces })

/-- **Writing pieces one after the other is cut off cleanly.** -/
theorem truncatesCleanly_each_write (pieces : List String) :
    (each write pieces).TruncatesCleanly pieces where
  whole := by
    unfold runOn
    rw [run_each_write pieces [] (.inl rfl), Nat.zero_add]
    rfl
  cut := by
    intro n hn hle
    unfold runOn
    rw [run_each_write_refused pieces [] (show 0 < n by omega) (show n ≤ 0 + _ by omega)]
    rfl
  uncut := by
    intro n hlt
    unfold runOn
    rw [run_each_write pieces [] (.inr (show 0 + _ < n by omega)), Nat.zero_add]
    rfl

end Writing

/-! ## Diagnostics -/

theorem Diagnostic.length_pieces (d : Diagnostic) (name : String) (t : Text) :
    (d.pieces name t).length = 3 + d.notes.length := by
  unfold Diagnostic.pieces Diagnostic.layout
  rw [List.length_append, List.length_map]
  rfl

/-- A diagnostic whose caret cannot be placed is not printed to the end. -/
theorem Diagnostic.run_print_of_not_fits {d : Diagnostic} (h : ¬ d.CaretFits) (file : String)
    (t : Text) (calls : Nat) (before : List String) :
    ∃ s, (d.print file t).run ⟨0, calls, before⟩ = .error .paddingOutOfRange s := by
  have hnot : d.span.column < 0 ∨ widestPadding < d.span.column := by
    unfold Diagnostic.CaretFits at h
    omega
  unfold Diagnostic.print
  dsimp only
  rw [if_pos hnot]
  exact ⟨_, rfl⟩

variable {r : Report} {t : Text} {file : String}

/-- **If all diagnostics are printed to the end, all carets can be placed.** -/
theorem Diagnostic.caretFits_of_each {ds : List Diagnostic} {calls : Nat} {before : List String}
    (h : ((Writing.each (fun d => d.print file t) ds).runOn ⟨0, calls, before⟩).1 = none) :
    ∀ d ∈ ds, d.CaretFits := by
  induction ds generalizing calls before with
  | nil => simp
  | cons d ds ih =>
    unfold Writing.runOn at h
    by_cases hd : d.CaretFits
    · -- the first one leaves a sink that takes everything, so the others are printed to the end
      have hrun : (d.print file t).run ⟨0, calls, before⟩
          = .ok () ⟨0, calls + (d.pieces file t).length, before ++ d.pieces file t⟩ := by
        rw [Diagnostic.print_eq_each hd]
        exact Writing.run_each_write _ _ (.inl rfl)
      rw [Writing.run_each_cons_of_ok (fun d : Diagnostic => d.print file t) hrun] at h
      exact List.forall_mem_cons.mpr ⟨hd, ih h⟩
    · obtain ⟨s, hs⟩ := Diagnostic.run_print_of_not_fits hd file t calls before
      rw [Writing.run_each_cons_of_error (fun d : Diagnostic => d.print file t) hs] at h
      cases h

/-- **A diagnostic that is printed to the end** is a header, a line, a caret and its notes. -/
theorem Diagnostic.exists_print_eq {d : Diagnostic} (h : (d.print file t).Completes) :
    ∃ pieces, d.print file t = Writing.each Writing.write pieces ∧
      pieces.length = 3 + d.notes.length := by
  rw [← Writing.each_singleton (fun d => d.print file t) d] at h
  have hd := Diagnostic.caretFits_of_each h d List.mem_cons_self
  exact ⟨_, Diagnostic.print_eq_each hd, d.length_pieces file t⟩

/-! ## Reports -/

/-- **The plain lines of a report are written piece by piece**, unless an entry is missing. There is
a second one where openers are listed and no closer is at fault. -/
theorem Report.write_eq_each_or_throw (r : Report) :
    (∃ pieces, r.write = Writing.each Writing.write pieces ∧
      (pieces.length = 1 ∨ pieces.length = 2) ∧
      (pieces.length = 2 ↔ r.outcome ≠ .unmatched ∧ r.outcome ≠ .mismatched ∧ r.top ≠ [])) ∨
    r.write = throw .missingEntry := by
  by_cases hu : r.outcome = .unmatched
  · unfold Report.write
    rw [hu]
    cases r.closer with
    | none => exact .inr rfl
    | some closer => exact .inl ⟨[_], (Writing.each_singleton _ _).symm, .inl rfl, by simp⟩
  · by_cases hm : r.outcome = .mismatched
    · unfold Report.write
      rw [hm]
      cases r.opener with
      | none => exact .inr rfl
      | some opener =>
        cases r.closer with
        | none => exact .inr rfl
        | some closer => exact .inl ⟨[_], (Writing.each_singleton _ _).symm, .inl rfl, by simp⟩
    · refine .inl ⟨_, Report.write_eq_leftoverLines hu hm, ?_⟩
      unfold Report.leftoverLines
      by_cases htop : r.top = [] <;> simp [htop, hu, hm]

theorem Writing.not_completes_throw (e : Fault) : ¬ (throw e : Writing Unit).Completes := by
  intro h
  cases h

/-- **A report whose diagnostics are printed to the end** has diagnostics, and they are written
piece by piece: one line if there are none, and else three for each and one for each note. -/
theorem Report.exists_writeDiagnostics_eq (h : (r.writeDiagnostics t).Completes) :
    ∃ ds pieces, r.diagnostics? = .ok ds ∧
      r.writeDiagnostics t = Writing.each Writing.write pieces ∧
      pieces.length = if ds = [] then 1 else (ds.map fun d => 3 + d.notes.length).sum := by
  unfold Report.writeDiagnostics at h ⊢
  cases hds : r.diagnostics? with
  | error e =>
    rw [hds] at h
    exact absurd h (Writing.not_completes_throw e)
  | ok ds =>
    rw [hds] at h
    cases ds with
    | nil =>
      show ∃ ds pieces, _ ∧ (if r.depth ≠ 0 then _ else _) = _ ∧ _
      split
      · exact ⟨[], [_], rfl, (Writing.each_singleton _ _).symm, rfl⟩
      · exact ⟨[], [_], rfl, (Writing.each_singleton _ _).symm, rfl⟩
    | cons d ds =>
      have hfits := Diagnostic.caretFits_of_each h
      refine ⟨d :: ds, _, rfl, Writing.each_flatMap fun e he =>
        Diagnostic.print_eq_each (hfits e he), ?_⟩
      rw [List.length_flatMap, if_neg (List.cons_ne_nil _ _)]
      simp only [Diagnostic.length_pieces]

/-! ## All renderings -/

/-- **A sink that fails cuts every rendering off cleanly**: the plain lines of a report, its
diagnostics over a text, and a single diagnostic. They write one or two pieces, one or as many as
the diagnostics need, and three and one for each note. -/
theorem renderings_truncate (r : Report) (d : Diagnostic) (file : String) (t : Text) :
    (r.write.Completes →
      ∃ pieces, r.write.TruncatesCleanly pieces ∧ (pieces.length = 1 ∨ pieces.length = 2) ∧
        (pieces.length = 2 ↔ r.outcome ≠ .unmatched ∧ r.outcome ≠ .mismatched ∧ r.top ≠ [])) ∧
    ((r.writeDiagnostics t).Completes →
      ∃ ds pieces, r.diagnostics? = .ok ds ∧ (r.writeDiagnostics t).TruncatesCleanly pieces ∧
        pieces.length = if ds = [] then 1 else (ds.map fun d => 3 + d.notes.length).sum) ∧
    ((d.print file t).Completes →
      ∃ pieces, (d.print file t).TruncatesCleanly pieces ∧ pieces.length = 3 + d.notes.length) := by
  refine ⟨fun h => ?_, fun h => ?_, fun h => ?_⟩
  · obtain ⟨pieces, hwrite, hcount⟩ | hthrow := r.write_eq_each_or_throw
    · exact ⟨pieces, hwrite ▸ Writing.truncatesCleanly_each_write pieces, hcount⟩
    · rw [hthrow] at h
      exact absurd h (Writing.not_completes_throw _)
  · obtain ⟨ds, pieces, hds, hwrite, hcount⟩ := Report.exists_writeDiagnostics_eq h
    exact ⟨ds, pieces, hds, hwrite ▸ Writing.truncatesCleanly_each_write pieces, hcount⟩
  · obtain ⟨pieces, hprint, hcount⟩ := Diagnostic.exists_print_eq h
    exact ⟨pieces, hprint ▸ Writing.truncatesCleanly_each_write pieces, hcount⟩

/-- With two of three openers listed there are two plain lines, and seven lines of diagnostics: the
first of the two has a note on the opener that is not listed. -/
theorem renderings_truncate_two_openers :
    let t := ['(', '\n', '\t', '{', '[']
    let r : Report :=
      { name := "a", outcome := .balanced, depth := 3
        top := [⟨CodePoint.ofChar '{', 2, 2, 3⟩, ⟨CodePoint.ofChar '[', 2, 3, 4⟩] }
    let d : Diagnostic :=
      { severity := .info, message := "m", span := ⟨3, 4, 2, 2⟩, notes := ["n", "o"] }
    r.write.Completes ∧ (r.writeDiagnostics t).Completes ∧ (d.print "a" t).Completes ∧
      (∃ pieces, r.write.TruncatesCleanly pieces ∧ pieces.length = 2) ∧
      (∃ pieces, (r.writeDiagnostics t).TruncatesCleanly pieces ∧ pieces.length = 7) ∧
      ∃ pieces, (d.print "a" t).TruncatesCleanly pieces ∧ pieces.length = 5 := by
  intro t r d
  have hwrite : r.write.Completes := by decide
  have hdiagnostics : (r.writeDiagnostics t).Completes := by decide
  have hprint : (d.print "a" t).Completes := by decide
  obtain ⟨htext, hcarets, hone⟩ := renderings_truncate r d "a" t
  refine ⟨hwrite, hdiagnostics, hprint, ?_, ?_, hone hprint⟩
  · obtain ⟨pieces, hcut, -, htwo⟩ := htext hwrite
    exact ⟨pieces, hcut, htwo.mpr (by decide)⟩
  · obtain ⟨ds, pieces, hds, hcut, hlength⟩ := hcarets hdiagnostics
    cases hds
    exact ⟨pieces, hcut, hlength⟩

end Nesting
