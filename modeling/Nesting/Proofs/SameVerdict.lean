import Nesting.Check
import Nesting.Proofs.Verdict

/-!
# What a report owes to the delimiters alone

Take away the places, and what is left of a report depends only on the delimiters of the text, in
their order. For a scan compares characters with characters: two scans that hold the same characters
on their stacks and read texts with the same delimiters take the same turns. One of the two texts
can be the word of delimiters itself, so a single induction over a text is enough (`gist_run`).
-/

namespace Nesting

/-- **Two reports of the same verdict**: they differ in places and context at most. -/
structure SameVerdict (r r' : Report) : Prop where
  outcome : r.outcome = r'.outcome
  depth : r.depth = r'.depth
  opener : r.opener.map Entry.delimiter = r'.opener.map Entry.delimiter
  closer : r.closer.map Entry.delimiter = r'.closer.map Entry.delimiter
  top : r.top.map Entry.delimiter = r'.top.map Entry.delimiter

namespace Scan

/-- The end of a scan without its places: the outcome, the opener and the closer that it is about,
and the openers on the stack. -/
def Halt.gist (h : Halt) : Outcome × Option Char × Option Char × List Char :=
  let stack := h.state.stack.map Mark.char
  match h.verdict with
  | .balanced => (.balanced, none, none, stack)
  | .unmatched closer => (.unmatched, none, some closer.char, stack)
  | .mismatched opener closer => (.mismatched, some opener.char, some closer.char, stack)

/-- **A scan comes to the same end on a text and on its delimiters.** -/
theorem gist_run {p p' : Text} {stack stack' : List Mark} (t : Text)
    (h : stack.map Mark.char = stack'.map Mark.char) :
    (run (.behind p stack) t).gist = (run (.behind p' stack') (delimiters t)).gist := by
  induction t generalizing p p' stack stack' with
  | nil =>
    show (Outcome.balanced, none, none, stack.map Mark.char) = (_, _, _, stack'.map Mark.char)
    rw [h]
  | cons c t ih =>
    cases hk : Kind.ofChar c with
    | notDelimiter =>
      rw [delimiters_cons_of_not (isDelimiter_of_notDelimiter hk), run_cons (step_pass hk)]
      exact ih h
    | opener =>
      rw [delimiters_cons_of_delimiter (isDelimiter_of_opener hk), run_cons (step_push hk),
        run_cons (step_push hk)]
      -- the places of the two marks differ, their characters do not
      refine ih ?_
      rw [List.map_cons, List.map_cons, h]
      rfl
    | closer =>
      rw [delimiters_cons_of_delimiter (isDelimiter_of_closer hk)]
      -- the stacks have the same characters, so they are empty or not together
      cases stack with
      | nil =>
        obtain rfl : stack' = [] := List.map_eq_nil_iff.mp h.symm
        rw [run_cons_error (step_unmatched hk), run_cons_error (step_unmatched hk)]
        rfl
      | cons o stack =>
        obtain ⟨o', stack', rfl, ho, hstack⟩ := List.map_eq_cons_iff.mp h.symm
        by_cases hc : closing? o.char = some c
        · rw [run_cons (step_pop hc), run_cons (step_pop (by rw [ho]; exact hc))]
          exact ih hstack.symm
        · rw [run_cons_error (step_mismatched hk hc),
            run_cons_error (step_mismatched hk (by rw [ho]; exact hc))]
          show (Outcome.mismatched, some o.char, some c, stack.map Mark.char)
            = (_, some o'.char, some c, stack'.map Mark.char)
          rw [ho, hstack]

theorem gist_scan_eq {t u : Text} (h : delimiters t = delimiters u) :
    (scan t).gist = (scan u).gist := by
  have hscan : ∀ t, (scan t).gist = (run (.behind [] []) (delimiters t)).gist := by
    intro t
    show (run (.behind [] []) t).gist = _
    exact gist_run t rfl
  rw [hscan, hscan, h]

end Scan

section Report

variable (name : String) (options : Options) (t : Text) (halt : Scan.Halt)

/-- What a report says of the stack, by its characters. -/
theorem top_eq_gist :
    (Report.ofHalt name options t halt).top.map Entry.delimiter
      = ((halt.gist.2.2.2.take options.stackTail).reverse).map CodePoint.ofChar := by
  have hstack : halt.gist.2.2.2 = halt.state.stack.map Mark.char := by
    unfold Scan.Halt.gist
    cases halt.verdict <;> rfl
  rw [hstack, top_ofHalt, List.map_map, ← List.map_take, ← List.map_reverse, List.map_map]
  rfl

theorem depth_eq_gist :
    (Report.ofHalt name options t halt).depth = halt.gist.2.2.2.length := by
  unfold Report.ofHalt Scan.Halt.gist
  cases halt.verdict <;> simp

/-- Outcome, opener and closer of a report are those of the gist. -/
theorem outcome_eq_gist :
    (Report.ofHalt name options t halt).outcome = halt.gist.1 ∧
      (Report.ofHalt name options t halt).opener.map Entry.delimiter
        = halt.gist.2.1.map CodePoint.ofChar ∧
      (Report.ofHalt name options t halt).closer.map Entry.delimiter
        = halt.gist.2.2.1.map CodePoint.ofChar := by
  unfold Report.ofHalt Scan.Halt.gist
  cases halt.verdict <;> exact ⟨rfl, rfl, rfl⟩

end Report

/-- **Texts with the same delimiters have reports of the same verdict.** -/
theorem sameVerdict_of_delimiters {t u : Text} (h : delimiters t = delimiters u)
    (name : String) (options : Options) :
    SameVerdict (Report.ofText name options t) (Report.ofText name options u) := by
  have hgist := Scan.gist_scan_eq h
  obtain ⟨houtcome, hopener, hcloser⟩ := outcome_eq_gist name options t (Scan.scan t)
  obtain ⟨houtcome', hopener', hcloser'⟩ := outcome_eq_gist name options u (Scan.scan u)
  unfold Report.ofText
  refine ⟨?_, ?_, ?_, ?_, ?_⟩
  · rw [houtcome, houtcome', hgist]
  · rw [depth_eq_gist, depth_eq_gist, hgist]
  · rw [hopener, hopener', hgist]
  · rw [hcloser, hcloser', hgist]
  · rw [top_eq_gist, top_eq_gist, hgist]

/-- **A check reports on a scan of the sanitized text**, unless a setting is refused. -/
theorem check_eq (name : String) (mode : LineMode) (t : Text) (settings : List Setting) :
    check name mode t settings
      = (Options.ofSettings settings).map (Report.ofText name · (sanitize mode t)) := by
  unfold check checker Scanner.ofSettings
  cases Options.ofSettings settings with
  | error e => rfl
  | ok options => rfl

end Nesting
