import Mathlib.Data.List.Forall2
import Nesting.Proofs.FirstError

/-!
# Well-nested text put into a text

Put a well-nested text `w` between `u` and `v`. A scan that comes as far as `w` leaves it with the
stack that it came with (`Scan.run_of_dyck`), and then reads `v` as it would have done without `w`,
only some characters further on. A scan that does not come so far has stopped within `u`, and reads
neither.

So the two scans go over `v` in step. They hold the same openers in the same order, those of `u` at
the places that they had before and those of `v` at places that have moved (`Mark.Moved`). One
character keeps it so or stops both (`Scan.step_moved`), hence a whole text does (`Scan.moved_run`),
and a report that is built from the end of a scan has moved with it.
-/

namespace Nesting

open List (Forall₂)

variable {u v w : Text} {stack stack' : List Mark}

/-! ## Places that have moved -/

/-- **The mark that a delimiter of `u ++ v` has once `w` stands between the two.** -/
inductive Mark.Moved (u w : Text) : Mark → Mark → Prop
  /-- In `u` all is as it was. -/
  | before {m : Mark} : m.offset < u.length → Moved u w m m
  /-- What was behind `u` is behind `u` and `w`. -/
  | behind (q : Text) (c : Char) : Moved u w (Mark.behind (u ++ q) c) (Mark.behind (u ++ w ++ q) c)

/-- **The same delimiter, with `w` put behind `u`.** From the end of `u` on, offsets grow by the
length of `w` and lines by its number of line feeds. -/
structure Entry.Moved (u w : Text) (e e' : Entry) : Prop where
  delimiter : e'.delimiter = e.delimiter
  offset : e'.offset = if e.offset < u.length then e.offset else e.offset + w.length
  line : e'.line = if e.offset < u.length then e.line else e.line + w.count '\n'

/-- **A report with `w` put behind `u`**: nothing but places has changed, and these have moved. -/
structure Report.Moved (u w : Text) (r r' : Report) : Prop where
  name : r'.name = r.name
  outcome : r'.outcome = r.outcome
  depth : r'.depth = r.depth
  opener : Option.Rel (Entry.Moved u w) r.opener r'.opener
  closer : Option.Rel (Entry.Moved u w) r.closer r'.closer
  top : Forall₂ (Entry.Moved u w) r.top r'.top

theorem Mark.Moved.char_eq {m m' : Mark} (h : m.Moved u w m') : m'.char = m.char := by
  cases h <;> rfl

theorem Mark.Moved.entry {m m' : Mark} (h : m.Moved u w m') : m.entry.Moved u w m'.entry := by
  cases h with
  | before hlt =>
    have hlt : (m.offset : Int) < u.length := Int.ofNat_lt.mpr hlt
    exact ⟨rfl, (if_pos hlt).symm, (if_pos hlt).symm⟩
  | behind q c =>
    have hge : ¬ (((u ++ q).length : Nat) : Int) < u.length := by
      rw [List.length_append]
      omega
    refine ⟨rfl, ?_, ?_⟩
    · refine Eq.trans ?_ (if_neg hge).symm
      show (((u ++ w ++ q).length : Nat) : Int) = ((u ++ q).length : Nat) + (w.length : Nat)
      simp only [List.length_append]
      omega
    · refine Eq.trans ?_ (if_neg hge).symm
      show ((lineAfter (u ++ w ++ q) : Nat) : Int)
        = (lineAfter (u ++ q) : Nat) + (w.count '\n' : Nat)
      unfold lineAfter
      simp only [List.count_append]
      omega

namespace Scan

/-! ## Two scans in step -/

/-- The same verdict, on marks that have moved. -/
inductive Verdict.Moved (u w : Text) : Verdict → Verdict → Prop
  | balanced : Moved u w .balanced .balanced
  | unmatched {c c' : Mark} : c.Moved u w c' → Moved u w (.unmatched c) (.unmatched c')
  | mismatched {o o' c c' : Mark} : o.Moved u w o' → c.Moved u w c' →
      Moved u w (.mismatched o c) (.mismatched o' c')

/-- The same end of a scan, its marks and its stack having moved. -/
structure Halt.Moved (u w : Text) (halt halt' : Halt) : Prop where
  verdict : halt.verdict.Moved u w halt'.verdict
  stack : Forall₂ (Mark.Moved u w) halt.state.stack halt'.state.stack

/-- **One character does the same to two scans in step**: both go on, and are in step again, or both
stop, in the same way. -/
theorem step_moved (h : Forall₂ (Mark.Moved u w) stack stack') (q : Text) (c : Char) :
    (∃ next next', step (.behind (u ++ q) stack) c = .ok (.behind (u ++ q ++ [c]) next) ∧
      step (.behind (u ++ w ++ q) stack') c = .ok (.behind (u ++ w ++ q ++ [c]) next') ∧
      Forall₂ (Mark.Moved u w) next next') ∨
    ∃ halt halt', step (.behind (u ++ q) stack) c = .error halt ∧
      step (.behind (u ++ w ++ q) stack') c = .error halt' ∧ halt.Moved u w halt' := by
  cases hk : Kind.ofChar c with
  | notDelimiter => exact .inl ⟨_, _, step_pass hk, step_pass hk, h⟩
  | opener => exact .inl ⟨_, _, step_push hk, step_push hk, .cons (.behind q c) h⟩
  | closer =>
    cases h with
    | nil => exact .inr ⟨_, _, step_unmatched hk, step_unmatched hk, .unmatched (.behind q c), .nil⟩
    | @cons o o' stack stack' ho h =>
      -- the openers met are the same character, so the closer fits both or neither
      by_cases hc : closing? o.char = some c
      · exact .inl ⟨_, _, step_pop hc, step_pop (by rw [ho.char_eq]; exact hc), h⟩
      · exact .inr ⟨_, _, step_mismatched hk hc,
          step_mismatched hk (by rw [ho.char_eq]; exact hc), .mismatched ho (.behind q c), h⟩

/-- **Two scans in step come to the same end.** -/
theorem moved_run (h : Forall₂ (Mark.Moved u w) stack stack') (q v : Text) :
    (run (.behind (u ++ q) stack) v).Moved u w (run (.behind (u ++ w ++ q) stack') v) := by
  induction v generalizing q stack stack' with
  | nil => exact ⟨.balanced, h⟩
  | cons c v ih =>
    obtain ⟨next, next', hs, hs', hnext⟩ | ⟨halt, halt', hs, hs', hhalt⟩ := step_moved h q c
    · rw [run_cons hs, run_cons hs', List.append_assoc u, List.append_assoc (u ++ w)]
      exact ih hnext (q ++ [c])
    · rw [run_cons_error hs, run_cons_error hs']
      exact hhalt

/-- Nothing that a scan of `u` has found is moved by what is put behind `u`. -/
theorem Ends.moved {halt : Halt} (h : Ends u halt) (w : Text) : halt.Moved u w halt := by
  have hsame : ∀ {p : Text} {stack : List Mark}, Opened p stack → p.length ≤ u.length →
      Forall₂ (Mark.Moved u w) stack stack := by
    intro p stack hO hle
    exact List.forall₂_same.mpr fun m hm =>
      .before (Nat.lt_of_lt_of_le (hO.offset_lt_of_mem hm) hle)
  cases h with
  | @balanced stack hr =>
    have hr : Reachable (u ++ []) (.behind u stack) := by rwa [List.append_nil]
    exact ⟨.balanced, hsame hr.opened_prefix (Nat.le_refl _)⟩
  | @unmatched p rest c hu =>
    refine ⟨.unmatched (.before ?_), .nil⟩
    show p.length < u.length
    simp [hu]
  | @mismatched p rest c o stack hu hr =>
    subst hu
    have hlt : p.length < (p ++ c :: rest).length := by simp
    cases hsame hr.opened_prefix (Nat.le_of_lt hlt) with
    | cons ho h => exact ⟨.mismatched ho (.before hlt), h⟩

/-- **Well-nested text in a text moves the end of its scan and changes nothing else.** -/
theorem moved_scan (hw : Dyck (delimiters w)) (u v : Text) :
    (scan (u ++ v)).Moved u w (scan (u ++ w ++ v)) := by
  have hmoved := (ends_scan u).moved w
  rw [List.append_assoc]
  by_cases hb : (scan u).verdict = .balanced
  · -- the scan comes through `u`, and through `w` with the same stack
    obtain ⟨stack, -, hu⟩ := exists_opened_of_balanced hb
    rw [hu] at hmoved
    have hrun := moved_run hmoved.stack [] v
    rw [List.append_nil, List.append_nil] at hrun
    have hv : scan (u ++ v) = run (.behind u stack) v := run_append hu
    have hwv : scan (u ++ (w ++ v)) = run (.behind (u ++ w) stack) v :=
      (run_append hu).trans (run_append (run_of_dyck hw rfl))
    rw [hv, hwv]
    exact hrun
  · rw [scan_append hb, scan_append hb]
    exact hmoved

end Scan

/-! ## The report -/

theorem Scan.Halt.Moved.report {halt halt' : Scan.Halt} (h : halt.Moved u w halt') (name : String)
    (options : Options) (t t' : Text) :
    (Report.ofHalt name options t halt).Moved u w (Report.ofHalt name options t' halt') := by
  obtain ⟨verdict, state⟩ := halt
  obtain ⟨verdict', state'⟩ := halt'
  obtain ⟨hverdict, hstack⟩ := h
  have hdepth : ((state'.stack.length : Nat) : Int) = state.stack.length := by
    rw [hstack.length_eq]
  have htop : Forall₂ (Entry.Moved u w)
      ((state.stack.take options.stackTail).reverse.map Mark.entry)
      ((state'.stack.take options.stackTail).reverse.map Mark.entry) :=
    List.rel_map (fun _ _ hm => hm.entry)
      (List.forall₂_reverse_iff.mpr (List.forall₂_take options.stackTail hstack))
  cases hverdict with
  | balanced => exact ⟨rfl, rfl, hdepth, .none, .none, htop⟩
  | unmatched hc => exact ⟨rfl, rfl, hdepth, .none, .some hc.entry, htop⟩
  | mismatched ho hc => exact ⟨rfl, rfl, hdepth, .some ho.entry, .some hc.entry, htop⟩

/-- **Inserting well-nested text changes nothing but places.** Wherever a text that scans flat is
put, the report keeps its outcome, its depth and its delimiters in their order, and offsets from the
insertion on grow by the length of what was put in. -/
theorem insertion_only_moves {name name' : String} {settings settings' : List Setting}
    {scanner : Scanner} (hw : ScansFlat name' settings' w)
    (h : Scanner.ofSettings name (u ++ v) settings = .ok scanner) :
    ∃ scanner', Scanner.ofSettings name (u ++ w ++ v) settings = .ok scanner' ∧
      scanner.scan.1.Moved u w scanner'.scan.1 := by
  obtain ⟨scanner', h', ho⟩ := exists_scanner_of_text h (u ++ w ++ v)
  refine ⟨scanner', h', ?_⟩
  rw [report_scan h, report_scan h', ho]
  exact (Scan.moved_scan hw.dyck u v).report name scanner.options _ _

/-- Two lines put between a parenthesis and the bracket that closes it wrongly: the bracket is found
at offset 5 of line 2 where it was at offset 1 of line 1. -/
theorem insertion_only_moves_lines :
    let u := ['(']
    let v := [']']
    let w := ['[', '\n', ']', ' ']
    let scanner : Scanner := { name := "a", text := u ++ v, options := {} }
    ScansFlat "a" [] w ∧ Scanner.ofSettings "a" (u ++ v) [] = .ok scanner ∧
      scanner.scan.1.outcome = .mismatched ∧
      ∃ scanner', Scanner.ofSettings "a" (u ++ w ++ v) [] = .ok scanner' ∧
        scanner'.scan.1.closer.map (fun e => (e.offset, e.line)) = some (5, 2) ∧
        scanner.scan.1.Moved u w scanner'.scan.1 := by
  intro u v w scanner
  have hw : ScansFlat "a" [] w := ⟨_, rfl, by decide, by decide⟩
  have h : Scanner.ofSettings "a" (u ++ v) [] = .ok scanner := rfl
  obtain ⟨scanner', h', hmoved⟩ := insertion_only_moves hw h
  refine ⟨hw, h, by decide, scanner', h', ?_, hmoved⟩
  cases h'
  decide

end Nesting
