import Mathlib.Order.Bounds.Basic
import Nesting.Proofs.ScanReport

/-!
# The verdict is membership in the language

A scan accepts exactly the viable texts. That what it accepts is viable is seen from the stack that
it ends with: its openers can still be closed. The other half is about what lies ahead. A scan that
reads a well-nested text comes out with the stack it went in with, whatever that was
(`run_of_dyck`). So a text that leaves openers open puts exactly these on the stack
(`Opened.run_eq`), and if a wrong closer were followed by anything that makes the whole well nested,
the scan would have to come out at the end, while it has already stopped.

Since every shorter prefix was accepted, the place where a scan stops is the first one at which the
text cannot be saved any more.
-/

namespace Nesting

namespace Scan

/-! ## Runs one after the other -/

variable {s s' : State} {p t u rest : Text} {stack : List Mark} {o : Mark} {c : Char}

theorem run_cons (h : step s c = .ok s') : run s (c :: rest) = run s' rest := by
  rw [run, h]

theorem run_cons_error {halt : Halt} (h : step s c = .error halt) : run s (c :: rest) = halt := by
  rw [run, h]

/-- A step stops a scan only for a wrong closer. -/
theorem verdict_ne_balanced {halt : Halt} (h : step s c = .error halt) :
    halt.verdict ≠ .balanced := by
  unfold step at h
  split at h
  · cases h
  · cases h
  · split at h
    · cases h
      exact Verdict.noConfusion
    · split at h
      · cases h
      · cases h
        exact Verdict.noConfusion

/-- **A scan that comes through a text goes on behind it.** -/
theorem run_append (h : run s t = ⟨.balanced, s'⟩) : run s (t ++ rest) = run s' rest := by
  induction t generalizing s with
  | nil =>
    cases h
    rfl
  | cons c t ih =>
    cases hs : step s c with
    | ok next =>
      rw [run_cons hs] at h
      rw [List.cons_append, run_cons hs]
      exact ih h
    | error halt =>
      rw [run_cons_error hs] at h
      exact absurd (congrArg Halt.verdict h) (verdict_ne_balanced hs)

/-- **A scan that has stopped does not look at what follows.** -/
theorem run_append_of_stopped (h : (run s t).verdict ≠ .balanced) :
    run s (t ++ rest) = run s t := by
  induction t generalizing s with
  | nil => exact absurd rfl h
  | cons c t ih =>
    rw [List.cons_append]
    cases hs : step s c with
    | ok next =>
      rw [run_cons hs] at h
      rw [run_cons hs, run_cons hs]
      exact ih h
    | error halt => rw [run_cons_error hs, run_cons_error hs]

/-! ## Well-nested texts leave the stack alone -/

/-- A text without delimiters only moves the place. -/
theorem run_of_plain (h : delimiters t = []) :
    run (.behind p stack) t = ⟨.balanced, .behind (p ++ t) stack⟩ := by
  induction t generalizing p with
  | nil => rw [List.append_nil, run]
  | cons c t ih =>
    cases hk : Kind.ofChar c with
    | notDelimiter =>
      rw [delimiters_cons_of_not (isDelimiter_of_notDelimiter hk)] at h
      rw [run_cons (step_pass hk), ih h, List.append_assoc, List.singleton_append]
    | opener =>
      rw [delimiters_cons_of_delimiter (isDelimiter_of_opener hk)] at h
      cases h
    | closer =>
      rw [delimiters_cons_of_delimiter (isDelimiter_of_closer hk)] at h
      cases h

/-- **A scan comes out of a well-nested text with the stack it went in with.** -/
theorem run_of_dyck {d : Text} (hd : Dyck d) (h : delimiters t = d) :
    run (.behind p stack) t = ⟨.balanced, .behind (p ++ t) stack⟩ := by
  induction hd generalizing t p stack with
  | nil => exact run_of_plain h
  | @pair o c inner after hc _ _ hinner hafter =>
    obtain ⟨plain, u, v, rfl, hplain, hu, hv⟩ := exists_of_delimiters_pair h
    have ho := (kind_of_closing hc).1
    calc run (.behind p stack) (plain ++ o :: (u ++ c :: v))
        = run (.behind (p ++ plain) stack) (o :: (u ++ c :: v)) :=
          run_append (run_of_plain hplain)
      _ = run (.behind (p ++ plain ++ [o]) (Mark.behind (p ++ plain) o :: stack))
            (u ++ c :: v) := run_cons (step_push ho)
      _ = run (.behind (p ++ plain ++ [o] ++ u) (Mark.behind (p ++ plain) o :: stack))
            (c :: v) := run_append (hinner hu)
      _ = run (.behind (p ++ plain ++ [o] ++ u ++ [c]) stack) v := run_cons (step_pop hc)
      _ = ⟨.balanced, .behind (p ++ plain ++ [o] ++ u ++ [c] ++ v) stack⟩ := hafter hv
      _ = ⟨.balanced, .behind (p ++ (plain ++ o :: (u ++ c :: v))) stack⟩ := by simp

end Scan

/-! ## What is left open is on the stack -/

variable {t : Text} {c : Char} {o : Mark} {stack : List Mark}

/-- **A scan of a text ends with the openers on its stack that the text leaves open.** -/
theorem Opened.run_eq (h : Opened t stack) :
    Scan.run (.behind [] []) t = ⟨.balanced, .behind t stack⟩ := by
  induction h with
  | flat ht => exact Scan.run_of_dyck ht rfl
  | @deeper t u c stack _ hc hu ih =>
    rw [Scan.run_append ih, Scan.run_cons (Scan.step_push hc), Scan.run_of_dyck hu rfl,
      List.append_assoc, List.singleton_append]

/-- A text that leaves something open is not well nested. -/
theorem Opened.not_dyck (h : Opened t (o :: stack)) : ¬ Dyck (delimiters t) := by
  intro hd
  have hrun : (⟨.balanced, .behind t []⟩ : Scan.Halt) = ⟨.balanced, .behind t (o :: stack)⟩ := by
    rw [← Opened.run_eq (.flat hd), h.run_eq]
  cases hrun

/-- **Where a scan stops, the text cannot be saved**: no continuation is well nested. -/
theorem Opened.not_viable {halt : Scan.Halt} (h : Opened t stack)
    (hs : Scan.step (.behind t stack) c = .error halt) : ¬ Viable (delimiters (t ++ [c])) := by
  rw [viable_delimiters_iff]
  rintro ⟨u, hu⟩
  rw [List.append_assoc, List.singleton_append] at hu
  -- the whole text is well nested, so its scan comes out at the end
  have hrun := Opened.run_eq (.flat hu)
  rw [Scan.run_append h.run_eq, Scan.run_cons_error hs] at hrun
  exact Scan.verdict_ne_balanced hs (congrArg Scan.Halt.verdict hrun)

/-! ## Texts that are read to the end -/

/-- **A scan that comes to the end of a text holds what the whole text leaves open.** -/
theorem exists_opened_of_balanced (h : (Scan.scan t).verdict = .balanced) :
    ∃ stack, Opened t stack ∧ Scan.scan t = ⟨.balanced, .behind t stack⟩ := by
  have hends := Scan.ends_scan t
  generalize Scan.scan t = halt at hends h ⊢
  cases hends with
  | @balanced stack hr =>
    have hr : Scan.Reachable (t ++ []) (.behind t stack) := by rwa [List.append_nil]
    exact ⟨stack, hr.opened_prefix, rfl⟩
  | unmatched => cases h
  | mismatched => cases h

theorem verdict_of_outcome {name : String} {options : Options} {halt : Scan.Halt}
    (h : (Report.ofHalt name options t halt).outcome = .balanced) : halt.verdict = .balanced := by
  unfold Report.ofHalt at h
  cases hv : halt.verdict with
  | balanced => rfl
  | unmatched =>
    rw [hv] at h
    cases h
  | mismatched =>
    rw [hv] at h
    cases h

/-- **A text scans flat**: the settings are accepted, and the scan comes to the end of the text with
nothing left open. -/
def ScansFlat (name : String) (settings : List Setting) (t : Text) : Prop :=
  ∃ scanner, Scanner.ofSettings name t settings = .ok scanner ∧
    scanner.scan.1.outcome = .balanced ∧ scanner.scan.1.depth = 0

section Flat

variable {name : String} {settings : List Setting}

theorem ScansFlat.dyck (h : ScansFlat name settings t) : Dyck (delimiters t) := by
  obtain ⟨scanner, hscanner, hbalanced, hdepth⟩ := h
  rw [report_scan hscanner] at hbalanced hdepth
  obtain ⟨stack, hO, hscan⟩ := exists_opened_of_balanced (verdict_of_outcome hbalanced)
  rw [hscan] at hdepth
  have hdepth : (stack.length : Int) = 0 := hdepth
  obtain rfl : stack = [] := List.eq_nil_of_length_eq_zero (by omega)
  cases hO with
  | flat hd => exact hd

/-- A well-nested text scans flat, as soon as the settings are accepted. -/
theorem scansFlat_of_dyck {scanner : Scanner} (h : Scanner.ofSettings name t settings = .ok scanner)
    (hd : Dyck (delimiters t)) : ScansFlat name settings t := by
  have hscan : Scan.scan t = ⟨.balanced, .behind t []⟩ := Opened.run_eq (.flat hd)
  refine ⟨scanner, h, ?_⟩
  rw [report_scan h, hscan]
  exact ⟨rfl, rfl⟩

end Flat

/-! ## The first place that cannot be saved -/

/-- **A scan stops where the text is lost**: at the first offset up to which nothing behind can make
the text well nested. -/
theorem Opened.lost {halt : Scan.Halt} (h : Opened t stack) (rest : Text)
    (hs : Scan.step (.behind t stack) c = .error halt) :
    ¬ Viable (delimiters (t ++ c :: rest)) ∧
      IsLeast {i | i < (t ++ c :: rest).length ∧
        ¬ Viable (delimiters ((t ++ c :: rest).take (i + 1)))} t.length := by
  have hlost := h.not_viable hs
  have htake : (t ++ c :: rest).take (t.length + 1) = t ++ [c] := by
    simp [List.take_append]
  refine ⟨?_, ⟨by simp, ?_⟩, ?_⟩
  · intro hv
    refine hlost (hv.of_prefix ?_)
    rw [show t ++ c :: rest = t ++ [c] ++ rest by simp, delimiters_append _ rest]
    exact List.prefix_append _ _
  · rw [htake]
    exact hlost
  · rintro j ⟨-, hj⟩
    by_contra hlt
    -- what is read before the closer is a prefix of a text that could be saved
    refine hj (h.viable.of_prefix ?_)
    have hle : j + 1 ≤ t.length := by omega
    rw [List.take_append_of_le_length hle]
    exact (List.take_prefix _ _).filter _

/-- **The outcome of a scan says which language the text is in.** Balanced means viable, balanced
with nothing left means well nested. Otherwise the closer stands where the text is lost, and the
outcome says whether what is before it was well nested. -/
theorem outcome_iff_language {name : String} {t : Text} {settings : List Setting}
    {scanner : Scanner} (h : Scanner.ofSettings name t settings = .ok scanner) :
    (scanner.scan.1.outcome = .balanced ↔ Viable (delimiters t)) ∧
      (scanner.scan.1.outcome = .balanced ∧ scanner.scan.1.depth = 0 ↔ Dyck (delimiters t)) ∧
      (¬ Viable (delimiters t) → ∃ (closer : Entry) (i : Nat),
        scanner.scan.1.closer = some closer ∧ closer.offset = i ∧
        IsLeast {i | i < t.length ∧ ¬ Viable (delimiters (t.take (i + 1)))} i ∧
        (Dyck (delimiters (t.take i)) → scanner.scan.1.outcome = .unmatched) ∧
        (¬ Dyck (delimiters (t.take i)) → scanner.scan.1.outcome = .mismatched)) := by
  rw [report_scan h]
  have hends := Scan.ends_scan t
  generalize Scan.scan t = halt at hends
  cases hends with
  | @balanced stack hr =>
    have hr : Scan.Reachable (t ++ []) (.behind t stack) := by rwa [List.append_nil]
    have hO := hr.opened_prefix
    refine ⟨iff_of_true rfl hO.viable, ?_, fun hv => absurd hO.viable hv⟩
    cases stack with
    | nil =>
      cases hO with
      | flat hd => exact iff_of_true ⟨rfl, rfl⟩ hd
    | cons o stack =>
      refine iff_of_false ?_ hO.not_dyck
      rintro ⟨-, hdepth⟩
      have hdepth : ((stack.length + 1 : Nat) : Int) = 0 := hdepth
      omega
  | @unmatched p rest c ht hr hk =>
    subst ht
    have hO := hr.opened_prefix
    obtain ⟨hlost, hleast⟩ := hO.lost rest (Scan.step_unmatched hk)
    refine ⟨iff_of_false Outcome.noConfusion hlost, ?_, fun _ => ?_⟩
    · exact iff_of_false (fun hb => Outcome.noConfusion hb.1) (fun hd => hlost (.of_dyck hd))
    · refine ⟨_, p.length, rfl, rfl, hleast, fun _ => rfl, fun hd => absurd ?_ hd⟩
      rw [List.take_left]
      cases hO with
      | flat hd => exact hd
  | @mismatched p rest c o stack ht hr hk hc =>
    subst ht
    have hO := hr.opened_prefix
    obtain ⟨hlost, hleast⟩ := hO.lost rest (Scan.step_mismatched hk hc)
    refine ⟨iff_of_false Outcome.noConfusion hlost, ?_, fun _ => ?_⟩
    · exact iff_of_false (fun hb => Outcome.noConfusion hb.1) (fun hd => hlost (.of_dyck hd))
    · refine ⟨_, p.length, rfl, rfl, hleast, fun hd => absurd hd ?_, fun _ => rfl⟩
      rw [List.take_left]
      exact hO.not_dyck

/-- In `f(a[0)` the text is lost at the last parenthesis, and what is before it is not well
nested. -/
theorem outcome_iff_language_crossed :
    let t := ['f', '(', 'a', '[', '0', ')']
    let scanner : Scanner := { name := "a", text := t, options := {} }
    Scanner.ofSettings "a" t [] = .ok scanner ∧ scanner.scan.1.outcome = .mismatched ∧
      (scanner.scan.1.outcome = .balanced ↔ Viable (delimiters t)) ∧
      (scanner.scan.1.outcome = .balanced ∧ scanner.scan.1.depth = 0 ↔ Dyck (delimiters t)) ∧
      (¬ Viable (delimiters t) → ∃ (closer : Entry) (i : Nat),
        scanner.scan.1.closer = some closer ∧ closer.offset = i ∧
        IsLeast {i | i < t.length ∧ ¬ Viable (delimiters (t.take (i + 1)))} i ∧
        (Dyck (delimiters (t.take i)) → scanner.scan.1.outcome = .unmatched) ∧
        (¬ Dyck (delimiters (t.take i)) → scanner.scan.1.outcome = .mismatched)) := by
  intro t scanner
  have h : Scanner.ofSettings "a" t [] = .ok scanner := rfl
  exact ⟨h, by decide, outcome_iff_language h⟩

end Nesting
