import Nesting.Proofs.Comments
import Nesting.Proofs.Literals
import Nesting.Proofs.Places
import Nesting.Proofs.SameVerdict

/-!
# Which line numbers are kept

With `LineMode.keep` a block comment leaves its line feeds, so that what stands behind it stays on
its line. A line comment has no line feed. Both passes only thin lines out. A literal, however, may
hold line feeds as well, and these are lost in either mode: what stands behind such a literal moves
up.

So the lines of a sanitized text are those of the text, thinned out, exactly if no literal that was
emptied spans lines. What a pass has emptied is `Pattern.covered`, and the line feeds of a text are
those of the result and those in there, taken together (`count_newline_sanitize`).
-/

namespace Nesting

variable {s t u : Text} {c : Char}

namespace Pattern

variable {p : Pattern} {f : Text → Text}

/-! ## What a substitution covers -/

/-- **What a pattern covers in a text**, match by match, from left to right. -/
def covered (p : Pattern) : Text → List Text
  | [] => []
  | c :: cs =>
    match _h : p.match? (c :: cs) with
    | none => p.covered cs
    | some (m, rest) => m :: p.covered rest
termination_by t => t.length
decreasing_by
  · simp
  · exact p.length_rest_lt _h

/-- A substitution copies what its pattern does not cover, and so does the count of a character. -/
theorem count_replace (p : Pattern) (f : Text → Text) (x : Char) (t : Text) :
    (p.replace f t).count x + (p.covered t).flatten.count x
      = t.count x + ((p.covered t).flatMap f).count x := by
  fun_induction covered p t with
  | case1 => rw [replace_nil]; rfl
  | case2 c cs hm ih =>
    rw [replace_cons_of_none hm, List.count_cons, List.count_cons]
    omega
  | case3 c cs m rest hm ih =>
    obtain ⟨-, hsplit⟩ := p.split hm
    rw [replace_of_some hm, hsplit, List.flatten_cons, List.flatMap_cons, List.count_append,
      List.count_append, List.count_append, List.count_append]
    omega

/-- **What holds between each match and its replacement holds between the text and the result**, if
it passes on to texts with one more character in front of both. -/
theorem rel_replace {R : Text → Text → Prop} (nil : R [] [])
    (copied : ∀ c s t, R s t → R (c :: s) (c :: t))
    (replaced : ∀ m ∈ p.covered t, ∀ s u, R s u → R (f m ++ s) (m ++ u)) :
    R (p.replace f t) t := by
  fun_induction covered p t with
  | case1 =>
    rw [replace_nil]
    exact nil
  | case2 c cs hm ih =>
    rw [replace_cons_of_none hm]
    exact copied c _ _ (ih replaced)
  | case3 c cs m rest hm ih =>
    obtain ⟨-, hsplit⟩ := p.split hm
    rw [replace_of_some hm, hsplit]
    exact replaced m List.mem_cons_self _ _
      (ih fun n hn => replaced n (List.mem_cons_of_mem m hn))

/-- **What thins out every match thins out the text.** -/
theorem thinned_replace (h : ∀ m ∈ p.covered t, Thinned (f m) m) : Thinned (p.replace f t) t :=
  rel_replace .nil (fun _ _ _ hs => hs.keep) (fun m hm _ _ hs => (h m hm).append hs)

theorem exists_match_of_mem_covered {m : Text} (h : m ∈ p.covered t) :
    ∃ u rest, p.match? u = some (m, rest) := by
  fun_induction covered p t with
  | case1 => cases h
  | case2 c cs _ ih => exact ih h
  | case3 c cs m' rest hm ih =>
    obtain rfl | h := List.mem_cons.mp h
    · exact ⟨_, rest, hm⟩
    · exact ih h

end Pattern

/-! ## Comments -/

/-- One round of taking block comments away only thins lines out, if they leave their line feeds. -/
theorem thinned_replace_block (t : Text) :
    Thinned (blockComment.replace LineMode.keep.residue t) t :=
  Pattern.thinned_replace fun m _ => Thinned.filter_newline m

/-- **Block comments that leave their line feeds only thin lines out**, in however many rounds they
are taken away. -/
theorem thinned_stripBlocks (t : Text) : Thinned (stripBlocks .keep t) t := by
  fun_induction stripBlocks LineMode.keep t with
  | case1 t _ ih => exact ih.trans (thinned_replace_block t)
  | case2 t _ => exact .refl t

/-- Taking line comments away only thins lines out. -/
theorem thinned_stripLines (t : Text) : Thinned (stripLines t) t := by
  refine Pattern.thinned_replace fun m hm => ?_
  obtain ⟨u, rest, hmatch⟩ := Pattern.exists_match_of_mem_covered hm
  exact .nil_left (newline_not_mem_of_match_line hmatch)

/-! ## Literals -/

/-- The literals that are emptied when a text is sanitized, with their quotes. -/
def emptiedLiterals (mode : LineMode) (t : Text) : List Text :=
  let bare := stripLines (stripBlocks mode t)
  let noSingle := emptyLiterals '\'' bare
  let noDouble := emptyLiterals '"' noSingle
  (literal '\'').covered bare ++ (literal '"').covered noSingle ++ (literal '`').covered noDouble

/-- **The line feeds that a pass over literals takes away are those in the literals.** -/
theorem count_newline_emptyLiterals (q : Quote) (t : Text) :
    (emptyLiterals q.char t).count '\n' + ((literal q.char).covered t).flatten.count '\n'
      = t.count '\n' := by
  have hnone : (((literal q.char).covered t).flatMap fun _ => [q.char, q.char]).count '\n' = 0 := by
    rw [List.count_eq_zero]
    intro hmem
    obtain ⟨m, -, hm⟩ := List.mem_flatMap.mp hmem
    have hq : '\n' = q.char := by simpa using hm
    exact q.char_ne (by decide) hq.symm
  have h := Pattern.count_replace (literal q.char) (fun _ => [q.char, q.char]) '\n' t
  rw [hnone] at h
  exact h

/-- A literal on one line is thinned out to its quotes. -/
theorem thinned_literal (q : Quote) {m : Text} (hm : m ∈ (literal q.char).covered t)
    (hline : '\n' ∉ m) : Thinned [q.char, q.char] m := by
  obtain ⟨u, rest, hmatch⟩ := Pattern.exists_match_of_mem_covered hm
  obtain ⟨body, -, rfl, -⟩ := exists_body_of_match hmatch
  have hbody : '\n' ∉ body := fun h => hline (by simp [h])
  exact ((Thinned.nil_left hbody).append (.refl [q.char])).keep

theorem thinned_emptyLiterals (q : Quote)
    (h : ∀ m ∈ (literal q.char).covered t, '\n' ∉ m) : Thinned (emptyLiterals q.char t) t :=
  Pattern.thinned_replace fun m hm => thinned_literal q hm (h m hm)

/-! ## Sanitized texts -/

/-- **The line feeds of a text are those of the sanitized text and those in emptied literals.** -/
theorem count_newline_sanitize (t : Text) :
    (sanitize .keep t).count '\n' + (emptiedLiterals .keep t).flatten.count '\n'
      = t.count '\n' := by
  have hcomments := ((thinned_stripLines _).trans (thinned_stripBlocks t)).count_newline
  have hsingle := count_newline_emptyLiterals .single (stripLines (stripBlocks .keep t))
  have hdouble := count_newline_emptyLiterals .double
    (emptyLiterals '\'' (stripLines (stripBlocks .keep t)))
  have hbacktick := count_newline_emptyLiterals .backtick
    (emptyLiterals '"' (emptyLiterals '\'' (stripLines (stripBlocks .keep t))))
  unfold sanitize emptiedLiterals
  rw [List.flatten_append, List.flatten_append, List.count_append, List.count_append]
  simp only [Quote.char] at hsingle hdouble hbacktick
  omega

/-- **As long as no literal spans lines, sanitizing only thins lines out.** -/
theorem thinned_sanitize (h : ∀ l ∈ emptiedLiterals .keep t, '\n' ∉ l) :
    Thinned (sanitize .keep t) t := by
  unfold emptiedLiterals at h
  simp only [List.mem_append] at h
  have hsingle := thinned_emptyLiterals .single fun m hm => h m (.inl (.inl hm))
  have hdouble := thinned_emptyLiterals .double fun m hm => h m (.inl (.inr hm))
  have hbacktick := thinned_emptyLiterals .backtick fun m hm => h m (.inr hm)
  exact hbacktick.trans (hdouble.trans (hsingle.trans
    ((thinned_stripLines _).trans (thinned_stripBlocks t))))

/-- A character of a thinned text is one of the text, on the same line. -/
theorem Thinned.exists_of_append {p : Text} (h : Thinned (p ++ c :: u) t) :
    ∃ p' u', t = p' ++ c :: u' ∧ Thinned p p' := by
  generalize hs : p ++ c :: u = s at h
  induction h generalizing p with
  | nil => exact absurd (congrArg List.length hs) (by simp)
  | @keep d s t ht ih =>
    cases p with
    | nil =>
      obtain ⟨rfl, -⟩ := List.cons.inj hs
      exact ⟨[], t, rfl, .nil⟩
    | cons e p =>
      obtain ⟨rfl, htail⟩ := List.cons.inj hs
      obtain ⟨p', u', rfl, hp⟩ := ih htail
      exact ⟨e :: p', u', rfl, hp.keep⟩
  | @skip d s t hd _ ih =>
    obtain ⟨p', u', rfl, hp⟩ := ih hs
    exact ⟨d :: p', u', rfl, hp.skip hd⟩

/-- **A mark of a thinned text is on the line of the text that it names.** -/
theorem Mark.StandsIn.on_line {m : Mark} (h : m.StandsIn s) (ht : Thinned s t) :
    ∃ (k : Nat) (line : Text), m.line = k + 1 ∧ (linesOf t)[k]? = some line ∧ m.char ∈ line := by
  obtain ⟨p, c, u, rfl, hc, rfl⟩ := h
  obtain ⟨p', u', rfl, hp⟩ := ht.exists_of_append
  refine ⟨p'.count '\n', _, ?_, getElem?_linesOf_cons p' u' (ne_newline_of_isDelimiter hc), ?_⟩
  · show 1 + p.count '\n' = _
    rw [hp.count_newline, Nat.add_comm]
  · show c ∈ _
    simp

/-- **Line numbers are kept exactly if no literal spans lines.** Then each line of the sanitized
text is a subsequence of the line with its number, and a report names, for each delimiter, a line of
the text that has it. -/
theorem line_numbers_kept_iff (t : Text) :
    ((sanitize .keep t).count '\n' = t.count '\n' ↔ ∀ l ∈ emptiedLiterals .keep t, '\n' ∉ l) ∧
      ((∀ l ∈ emptiedLiterals .keep t, '\n' ∉ l) →
        List.Forall₂ List.Sublist (linesOf (sanitize .keep t)) (linesOf t) ∧
        ∀ name settings r, check name .keep t settings = .ok r → ∀ e ∈ r.entries,
          ∃ (k : Nat) (line : Text) (c : Char), e.line = k + 1 ∧ (linesOf t)[k]? = some line ∧
            c ∈ line ∧ e.delimiter = CodePoint.ofChar c) := by
  refine ⟨?_, fun h => ⟨(thinned_sanitize h).forall₂_linesOf, ?_⟩⟩
  · have hcount := count_newline_sanitize t
    have hiff : (emptiedLiterals .keep t).flatten.count '\n' = 0
        ↔ ∀ l ∈ emptiedLiterals .keep t, '\n' ∉ l := by
      rw [List.count_eq_zero, List.mem_flatten]
      constructor
      · exact fun hnone l hl hmem => hnone ⟨l, hl, hmem⟩
      · rintro hnone ⟨l, hl, hmem⟩
        exact hnone l hl hmem
    rw [← hiff]
    omega
  · intro name settings r hr e he
    rw [check_eq] at hr
    cases ho : Options.ofSettings settings with
    | error refusal =>
      rw [ho] at hr
      cases hr
    | ok options =>
      rw [ho] at hr
      cases hr
      obtain ⟨m, hm, rfl⟩ := exists_mark_of_mem_entries (Scan.ends_scan _) he
      obtain ⟨k, line, hk, hline, hmem⟩ := hm.on_line (thinned_sanitize h)
      exact ⟨k, line, m.char, by rw [← Int.natCast_add_one, ← hk]; rfl, hline, hmem, rfl⟩

/-- A block comment over two lines and a literal on one: the parenthesis is on line 2 of the text,
and this is the line reported. -/
theorem line_numbers_kept_iff_comment :
    let t := ['/', '*', '\n', '*', '/', '"', '(', '"', ')']
    (∀ l ∈ emptiedLiterals .keep t, '\n' ∉ l) ∧
      (sanitize .keep t).count '\n' = t.count '\n' ∧
      List.Forall₂ List.Sublist (linesOf (sanitize .keep t)) (linesOf t) := by
  intro t
  have hliterals : emptiedLiterals .keep t = [['"', '(', '"']] := by cbv
  have h : ∀ l ∈ emptiedLiterals .keep t, '\n' ∉ l := by
    rw [hliterals]
    decide
  exact ⟨h, (line_numbers_kept_iff t).1.mpr h, ((line_numbers_kept_iff t).2 h).1⟩

/-- **A literal over two lines moves what is behind it up.** The parenthesis behind the literal is
on line 2 of the text and is reported on line 1, which has none. -/
theorem line_numbers_lost :
    let t := ['`', '\n', '`', ')']
    (sanitize .keep t).count '\n' ≠ t.count '\n' ∧
      ¬ List.Forall₂ List.Sublist (linesOf (sanitize .keep t)) (linesOf t) ∧
      (check "a" .keep t []).map (·.closer)
        = .ok (some { delimiter := CodePoint.ofChar ')', line := 1, column := 3, offset := 2 }) ∧
      linesOf t = [['`'], ['`', ')']] := by
  intro t
  have hs : sanitize .keep t = ['`', '`', ')'] := by cbv
  have hlines : linesOf t = [['`'], ['`', ')']] := by decide
  refine ⟨by rw [hs]; decide, ?_, by rw [check_eq, hs]; rfl, hlines⟩
  intro h
  have hlen := h.length_eq
  rw [hs, hlines] at hlen
  exact absurd hlen (by decide)

end Nesting
