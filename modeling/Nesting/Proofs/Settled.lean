import Nesting.Proofs.Comments
import Nesting.Proofs.Literals
import Nesting.Sanitizer

/-!
# Sanitizing twice

A text is *settled* for a kind of quotes when emptying its literals of that kind changes nothing:
every quote begins an empty literal, or one that never closes. Emptying literals of one kind settles
a text for that kind. It stays settled when literals of another kind are emptied, although that
takes quotes, backslashes and line feeds out of the text: what never closed does not close
afterwards (`Unclosed.after_pass`), since the other literals that begin in it end in it too.

Together with the comments, which no later pass opens again, this makes a sanitized text one that
every pass leaves alone, also the pass over block comments in the other mode.
-/

namespace Nesting

variable {q q' : Quote} {c x : Char} {t u rest : Text}

/-! ## What never closes -/

/-- **What never closes still does not close when literals are emptied**, of whatever kind. -/
theorem Unclosed.after_pass (q' : Quote) (h : Unclosed q.char t) :
    Unclosed q.char (emptyLiterals q'.char t) := by
  -- by length, since a literal that is emptied is skipped as a whole
  induction hn : t.length using Nat.strong_induction_on generalizing t with
  | _ n ih =>
    have hb : ∀ q : Quote, q.char ≠ '\\' := fun q => q.char_ne (by decide)
    have hnl : ∀ q : Quote, '\n' ≠ q.char := fun q => (q.char_ne (by decide)).symm
    -- the result for a text that follows a plain character or a whole escape pair
    have next : ∀ d r, r.length + 1 ≤ t.length → Unclosed q.char r →
        ∃ r', emptyLiterals q'.char (d :: r) = d :: r' ∧ Unclosed q.char r' := by
      intro d r hlt hr
      obtain ⟨body, rest, hbody, rfl, rfl, he⟩ | ⟨he, -⟩ := literal_or_copied q' d r
      · obtain ⟨hne, hrest⟩ := hr.behind_literal hbody
        refine ⟨_, he, (plain_iff hne (hb q')).mpr (ih _ ?_ hrest rfl)⟩
        rw [List.length_append, List.length_cons] at hlt
        omega
      · exact ⟨_, he, ih _ (by omega) hr rfl⟩
    cases t with
    | nil =>
      rw [emptyLiterals_nil]
      exact h
    | cons c t =>
      by_cases hc : c = '\\'
      · subst hc
        rw [emptyLiterals_cons_ne (hb q').symm]
        cases t with
        | nil =>
          rw [emptyLiterals_nil]
          exact h
        | cons d t =>
          by_cases hd : d = '\n'
          · subst hd
            rw [emptyLiterals_cons_ne (hnl q')]
            exact backslash_newline
          · obtain ⟨r, hr, hclosed⟩ := next d t (by simp) ((escape_iff hd).mp h)
            rw [hr]
            exact (escape_iff hd).mpr hclosed
      · have hne : c ≠ q.char := by
          rintro rfl
          exact not_quote (hb q) h
        obtain ⟨r, hr, hclosed⟩ := next c t (by simp) ((plain_iff hne hc).mp h)
        rw [hr]
        exact (plain_iff hne hc).mpr hclosed

/-! ## Settled texts -/

/-- **A text is settled** when emptying the literals of a kind changes nothing in it. -/
def Settled (q : Quote) (t : Text) : Prop :=
  emptyLiterals q.char t = t

namespace Settled

theorem cons_iff (hc : c ≠ q.char) : Settled q (c :: t) ↔ Settled q t := by
  unfold Settled
  rw [emptyLiterals_cons_ne hc]
  exact List.cons_inj_right c

theorem unclosed_iff (h : Unclosed q.char t) : Settled q (q.char :: t) ↔ Settled q t := by
  unfold Settled
  rw [emptyLiterals_unclosed h]
  exact List.cons_inj_right _

theorem empty_iff : Settled q (q.char :: q.char :: t) ↔ Settled q t := by
  unfold Settled
  have h : emptyLiterals q.char (q.char :: q.char :: t)
      = q.char :: q.char :: emptyLiterals q.char t := emptyLiterals_literal .nil
  rw [h, List.cons_inj_right, List.cons_inj_right]

end Settled

/-- Emptying literals never makes a text longer. -/
theorem length_emptyLiterals_le (q : Quote) (t : Text) :
    (emptyLiterals q.char t).length ≤ t.length := by
  induction t using literal_induction q with
  | nil => simp
  | literal body rest hbody ih =>
    rw [emptyLiterals_literal hbody]
    rw [List.length_cons, List.length_cons, List.length_cons, List.length_append, List.length_cons]
    omega
  | copied c t hc ih =>
    rw [emptyLiterals_copied hc, List.length_cons, List.length_cons]
    omega

/-- In a settled text a quote begins a literal that never closes, or an empty one. -/
theorem Settled.unclosed_or_empty (h : Settled q (q.char :: t)) :
    Unclosed q.char t ∨ ∃ r, t = q.char :: r := by
  obtain ⟨body, rest, -, -, rfl, he⟩ | ⟨-, hu⟩ := literal_or_copied q q.char t
  · -- the literal has kept its length, so nothing is in it
    have hlen := congrArg List.length (he.symm.trans h)
    have hle := length_emptyLiterals_le q rest
    rw [List.length_cons, List.length_cons, List.length_cons, List.length_append,
      List.length_cons] at hlen
    obtain rfl : body = [] := List.length_eq_zero_iff.mp (by omega)
    exact .inr ⟨rest, rfl⟩
  · exact .inl (hu rfl)

/-- A text is settled behind any character but the quote. -/
theorem Settled.of_append (h : Settled q (u ++ x :: rest)) (hx : x ≠ q.char) : Settled q rest := by
  induction hn : u.length using Nat.strong_induction_on generalizing u with
  | _ n ih =>
    cases u with
    | nil => exact (cons_iff hx).mp h
    | cons c u =>
      rw [List.cons_append] at h
      rw [List.length_cons] at hn
      by_cases hc : c = q.char
      · subst hc
        obtain hu | ⟨r, hr⟩ := h.unclosed_or_empty
        · exact ih u.length (by omega) ((unclosed_iff hu).mp h) rfl
        · cases u with
          | nil => exact absurd (List.cons.inj hr).1 hx
          | cons d u =>
            obtain rfl : d = q.char := (List.cons.inj hr).1
            rw [List.length_cons] at hn
            exact ih u.length (by omega) (empty_iff.mp h) rfl
      · exact ih u.length (by omega) ((cons_iff hc).mp h) rfl

/-- **Emptying literals settles a text** for their kind. -/
theorem settled_emptyLiterals (q : Quote) (t : Text) : Settled q (emptyLiterals q.char t) := by
  induction t using literal_induction q with
  | nil =>
    rw [emptyLiterals_nil]
    exact emptyLiterals_nil
  | literal body rest hbody ih =>
    rw [emptyLiterals_literal hbody]
    exact Settled.empty_iff.mpr ih
  | copied c t hc ih =>
    rw [emptyLiterals_copied hc]
    by_cases h : c = q.char
    · subst h
      exact (Settled.unclosed_iff ((hc rfl).after_pass q)).mpr ih
    · exact (Settled.cons_iff h).mpr ih

/-- **A settled text stays settled when literals of another kind are emptied.** -/
theorem Settled.after_pass (h : Settled q t) (q' : Quote) (hne : q ≠ q') :
    Settled q (emptyLiterals q'.char t) := by
  have hchar : q'.char ≠ q.char := fun he => hne (Quote.char_injective he.symm)
  induction hn : t.length using Nat.strong_induction_on generalizing t with
  | _ n ih =>
    cases t with
    | nil =>
      rw [emptyLiterals_nil]
      exact h
    | cons c t =>
      rw [List.length_cons] at hn
      obtain ⟨body, rest, -, rfl, rfl, he⟩ | ⟨he, -⟩ := literal_or_copied q' c t
      · -- what is settled before the literal is settled behind it
        rw [he, cons_iff hchar, cons_iff hchar]
        have hrest : Settled q rest := of_append (u := q'.char :: body) h hchar
        rw [List.length_append, List.length_cons] at hn
        exact ih rest.length (by omega) hrest rfl
      · rw [he]
        by_cases hc : c = q.char
        · subst hc
          obtain hu | ⟨r, rfl⟩ := h.unclosed_or_empty
          · rw [unclosed_iff (hu.after_pass q')]
            exact ih t.length (by omega) ((unclosed_iff hu).mp h) rfl
          · rw [emptyLiterals_cons_ne hchar.symm, empty_iff]
            rw [List.length_cons] at hn
            exact ih r.length (by omega) (empty_iff.mp h) rfl
        · rw [cons_iff hc]
          exact ih t.length (by omega) ((cons_iff hc).mp h) rfl

/-! ## Every pass leaves a sanitized text alone -/

theorem emptyLiterals_opens_no_comment (q : Quote) {t : Text}
    (hblock : blockComment.occursIn t = false) (hline : lineComment.occursIn t = false) :
    blockComment.occursIn (emptyLiterals q.char t) = false ∧
      lineComment.occursIn (emptyLiterals q.char t) = false := by
  have hslash := copies_emptyLiterals (q := q) (q.char_ne (x := '/') (by decide)).symm
  have hstar := copies_emptyLiterals (q := q) (q.char_ne (x := '*') (by decide)).symm
  exact ⟨block_not_occursIn_replace hslash hstar hblock, line_not_occursIn_replace hslash hline⟩

/-- Behind the two passes over comments there is no comment. -/
theorem stripLines_stripBlocks_has_no_comment (mode : LineMode) (t : Text) :
    blockComment.occursIn (stripLines (stripBlocks mode t)) = false ∧
      lineComment.occursIn (stripLines (stripBlocks mode t)) = false :=
  ⟨block_not_occursIn_replace (copies_stripLines (by decide)) (copies_stripLines (by decide))
      (block_not_occursIn_stripBlocks mode t),
    line_not_occursIn_stripLines (stripBlocks mode t)⟩

/-- **A sanitized text has no comment.** -/
theorem sanitize_has_no_comment (mode : LineMode) (t : Text) :
    blockComment.occursIn (sanitize mode t) = false ∧
      lineComment.occursIn (sanitize mode t) = false := by
  obtain ⟨hblock, hline⟩ := stripLines_stripBlocks_has_no_comment mode t
  obtain ⟨hblock, hline⟩ := emptyLiterals_opens_no_comment .single hblock hline
  obtain ⟨hblock, hline⟩ := emptyLiterals_opens_no_comment .double hblock hline
  exact emptyLiterals_opens_no_comment .backtick hblock hline

/-- **A sanitized text is settled** for every kind of quotes. -/
theorem settled_sanitize (mode : LineMode) (t : Text) (q : Quote) :
    Settled q (sanitize mode t) := by
  unfold sanitize
  cases q with
  | single =>
    have h := settled_emptyLiterals .single (stripLines (stripBlocks mode t))
    exact (h.after_pass .double (by decide)).after_pass .backtick (by decide)
  | double =>
    have h := settled_emptyLiterals .double
      (emptyLiterals '\'' (stripLines (stripBlocks mode t)))
    exact h.after_pass .backtick (by decide)
  | backtick => exact settled_emptyLiterals .backtick _

/-- **Every pass leaves a sanitized text alone**, in whichever modes the text was sanitized and is
sanitized again; so sanitizing it again changes nothing. -/
theorem sanitize_fixed_by_passes (mode mode' : LineMode) (t : Text) :
    stripBlocks mode' (sanitize mode t) = sanitize mode t ∧
      stripLines (sanitize mode t) = sanitize mode t ∧
      emptyLiterals '\'' (sanitize mode t) = sanitize mode t ∧
      emptyLiterals '"' (sanitize mode t) = sanitize mode t ∧
      emptyLiterals '`' (sanitize mode t) = sanitize mode t ∧
      sanitize mode' (sanitize mode t) = sanitize mode t := by
  obtain ⟨hblock, hline⟩ := sanitize_has_no_comment mode t
  have hb : stripBlocks mode' (sanitize mode t) = sanitize mode t := stripBlocks_eq_self hblock
  have hl : stripLines (sanitize mode t) = sanitize mode t := Pattern.replace_eq_self hline
  have hsingle := settled_sanitize mode t .single
  have hdouble := settled_sanitize mode t .double
  have hbacktick := settled_sanitize mode t .backtick
  refine ⟨hb, hl, hsingle, hdouble, hbacktick, ?_⟩
  calc sanitize mode' (sanitize mode t)
      = emptyLiterals '`' (emptyLiterals '"' (emptyLiterals '\''
          (stripLines (stripBlocks mode' (sanitize mode t))))) := rfl
    _ = emptyLiterals '`' (emptyLiterals '"' (emptyLiterals '\'' (sanitize mode t))) := by
        rw [hb, hl]
    _ = emptyLiterals '`' (emptyLiterals '"' (sanitize mode t)) :=
        congrArg (fun s => emptyLiterals '`' (emptyLiterals '"' s)) hsingle
    _ = emptyLiterals '`' (sanitize mode t) := congrArg (emptyLiterals '`') hdouble
    _ = sanitize mode t := hbacktick

end Nesting
