import Nesting.Proofs.LineNumbers
import Nesting.Proofs.Settled

/-!
# Sanitizing only takes characters away

A substitution that puts a part of each match in its place leaves a part of the text. All five
passes of the sanitizer do so: a block comment leaves nothing or its line feeds, a line comment
nothing, and a literal its own two quotes. So whatever stands in a sanitized text stood in the text,
in the same order.

Where there is nothing to take away, everything stays.
-/

namespace Nesting

variable {t : Text}

namespace Pattern

variable {p : Pattern} {f : Text → Text}

/-- **What leaves a part of every match leaves a part of the text.** -/
theorem sublist_replace (h : ∀ m ∈ p.covered t, (f m).Sublist m) : (p.replace f t).Sublist t :=
  rel_replace (.refl []) (fun c _ _ hs => hs.cons_cons c) (fun m hm _ _ hs => (h m hm).append hs)

end Pattern

/-! ## The passes -/

theorem sublist_residue (mode : LineMode) (comment : Text) :
    (mode.residue comment).Sublist comment := by
  cases mode with
  | drop => exact List.nil_sublist _
  | keep => exact List.filter_sublist

theorem sublist_stripBlocks (mode : LineMode) (t : Text) : (stripBlocks mode t).Sublist t := by
  fun_induction stripBlocks mode t with
  | case1 t _ ih => exact ih.trans (Pattern.sublist_replace fun m _ => sublist_residue mode m)
  | case2 t _ => exact .refl t

theorem sublist_stripLines (t : Text) : (stripLines t).Sublist t :=
  Pattern.sublist_replace fun _ _ => List.nil_sublist _

theorem sublist_emptyLiterals (q : Quote) (t : Text) : (emptyLiterals q.char t).Sublist t := by
  refine Pattern.sublist_replace fun m hm => ?_
  obtain ⟨u, rest, hmatch⟩ := Pattern.exists_match_of_mem_covered hm
  obtain ⟨body, -, rfl, -⟩ := exists_body_of_match hmatch
  exact (List.sublist_append_right body [q.char]).cons_cons q.char

/-- **A sanitized text is a part of the text**, in both modes. -/
theorem sublist_sanitize (mode : LineMode) (t : Text) : (sanitize mode t).Sublist t :=
  calc (sanitize mode t).Sublist
        (emptyLiterals '"' (emptyLiterals '\'' (stripLines (stripBlocks mode t)))) :=
        sublist_emptyLiterals .backtick _
    List.Sublist _ (emptyLiterals '\'' (stripLines (stripBlocks mode t))) :=
        sublist_emptyLiterals .double _
    List.Sublist _ (stripLines (stripBlocks mode t)) := sublist_emptyLiterals .single _
    List.Sublist _ (stripBlocks mode t) := sublist_stripLines _
    List.Sublist _ t := sublist_stripBlocks mode t

/-! ## Nothing to take away -/

/-- **A text without comments in which the literals are empty is left alone**, in both modes. -/
theorem sanitize_eq_self (mode : LineMode) (hblock : blockComment.occursIn t = false)
    (hline : lineComment.occursIn t = false) (hquotes : ∀ q, Settled q t) :
    sanitize mode t = t := by
  have hsingle : emptyLiterals '\'' t = t := hquotes .single
  have hdouble : emptyLiterals '"' t = t := hquotes .double
  have hbacktick : emptyLiterals '`' t = t := hquotes .backtick
  unfold sanitize stripLines
  rw [stripBlocks_eq_self hblock, Pattern.replace_eq_self hline, hsingle, hdouble, hbacktick]

/-- And no other text is. -/
theorem sanitize_eq_self_iff (mode : LineMode) (t : Text) :
    sanitize mode t = t
      ↔ blockComment.occursIn t = false ∧ lineComment.occursIn t = false ∧ ∀ q, Settled q t := by
  constructor
  · intro h
    obtain ⟨hblock, hline⟩ := sanitize_has_no_comment mode t
    have hquotes := settled_sanitize mode t
    rw [h] at hblock hline hquotes
    exact ⟨hblock, hline, hquotes⟩
  · rintro ⟨hblock, hline, hquotes⟩
    exact sanitize_eq_self mode hblock hline hquotes

/-- So a sanitized text is left alone, whatever the two modes. -/
theorem sanitize_sanitize (mode mode' : LineMode) (t : Text) :
    sanitize mode' (sanitize mode t) = sanitize mode t := by
  obtain ⟨hblock, hline⟩ := sanitize_has_no_comment mode t
  exact sanitize_eq_self mode' hblock hline (settled_sanitize mode t)

/-- **Sanitizing only takes characters away**, in both modes. What is left keeps its order, so there
is no more of any character than before, the delimiters are some of those of the text, and no
carriage return comes in. Nothing is taken away exactly if there is no comment and no literal to
empty. -/
theorem sanitize_only_deletes (mode : LineMode) (t : Text) :
    (sanitize mode t).Sublist t ∧
      (∀ c, (sanitize mode t).count c ≤ t.count c) ∧
      (delimiters (sanitize mode t)).Sublist (delimiters t) ∧
      ('\r' ∉ t → '\r' ∉ sanitize mode t) ∧
      (sanitize mode t = t
        ↔ blockComment.occursIn t = false ∧ lineComment.occursIn t = false ∧ ∀ q, Settled q t) := by
  have h := sublist_sanitize mode t
  refine ⟨h, fun c => h.count_le c, h.filter _, ?_, sanitize_eq_self_iff mode t⟩
  exact fun hreturn hmem => hreturn (h.subset hmem)

/-- A comment that leaves its line feed and a literal that leaves its quotes: of three delimiters
one stays. -/
theorem sanitize_only_deletes_comment_and_literal :
    let t := ['(', '/', '*', '[', '\n', '*', '/', '"', '}', '"']
    sanitize .keep t = ['(', '\n', '"', '"'] ∧
      (sanitize .keep t).Sublist t ∧
      (∀ c, (sanitize .keep t).count c ≤ t.count c) ∧
      (delimiters (sanitize .keep t)).Sublist (delimiters t) ∧
      '\r' ∉ t ∧ '\r' ∉ sanitize .keep t ∧ sanitize .keep t ≠ t := by
  intro t
  have hs : sanitize .keep t = ['(', '\n', '"', '"'] := by cbv
  have hreturn : '\r' ∉ t := by decide
  obtain ⟨hsub, hcount, hdelimiters, hnone, -⟩ := sanitize_only_deletes .keep t
  exact ⟨hs, hsub, hcount, hdelimiters, hreturn, hnone hreturn, by rw [hs]; decide⟩

end Nesting
