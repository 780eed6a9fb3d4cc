import Mathlib.Logic.Function.Iterate
import Nesting.Proofs.LineNumbers
import Nesting.Proofs.Settled

/-!
# Taking block comments away in rounds

A round looks for block comments from left to right and replaces each of them. It does not look at
what it has put together: where a comment has gone, a slash before it and a star behind it may open
another one, which is left to the next round. `blockRound` is one round, `rounds` says how many of
them find something, and the pass over block comments is that many rounds
(`stripBlocks_eq_iterate`).

Every comment that a round finds has four characters in its two markers, and none of them is a line
feed. So a round takes away at least four characters for each comment, whether or not line feeds
stay, and there are no more rounds than fours in the text. In the mode that keeps line feeds a round
moves nothing to another line, and neither does any number of them.
-/

namespace Nesting

variable {mode : LineMode} {s t : Text} {i : Nat}

namespace Pattern

variable {p : Pattern} {f : Text → Text} {n : Nat}

/-- **A pattern occurs where it covers something.** -/
theorem occursIn_iff_covered : p.occursIn t = true ↔ 0 < (p.covered t).length := by
  fun_induction covered p t with
  | case1 => exact iff_of_false Bool.false_ne_true (Nat.lt_irrefl 0)
  | case2 c cs hm ih =>
    rw [occursIn_cons, hm]
    exact ih
  | case3 c cs m rest hm _ =>
    rw [occursIn_cons, hm, List.length_cons]
    exact iff_of_true rfl (Nat.succ_pos _)

/-- **What takes `n` characters away for every match** makes a text shorter by `n` for every
match. -/
theorem length_replace_add_le (h : ∀ m ∈ p.covered t, (f m).length + n ≤ m.length) :
    (p.replace f t).length + n * (p.covered t).length ≤ t.length := by
  fun_induction covered p t with
  | case1 =>
    rw [replace_nil]
    exact Nat.le_refl 0
  | case2 c cs hm ih =>
    have hrest := ih h
    rw [replace_cons_of_none hm, List.length_cons, List.length_cons]
    omega
  | case3 c cs m rest hm ih =>
    obtain ⟨-, hsplit⟩ := p.split hm
    have hmatch := h m List.mem_cons_self
    have hrest := ih fun k hk => h k (List.mem_cons_of_mem m hk)
    rw [replace_of_some hm, hsplit, List.length_append, List.length_append, List.length_cons,
      Nat.mul_succ]
    omega

end Pattern

/-! ## One round -/

/-- **One round**: every block comment that is found leaves its residue. -/
def blockRound (mode : LineMode) (t : Text) : Text :=
  blockComment.replace mode.residue t

/-- A block comment loses at least its two markers. -/
theorem length_residue_add_four_le {covered rest : Text}
    (h : blockComment.match? t = some (covered, rest)) :
    (mode.residue covered).length + 4 ≤ covered.length := by
  obtain ⟨body, -, rfl⟩ := exists_body_of_match_block h
  have hlength : ('/' :: '*' :: (body ++ ['*', '/'])).length = body.length + 4 := by
    rw [List.length_cons, List.length_cons, List.length_append]
    rfl
  have hresidue : (mode.residue ('/' :: '*' :: (body ++ ['*', '/']))).length ≤ body.length := by
    cases mode with
    | drop => exact Nat.zero_le _
    | keep =>
      have hfilter : LineMode.keep.residue ('/' :: '*' :: (body ++ ['*', '/']))
          = body.filter (· = '\n') := by
        simp [LineMode.residue]
      rw [hfilter]
      exact List.length_filter_le _ _
  omega

/-- **A round makes a text shorter by four characters for every comment that it finds**, at
least. -/
theorem length_blockRound_add_le (mode : LineMode) (t : Text) :
    (blockRound mode t).length + 4 * (blockComment.covered t).length ≤ t.length := by
  refine Pattern.length_replace_add_le fun m hm => ?_
  obtain ⟨u, rest, hmatch⟩ := Pattern.exists_match_of_mem_covered hm
  exact length_residue_add_four_le hmatch

/-! ## All rounds -/

/-- **How many rounds find a block comment**, one after the other. -/
def rounds (mode : LineMode) (t : Text) : Nat :=
  if _h : blockComment.occursIn t = true then rounds mode (blockRound mode t) + 1 else 0
termination_by t.length
decreasing_by exact length_replace_block_lt mode _h

theorem rounds_of_occursIn (h : blockComment.occursIn t = true) :
    rounds mode t = rounds mode (blockRound mode t) + 1 := by
  rw [rounds, dif_pos h]

theorem rounds_of_not_occursIn (h : ¬ blockComment.occursIn t = true) : rounds mode t = 0 := by
  rw [rounds, dif_neg h]

/-- **Taking block comments away is to do these rounds.** -/
theorem stripBlocks_eq_iterate (mode : LineMode) (t : Text) :
    stripBlocks mode t = (blockRound mode)^[rounds mode t] t := by
  fun_induction stripBlocks mode t with
  | case1 t h ih =>
    rw [rounds_of_occursIn h, Function.iterate_succ_apply]
    exact ih
  | case2 t h =>
    rw [rounds_of_not_occursIn h]
    rfl

/-- Before each of them there is a block comment. -/
theorem occursIn_of_lt_rounds (h : i < rounds mode t) :
    blockComment.occursIn ((blockRound mode)^[i] t) = true := by
  fun_induction rounds mode t generalizing i with
  | case1 t ht ih =>
    cases i with
    | zero => exact ht
    | succ i =>
      rw [Function.iterate_succ_apply]
      exact ih (Nat.lt_of_succ_lt_succ h)
  | case2 => exact absurd h (Nat.not_lt_zero i)

/-- **The rounds are no more than the fours in the text.** -/
theorem four_mul_rounds_le (mode : LineMode) (t : Text) : 4 * rounds mode t ≤ t.length := by
  fun_induction rounds mode t with
  | case1 t h ih =>
    have hshorter := length_blockRound_add_le mode t
    have hfound := Pattern.occursIn_iff_covered.mp h
    omega
  | case2 => exact Nat.zero_le _

/-- No number of rounds that keep line feeds does more than thin lines out. -/
theorem thinned_iterate_blockRound (n : Nat) (t : Text) : Thinned ((blockRound .keep)^[n] t) t := by
  induction n with
  | zero => exact .refl t
  | succ n ih =>
    rw [Function.iterate_succ_apply']
    exact (thinned_replace_block _).trans ih

/-! ## Lines stay where they are -/

/-- **The lines of one text are those of the other, thinned out**: there are as many, and each is a
subsequence of the one with its number. -/
structure LinesKept (s t : Text) : Prop where
  length : (linesOf s).length = (linesOf t).length
  sublist : List.Forall₂ List.Sublist (linesOf s) (linesOf t)

theorem Thinned.linesKept (h : Thinned s t) : LinesKept s t :=
  ⟨h.forall₂_linesOf.length_eq, h.forall₂_linesOf⟩

/-- The two passes over comments leave a text alone exactly if it has none. -/
theorem stripLines_stripBlocks_eq_self_iff (mode : LineMode) (t : Text) :
    stripLines (stripBlocks mode t) = t
      ↔ blockComment.occursIn t = false ∧ lineComment.occursIn t = false := by
  constructor
  · intro h
    have hnone := stripLines_stripBlocks_has_no_comment mode t
    rwa [h] at hnone
  · rintro ⟨hblock, hline⟩
    rw [stripBlocks_eq_self hblock]
    exact Pattern.replace_eq_self hline

/-- **The passes over comments keep every line in its place**, after however many rounds the line
comments are taken away; and they change nothing but a text that has a comment. -/
theorem comment_passes_keep_lines (t : Text) :
    (∀ n, LinesKept (stripLines ((blockRound .keep)^[n] t)) t) ∧
      LinesKept (stripLines (stripBlocks .keep t)) t ∧
      (stripLines (stripBlocks .keep t) = t
        ↔ blockComment.occursIn t = false ∧ lineComment.occursIn t = false) := by
  have hrounds : ∀ n, LinesKept (stripLines ((blockRound .keep)^[n] t)) t := fun n =>
    ((thinned_stripLines _).trans (thinned_iterate_blockRound n t)).linesKept
  refine ⟨hrounds, ?_, stripLines_stripBlocks_eq_self_iff .keep t⟩
  rw [stripBlocks_eq_iterate]
  exact hrounds _

/-! ## Nothing is left behind -/

/-- **The markers of a block comment are in a text**: `/*` at some offset, and `*/` two characters
behind it or later. -/
def HoldsBlock (t : Text) : Prop :=
  ∃ i j, i + 2 ≤ j ∧ ['/', '*'] <+: t.drop i ∧ ['*', '/'] <+: t.drop j

theorem block_occursIn_iff_holdsBlock : blockComment.occursIn t = true ↔ HoldsBlock t := by
  rw [block_occursIn_iff]
  constructor
  · rintro ⟨a, b, c, rfl⟩
    refine ⟨a.length, (a ++ '/' :: '*' :: b).length, ?_, ?_, ?_⟩
    · rw [List.length_append, List.length_cons, List.length_cons]
      omega
    · rw [List.drop_left]
      exact ⟨b ++ '*' :: '/' :: c, rfl⟩
    · have hsplit : a ++ '/' :: '*' :: (b ++ '*' :: '/' :: c)
          = a ++ '/' :: '*' :: b ++ '*' :: '/' :: c := by simp
      rw [hsplit, List.drop_left]
      exact ⟨c, rfl⟩
  · rintro ⟨i, j, hij, ⟨r, hr⟩, ⟨c, hc⟩⟩
    -- the second marker is behind the first one, so it is in what follows that
    have hbehind : r.drop (j - (i + 2)) = '*' :: '/' :: c := by
      calc r.drop (j - (i + 2))
          = ((t.drop i).drop 2).drop (j - (i + 2)) := by rw [← hr]; rfl
        _ = t.drop j := by rw [List.drop_drop, List.drop_drop]; congr 1; omega
        _ = '*' :: '/' :: c := hc.symm
    refine ⟨t.take i, r.take (j - (i + 2)), c, ?_⟩
    rw [← hbehind, List.take_append_drop]
    calc t = t.take i ++ t.drop i := (List.take_append_drop i t).symm
      _ = t.take i ++ '/' :: '*' :: r := by rw [← hr]; rfl

theorem not_holdsBlock_of_not_occursIn (h : blockComment.occursIn t = false) : ¬ HoldsBlock t := by
  rw [← block_occursIn_iff_holdsBlock, h]
  exact Bool.false_ne_true

/-- **How block comments go**: round after round, until there is none. -/
structure GoesInRounds (mode : LineMode) (t : Text) : Prop where
  /-- A round takes away at least four characters for every comment that it finds, in any text. -/
  shorter : ∀ s, (blockRound mode s).length + 4 * (blockComment.covered s).length ≤ s.length
  /-- Each of the rounds finds a comment. -/
  finds : ∀ i < rounds mode t, 1 ≤ (blockComment.covered ((blockRound mode)^[i] t)).length
  /-- The pass over block comments is these rounds. -/
  result : stripBlocks mode t = (blockRound mode)^[rounds mode t] t
  few : rounds mode t ≤ t.length / 4
  /-- Nothing is left for another round, -/
  stripped : ¬ HoldsBlock (stripBlocks mode t)
  /-- and the passes that follow open no comment again. -/
  sanitized : ¬ HoldsBlock (sanitize mode t)

/-- **The rounds end and leave no block comment behind**, in either mode. -/
theorem block_comments_go_in_rounds (mode : LineMode) (t : Text) : GoesInRounds mode t where
  shorter := length_blockRound_add_le mode
  finds := fun _ hi => Pattern.occursIn_iff_covered.mp (occursIn_of_lt_rounds hi)
  result := stripBlocks_eq_iterate mode t
  few := by
    have hrounds := four_mul_rounds_le mode t
    omega
  stripped := not_holdsBlock_of_not_occursIn (block_not_occursIn_stripBlocks mode t)
  sanitized := not_holdsBlock_of_not_occursIn (sanitize_has_no_comment mode t).1

/-- Two rounds for eight characters: the first one joins a slash and a star. -/
example : rounds .drop ['/', '/', '*', '*', '/', '*', '*', '/'] = 2 := by cbv

end Nesting
