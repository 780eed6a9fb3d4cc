import Nesting.Proofs.Settled
import Nesting.Proofs.WellNested

/-!
# Sanitizing token by token

The sanitizer knows no tokens. On a source whose tokens are well separated it does what a lexer
would do all the same: code stays, comments go, literals lose what is in them. `Token.residue` is
that reference, and `WellSeparated` says when the five substitutions agree with it. What it asks is
that no pass can find its markers anywhere but at the tokens it is meant for: no comment marker in
code or in a literal or across the end of one, and in a literal no quote of a kind that is emptied
before.

The passes are followed one at a time. After `n` of them a token is as it was, or already what is to
be left of it (`Token.after`); each pass meets the tokens of its own kind as whole matches and finds
all others clear.
-/

namespace Nesting

/-- The place of a kind of quotes in the order of the passes. -/
def Quote.rank : Quote → Nat
  | .single => 0
  | .double => 1
  | .backtick => 2

theorem Quote.rank_injective : ∀ {q q' : Quote}, q.rank = q'.rank → q = q' := by
  decide

/-- **A token of a source.** -/
inductive Token where
  /-- Anything that is neither comment nor literal. -/
  | code (text : Text)
  /-- A block comment with what stands between its ends. -/
  | block (body : Text)
  /-- A line comment with what stands behind the slashes. -/
  | line (body : Text)
  /-- A literal with what stands between its quotes. -/
  | literal (quote : Quote) (body : Text)

namespace Token

/-- A token as it stands in a source. -/
def text : Token → Text
  | code t => t
  | block body => '/' :: '*' :: (body ++ ['*', '/'])
  | line body => '/' :: '/' :: body
  | literal q body => q.char :: (body ++ [q.char])

/-- **What is to be left of a token.** -/
def residue (mode : LineMode) : Token → Text
  | code t => t
  | block body =>
    match mode with
    | .drop => []
    | .keep => body.filter (· = '\n')
  | line _ => []
  | literal q _ => [q.char, q.char]

/-- The delimiters that a token has for a scan: only code has any. -/
def nesting : Token → Text
  | code t => delimiters t
  | _ => []

/-- **What a token must be on its own.** -/
def WellFormed : Token → Prop
  | code t => (∀ q : Quote, q.char ∉ t) ∧ ¬ ['/', '/'] <:+: t ∧ ¬ ['/', '*'] <:+: t ∧
      t.getLast? ≠ some '/'
  | block body => ¬ ['*', '/'] <:+: body
  | line body => '\n' ∉ body ∧ ¬ ['/', '*'] <:+: '/' :: '/' :: body
  | literal q body => LiteralBody q.char body ∧ ¬ ['/', '/'] <:+: body ∧ ¬ ['/', '*'] <:+: body ∧
      ∀ q' : Quote, q'.rank < q.rank → q'.char ∉ body

/-- **What a token must be followed by**: a line comment by nothing, or by code that starts a new
line. -/
def EndsBefore : Token → List Token → Prop
  | line _, [] => True
  | line _, code t :: _ => t.head? = some '\n'
  | line _, _ :: _ => False
  | _, _ => True

instance : DecidablePred WellFormed
  | code _ => inferInstanceAs (Decidable (_ ∧ _ ∧ _ ∧ _))
  | block _ => inferInstanceAs (Decidable (¬ _))
  | line _ => inferInstanceAs (Decidable (_ ∧ _))
  | literal q body => inferInstanceAs (Decidable (LiteralBody q.char body ∧ _ ∧ _ ∧ _))

instance : ∀ token tokens, Decidable (EndsBefore token tokens)
  | line _, [] => isTrue trivial
  | line _, code t :: _ => inferInstanceAs (Decidable (t.head? = some '\n'))
  | line _, block _ :: _ | line _, line _ :: _ | line _, literal _ _ :: _ => isFalse id
  | code _, _ | block _, _ | literal _ _, _ => isTrue trivial

end Token

/-- **A source whose tokens are well separated.** -/
def WellSeparated : List Token → Prop
  | [] => True
  | token :: rest => token.WellFormed ∧ token.EndsBefore rest ∧ WellSeparated rest

instance decidableWellSeparated : DecidablePred WellSeparated
  | [] => isTrue trivial
  | _ :: rest =>
    have := decidableWellSeparated rest
    inferInstanceAs (Decidable (_ ∧ _ ∧ _))

theorem WellSeparated.tail (token : Token) (rest : List Token) (h : WellSeparated (token :: rest)) :
    WellSeparated rest :=
  h.2.2

namespace Token

variable {p : Pattern} {mode : LineMode} {n : Nat} {body t rest : Text} {tokens : List Token}
  {q : Quote} {y : Char}

/-! ## Half-way through the passes -/

/-- The pass that a token is meant for, counted from 0. Code is meant for none of the five. -/
def pass : Token → Nat
  | block _ => 0
  | line _ => 1
  | literal q _ => 2 + q.rank
  | code _ => 5

/-- **A token after the first `n` passes.** -/
def after (mode : LineMode) (n : Nat) (token : Token) : Text :=
  if token.pass < n then token.residue mode else token.text

theorem after_code : (code t).after mode n = t := by
  unfold after
  split <;> rfl

theorem after_block (h : 0 < n) : (block body).after mode n = (block body).residue mode :=
  if_pos h

theorem after_line_of_le (h : n ≤ 1) : (line body).after mode n = '/' :: '/' :: body :=
  if_neg (Nat.not_lt.mpr h)

theorem after_line_of_lt (h : 1 < n) : (line body).after mode n = [] :=
  if_pos h

theorem after_literal_of_le (h : n ≤ 2 + q.rank) :
    (literal q body).after mode n = q.char :: (body ++ [q.char]) :=
  if_neg (Nat.not_lt.mpr h)

theorem after_literal_of_lt (h : 2 + q.rank < n) :
    (literal q body).after mode n = [q.char, q.char] :=
  if_pos h

theorem after_zero (token : Token) : token.after mode 0 = token.text :=
  if_neg (Nat.not_lt_zero _)

theorem after_five (token : Token) : token.after mode 5 = token.residue mode := by
  cases token with
  | code t => exact after_code
  | block body => exact after_block (by decide)
  | line body => exact after_line_of_lt (by decide)
  | literal q body => exact after_literal_of_lt (by cases q <;> decide)

/-- A pass that a token is not meant for does not change it. -/
theorem after_succ {token : Token} (h : token.pass ≠ n) :
    token.after mode (n + 1) = token.after mode n := by
  unfold after
  by_cases hlt : token.pass < n
  · rw [if_pos hlt, if_pos (by omega)]
  · rw [if_neg hlt, if_neg (by omega)]

/-- Whatever passes are done, a line comment is followed by a line feed or by nothing. -/
theorem head_behind_line (h : (line body).EndsBefore tokens) :
    ∀ c, (tokens.flatMap (after mode n)).head? = some c → c = '\n' := by
  intro c hc
  cases tokens with
  | nil => cases hc
  | cons token tokens =>
    cases token with
    | code t =>
      change t.head? = some '\n' at h
      rw [List.flatMap_cons, after_code, List.head?_append, h] at hc
      exact (Option.some.inj hc).symm
    | block _ => exact absurd h id
    | line _ => exact absurd h id
    | literal _ _ => exact absurd h id

/-! ## Clear tokens -/

/-- What a block comment leaves behind has line feeds only. -/
theorem eq_newline_of_mem_residue {c : Char} (h : c ∈ (block body).residue mode) : c = '\n' := by
  cases mode with
  | drop => cases h
  | keep => simpa using (List.mem_filter.mp h).2

section Marker

-- `p` is one of the two comments: it begins with a slash and `y`
variable (hp : ∀ {t}, p.match? t ≠ none → ∃ r, t = '/' :: y :: r)
include hp

theorem match_eq_none_of_ne {c : Char} (hc : c ≠ '/') : p.match? (c :: t) = none := by
  by_contra hm
  obtain ⟨r, hr⟩ := hp hm
  exact hc (List.cons.inj hr).1

theorem clear_code (ht : ¬ ['/', y] <:+: t) (hend : t.getLast? ≠ some '/') : p.Clear t rest :=
  .of_marker hp ht (fun h => absurd h hend)

theorem clear_residue : p.Clear ((block body).residue mode) rest := by
  intro w c v huv
  refine match_eq_none_of_ne hp ?_
  have hc : c = '\n' := eq_newline_of_mem_residue (by rw [huv]; simp)
  rw [hc]
  decide

theorem clear_quoted (hy : q.char ≠ y) (hbody : ¬ ['/', y] <:+: body) :
    p.Clear (q.char :: (body ++ [q.char])) rest := by
  have hq : q.char ≠ '/' := q.char_ne (by decide)
  refine .cons (match_eq_none_of_ne hp hq) (.append ?_ (.cons (match_eq_none_of_ne hp hq) .nil))
  refine .of_marker hp hbody (fun _ hhead => ?_)
  exact hy (Option.some.inj hhead)

end Marker

/-! ## The passes, one at a time -/

/-- In the first pass and behind it every token is clear of block comments, but for a block comment
in the first pass. -/
theorem clear_of_block {token : Token} (h : WellSeparated (token :: tokens)) (hn : n ≤ 1)
    (hpass : token.pass = 0 → n = 1) :
    blockComment.Clear (token.after mode n) (tokens.flatMap (after mode n)) := by
  obtain ⟨hform, hends, -⟩ := h
  cases token with
  | code t =>
    rw [after_code]
    exact clear_code exists_of_match_block hform.2.2.1 hform.2.2.2
  | block body =>
    rw [after_block (by rw [hpass rfl]; exact Nat.one_pos)]
    exact clear_residue exists_of_match_block
  | line body =>
    rw [after_line_of_le hn]
    refine .of_marker exists_of_match_block hform.2 (fun _ hhead => ?_)
    exact absurd (head_behind_line hends '*' hhead) (by decide)
  | literal q body =>
    rw [after_literal_of_le (by omega)]
    exact clear_quoted exists_of_match_block (q.char_ne (by decide)) hform.2.2.1

/-- What a whole block comment is replaced by is what is to be left of it. -/
theorem residue_block : mode.residue (block body).text = (block body).residue mode := by
  cases mode with
  | drop => rfl
  | keep =>
    show ('/' :: '*' :: (body ++ ['*', '/'])).filter (· = '\n') = body.filter (· = '\n')
    simp [List.filter_append]

/-- **One round over block comments meets them as whole matches.** -/
theorem replace_blocks (mode : LineMode) (h : WellSeparated tokens) :
    blockComment.replace mode.residue (tokens.flatMap (after mode 0))
      = tokens.flatMap (after mode 1) := by
  refine Pattern.replace_flatMap WellSeparated.tail (fun token rest h => ?_) h
  by_cases hpass : token.pass = 0
  · cases token with
    | block body =>
      rw [after_zero, after_block Nat.one_pos, residue_block]
      exact .inr ⟨match_block h.1, rfl⟩
    | code _ | line _ => cases hpass
    | literal q _ => cases q <;> cases hpass
  · exact .inl ⟨clear_of_block h (Nat.zero_le _) (fun h => absurd h hpass), after_succ hpass⟩

/-- One round is enough. -/
theorem stripBlocks_tokens (h : WellSeparated tokens) :
    stripBlocks mode (tokens.flatMap (after mode 0)) = tokens.flatMap (after mode 1) := by
  have hround := replace_blocks mode h
  have hnone : blockComment.occursIn (tokens.flatMap (after mode 1)) = false :=
    Pattern.occursIn_flatMap WellSeparated.tail
      (fun _ _ h => clear_of_block h (Nat.le_refl _) (fun _ => rfl)) h
  rw [stripBlocks_eq_replace (by rw [hround]; exact hnone), hround]

theorem stripLines_tokens (h : WellSeparated tokens) :
    stripLines (tokens.flatMap (after mode 1)) = tokens.flatMap (after mode 2) := by
  refine Pattern.replace_flatMap WellSeparated.tail ?_ h
  rintro token rest ⟨hform, hends, -⟩
  cases token with
  | code t =>
    rw [after_code, after_code]
    exact .inl ⟨clear_code exists_of_match_line hform.2.1 hform.2.2.2, rfl⟩
  | block body =>
    rw [after_block Nat.one_pos, after_block Nat.two_pos]
    exact .inl ⟨clear_residue exists_of_match_line, rfl⟩
  | line body =>
    rw [after_line_of_le (Nat.le_refl _), after_line_of_lt (Nat.lt_add_one _)]
    exact .inr ⟨match_line hform.1 (head_behind_line hends), rfl⟩
  | literal q body =>
    rw [after_literal_of_le (by omega), after_literal_of_le (by omega)]
    exact .inl ⟨clear_quoted exists_of_match_line (q.char_ne (by decide)) hform.2.1, rfl⟩

/-- **The pass over one kind of quotes meets the literals of that kind as whole matches.** -/
theorem emptyLiterals_tokens (mode : LineMode) (q : Quote) (h : WellSeparated tokens) :
    emptyLiterals q.char (tokens.flatMap (after mode (2 + q.rank)))
      = tokens.flatMap (after mode (2 + q.rank + 1)) := by
  refine Pattern.replace_flatMap WellSeparated.tail ?_ h
  rintro token rest ⟨hform, -, -⟩
  cases token with
  | code t =>
    rw [after_code, after_code]
    exact .inl ⟨clear_literal (hform.1 q), rfl⟩
  | block body =>
    rw [after_block (by omega), after_block (by omega)]
    refine .inl ⟨clear_literal (fun hmem => ?_), rfl⟩
    exact q.char_ne (by decide) (eq_newline_of_mem_residue hmem)
  | line body =>
    rw [after_line_of_lt (by omega), after_line_of_lt (by omega)]
    exact .inl ⟨.nil, rfl⟩
  | literal q' body =>
    by_cases hq : q' = q
    · subst hq
      rw [after_literal_of_le (Nat.le_refl _), after_literal_of_lt (Nat.lt_add_one _)]
      exact .inr ⟨match_literal hform.1 (q'.char_ne (by decide)) _, rfl⟩
    · have hrank : q'.rank ≠ q.rank := fun hr => hq (Quote.rank_injective hr)
      have hchar : q.char ≠ q'.char := fun hc => hq (Quote.char_injective hc.symm)
      refine .inl ⟨clear_literal ?_, after_succ (by show 2 + q'.rank ≠ 2 + q.rank; omega)⟩
      -- a literal of another kind is empty already, or may not have this quote
      by_cases hlt : q'.rank < q.rank
      · rw [after_literal_of_lt (by omega)]
        simp [hchar]
      · rw [after_literal_of_le (by omega)]
        have hbody := hform.2.2.2 q (by omega)
        simp [hchar, hbody]

end Token

/-! ## All passes -/

/-- Only the delimiters of code are left. -/
theorem Token.delimiters_residue (mode : LineMode) (token : Token) :
    delimiters (token.residue mode) = token.nesting := by
  cases token with
  | code t => rfl
  | block body =>
    refine List.filter_eq_nil_iff.mpr (fun c hc => ?_)
    rw [eq_newline_of_mem_residue hc]
    decide
  | line body => rfl
  | literal q body =>
    show delimiters [q.char, q.char] = []
    cases q <;> decide

/-- **The sanitizer does what the tokens ask for**: it leaves of each token what is to be left of
it, and so the delimiters of the code and no others reach a scan. -/
theorem sanitize_well_separated (mode : LineMode) {tokens : List Token}
    (h : WellSeparated tokens) :
    sanitize mode (tokens.flatMap Token.text) = tokens.flatMap (Token.residue mode) ∧
      delimiters (sanitize mode (tokens.flatMap Token.text)) = tokens.flatMap Token.nesting := by
  have hstart : tokens.flatMap Token.text = tokens.flatMap (Token.after mode 0) :=
    List.flatMap_congr fun token _ => token.after_zero.symm
  have hend : tokens.flatMap (Token.after mode 5) = tokens.flatMap (Token.residue mode) :=
    List.flatMap_congr fun token _ => token.after_five
  have hsanitize : sanitize mode (tokens.flatMap Token.text)
      = tokens.flatMap (Token.residue mode) := by
    unfold sanitize
    rw [hstart, Token.stripBlocks_tokens h, Token.stripLines_tokens h]
    have hsingle := Token.emptyLiterals_tokens mode .single h
    have hdouble := Token.emptyLiterals_tokens mode .double h
    have hbacktick := Token.emptyLiterals_tokens mode .backtick h
    exact (congrArg (fun t => emptyLiterals '`' (emptyLiterals '"' t)) hsingle).trans
      ((congrArg (emptyLiterals '`') hdouble).trans (hbacktick.trans hend))
  refine ⟨hsanitize, ?_⟩
  rw [hsanitize]
  unfold delimiters
  rw [List.filter_flatMap]
  exact List.flatMap_congr fun token _ => token.delimiters_residue mode

/-- A call with two literals that hold quotes of their own kind and of a later one, and behind it a
block comment and a line comment that touch. -/
theorem sanitize_well_separated_call :
    let tokens : List Token :=
      [.code ['f', '('], .literal .single ['\\', '\'', '('], .literal .double ['`', '['],
        .code [')'], .block ['{', '\n', '*'], .line [' ', '\'', '*', '/'], .code ['\n', ']']]
    WellSeparated tokens ∧
      sanitize .keep (tokens.flatMap Token.text)
        = ['f', '(', '\'', '\'', '"', '"', ')', '\n', '\n', ']'] ∧
      delimiters (sanitize .keep (tokens.flatMap Token.text)) = ['(', ')', ']'] := by
  intro tokens
  have h : WellSeparated tokens := by decide
  obtain ⟨htext, hdelims⟩ := sanitize_well_separated .keep h
  exact ⟨h, htext, hdelims.trans (by decide)⟩

end Nesting
