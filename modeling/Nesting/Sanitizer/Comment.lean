import Nesting.Sanitizer.Pattern

/-!
# Comments

A block comment runs from `/*` to the first `*/` behind it and may span lines; `/*/` does not close
itself. A line comment runs from `//` to the end of its line, without the line feed.

Taking block comments away can join a `/` and a `*` that were apart, as in `//*a*/*b*/`, and so open
a comment that was not there before. `stripBlocks` therefore repeats the substitution until nothing
matches. It ends because every round that finds a comment makes the text shorter: also a comment
that leaves its line feeds behind loses the four characters that mark its ends.
-/

namespace Nesting

/-- What a block comment leaves behind. -/
inductive LineMode where
  /-- Nothing. -/
  | drop
  /-- Its line feeds, so that the lines after it keep their numbers. -/
  | keep
  deriving DecidableEq

/-- Splits a text behind the first `*/`. -/
def splitBlockEnd : Text → Option (Text × Text)
  | '*' :: '/' :: rest => some (['*', '/'], rest)
  | c :: rest => (splitBlockEnd rest).map fun (covered, rest) => (c :: covered, rest)
  | [] => none

theorem eq_append_of_splitBlockEnd {t covered rest : Text}
    (h : splitBlockEnd t = some (covered, rest)) : t = covered ++ rest := by
  fun_induction splitBlockEnd t generalizing covered rest with
  | case1 r =>
    simp only [Option.some.injEq, Prod.mk.injEq] at h
    obtain ⟨rfl, rfl⟩ := h
    rfl
  | case2 c r _ ih =>
    obtain ⟨⟨u, v⟩, hu, he⟩ := Option.map_eq_some_iff.mp h
    simp only [Prod.mk.injEq] at he
    obtain ⟨rfl, rfl⟩ := he
    rw [ih hu]
    rfl
  | case3 => cases h

/-- A block comment. -/
def blockComment : Pattern where
  match?
    | '/' :: '*' :: rest =>
      (splitBlockEnd rest).map fun (covered, rest) => ('/' :: '*' :: covered, rest)
    | _ => none
  split := by
    intro t covered rest h
    split at h
    · obtain ⟨⟨u, v⟩, hu, he⟩ := Option.map_eq_some_iff.mp h
      simp only [Prod.mk.injEq] at he
      obtain ⟨rfl, rfl⟩ := he
      rw [eq_append_of_splitBlockEnd hu]
      simp
    · cases h

/-- A line comment. -/
def lineComment : Pattern where
  match?
    | '/' :: '/' :: rest =>
      some ('/' :: '/' :: rest.takeWhile (· ≠ '\n'), rest.dropWhile (· ≠ '\n'))
    | _ => none
  split := by
    intro t covered rest h
    split at h
    · simp only [Option.some.injEq, Prod.mk.injEq] at h
      obtain ⟨rfl, rfl⟩ := h
      simp
    · cases h

/-- What a block comment is replaced by. -/
def LineMode.residue : LineMode → Text → Text
  | .drop, _ => []
  | .keep, comment => comment.filter (· = '\n')

/-! ## The rounds get shorter -/

theorem length_residue_le (mode : LineMode) (comment : Text) :
    (mode.residue comment).length ≤ comment.length := by
  cases mode with
  | drop => simp [LineMode.residue]
  | keep => exact List.length_filter_le _ _

/-- A block comment leaves less behind than it covers. -/
theorem length_residue_lt (mode : LineMode) {t covered rest : Text}
    (h : blockComment.match? t = some (covered, rest)) :
    (mode.residue covered).length < covered.length := by
  simp only [blockComment] at h
  split at h
  · obtain ⟨⟨u, v⟩, -, he⟩ := Option.map_eq_some_iff.mp h
    simp only [Prod.mk.injEq] at he
    obtain ⟨rfl, rfl⟩ := he
    cases mode with
    | drop => simp [LineMode.residue]
    | keep =>
      have := List.length_filter_le (· = '\n') u
      simp [LineMode.residue]
      omega
  · cases h

/-- Replacing block comments never makes a text longer. -/
theorem length_replace_block_le (mode : LineMode) (t : Text) :
    (blockComment.replace mode.residue t).length ≤ t.length := by
  fun_induction Pattern.replace blockComment mode.residue t with
  | case1 => simp
  | case2 c cs h ih => simpa using ih
  | case3 c cs covered rest h ih =>
    obtain ⟨-, he⟩ := blockComment.split h
    rw [he]
    have := length_residue_le mode covered
    simp only [List.length_append]
    omega

/-- A round that finds a block comment makes the text shorter. -/
theorem length_replace_block_lt (mode : LineMode) {t : Text} (h : blockComment.occursIn t = true) :
    (blockComment.replace mode.residue t).length < t.length := by
  fun_induction Pattern.replace blockComment mode.residue t with
  | case1 => simp [Pattern.occursIn] at h
  | case2 c cs hm ih =>
    have h' : blockComment.occursIn cs = true := by simpa [Pattern.occursIn, hm] using h
    simpa using ih h'
  | case3 c cs covered rest hm _ =>
    obtain ⟨-, he⟩ := blockComment.split hm
    rw [he]
    have := length_residue_lt mode hm
    have := length_replace_block_le mode rest
    simp only [List.length_append]
    omega

/-- Replaces block comments until there is none. -/
def stripBlocks (mode : LineMode) (t : Text) : Text :=
  if _h : blockComment.occursIn t = true then
    stripBlocks mode (blockComment.replace mode.residue t)
  else t
termination_by t.length
decreasing_by exact length_replace_block_lt mode _h

/-- Takes line comments away. -/
def stripLines (t : Text) : Text :=
  lineComment.replace (fun _ => []) t

end Nesting
