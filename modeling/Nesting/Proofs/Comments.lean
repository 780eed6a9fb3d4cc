import Mathlib.Data.List.TakeWhile
import Nesting.Proofs.Substitution
import Nesting.Sanitizer.Comment

/-!
# Where comments are, and where they are gone

A block comment is in a text exactly if `/*` stands in it with `*/` somewhere behind, the two not
sharing a character; a line comment is in it exactly if `//` is. Both are read off the two-character
markers, so a substitution that only copies slashes and stars brings back neither. This is all that
is needed to see that no later pass opens a comment again.
-/

namespace Nesting

variable {p : Pattern} {f : Text → Text} {mode : LineMode} {t body rest : Text} {x : Char}

/-! ## Block comments -/

theorem isSome_splitBlockEnd_iff :
    (splitBlockEnd t).isSome = true ↔ ∃ b c, t = b ++ '*' :: '/' :: c := by
  fun_induction splitBlockEnd t with
  | case1 r => exact iff_of_true rfl ⟨[], r, rfl⟩
  | case2 c r hne ih =>
    rw [Option.isSome_map, ih]
    constructor
    · rintro ⟨b, d, rfl⟩
      exact ⟨c :: b, d, rfl⟩
    · rintro ⟨b, d, h⟩
      cases b with
      | nil =>
        obtain ⟨hc, hr⟩ := List.cons.inj h
        exact absurd hr (hne d hc)
      | cons e b => exact ⟨b, d, (List.cons.inj h).2⟩
  | case3 => exact iff_of_false Bool.false_ne_true (by rintro ⟨b, c, h⟩; simp at h)

/-- **A block comment ends at the first `*/` behind its beginning.** -/
theorem splitBlockEnd_append (h : ¬ ['*', '/'] <:+: body) (rest : Text) :
    splitBlockEnd (body ++ '*' :: '/' :: rest) = some (body ++ ['*', '/'], rest) := by
  induction body with
  | nil => rfl
  | cons c body ih =>
    have hb : ¬ ['*', '/'] <:+: body := fun hb => h (hb.trans (List.suffix_cons c body).isInfix)
    rw [List.cons_append, splitBlockEnd, ih hb]
    · rfl
    · -- the body and its end do not begin with `*/`
      intro r hc hr
      cases body with
      | nil => exact absurd (List.cons.inj hr).1 (by decide)
      | cons d body =>
        rw [hc, (List.cons.inj hr).1] at h
        exact h ⟨[], body, rfl⟩

theorem exists_of_match_block (h : blockComment.match? t ≠ none) :
    ∃ r, t = '/' :: '*' :: r := by
  unfold blockComment at h
  dsimp only at h
  split at h
  · exact ⟨_, rfl⟩
  · exact absurd rfl h

theorem isSome_match_block_iff :
    (blockComment.match? t).isSome = true ↔ ∃ b c, t = '/' :: '*' :: (b ++ '*' :: '/' :: c) := by
  constructor
  · intro h
    obtain ⟨r, rfl⟩ := exists_of_match_block (Option.isSome_iff_ne_none.mp h)
    have h : (splitBlockEnd r).isSome = true := by simpa [blockComment] using h
    obtain ⟨b, c, rfl⟩ := isSome_splitBlockEnd_iff.mp h
    exact ⟨b, c, rfl⟩
  · rintro ⟨b, c, rfl⟩
    have h : (splitBlockEnd (b ++ '*' :: '/' :: c)).isSome = true :=
      isSome_splitBlockEnd_iff.mpr ⟨b, c, rfl⟩
    simpa [blockComment] using h

/-- **A text has a block comment if `/*` stands in it and `*/` behind.** -/
theorem block_occursIn_iff :
    blockComment.occursIn t = true ↔ ∃ a b c, t = a ++ '/' :: '*' :: (b ++ '*' :: '/' :: c) := by
  rw [Pattern.occursIn_iff]
  constructor
  · rintro ⟨a, v, rfl, hv⟩
    obtain ⟨b, c, rfl⟩ := isSome_match_block_iff.mp hv
    exact ⟨a, b, c, rfl⟩
  · rintro ⟨a, b, c, rfl⟩
    exact ⟨a, _, rfl, isSome_match_block_iff.mpr ⟨b, c, rfl⟩⟩

/-- A whole block comment at the start of a text is what is covered there. -/
theorem match_block (h : ¬ ['*', '/'] <:+: body) :
    blockComment.match? ('/' :: '*' :: (body ++ ['*', '/']) ++ rest)
      = some ('/' :: '*' :: (body ++ ['*', '/']), rest) := by
  rw [List.cons_append, List.cons_append, List.append_assoc]
  show (splitBlockEnd (body ++ '*' :: '/' :: rest)).map _ = _
  rw [splitBlockEnd_append h]
  rfl

theorem exists_body_of_splitBlockEnd {covered : Text}
    (h : splitBlockEnd t = some (covered, rest)) :
    ∃ body, ¬ ['*', '/'] <:+: body ∧ covered = body ++ ['*', '/'] := by
  fun_induction splitBlockEnd t generalizing covered with
  | case1 r =>
    obtain ⟨rfl, -⟩ := Prod.mk.inj (Option.some.inj h)
    exact ⟨[], by decide, rfl⟩
  | case2 c r hne ih =>
    obtain ⟨⟨m, rest'⟩, hm, he⟩ := Option.map_eq_some_iff.mp h
    obtain ⟨rfl, rfl⟩ := Prod.mk.inj he
    obtain ⟨body, hbody, rfl⟩ := ih hm
    refine ⟨c :: body, ?_, rfl⟩
    intro hinfix
    obtain hstart | hinfix := List.infix_cons_iff.mp hinfix
    · -- the body begins with the end marker, and so does the text
      obtain ⟨d, hd⟩ := hstart
      obtain ⟨hc, rfl⟩ := List.cons.inj hd
      exact hne _ hc.symm (eq_append_of_splitBlockEnd hm)
    · exact hbody hinfix
  | case3 => cases h

/-- **What is covered at the start of a text is a body between the two markers**, and the end marker
is not in the body. -/
theorem exists_body_of_match_block {covered : Text}
    (h : blockComment.match? t = some (covered, rest)) :
    ∃ body, ¬ ['*', '/'] <:+: body ∧ covered = '/' :: '*' :: (body ++ ['*', '/']) := by
  obtain ⟨r, rfl⟩ := exists_of_match_block (t := t) (by rw [h]; exact Option.some_ne_none _)
  obtain ⟨⟨m, rest'⟩, hm, he⟩ := Option.map_eq_some_iff.mp h
  obtain ⟨rfl, rfl⟩ := Prod.mk.inj he
  obtain ⟨body, hbody, rfl⟩ := exists_body_of_splitBlockEnd hm
  exact ⟨body, hbody, rfl⟩

theorem stripBlocks_eq_self (h : blockComment.occursIn t = false) : stripBlocks mode t = t := by
  rw [stripBlocks, dif_neg (by rw [h]; exact Bool.false_ne_true)]

/-- **Nothing is left of block comments** when they have been taken away. -/
theorem block_not_occursIn_stripBlocks (mode : LineMode) (t : Text) :
    blockComment.occursIn (stripBlocks mode t) = false := by
  fun_induction stripBlocks mode t with
  | case1 t _ ih => exact ih
  | case2 t h => exact eq_false_of_ne_true h

/-- A round more or less at the beginning makes no difference. -/
theorem stripBlocks_replace (mode : LineMode) (t : Text) :
    stripBlocks mode (blockComment.replace mode.residue t) = stripBlocks mode t := by
  by_cases ht : blockComment.occursIn t = true
  · conv_rhs => rw [stripBlocks, dif_pos ht]
  · rw [Pattern.replace_eq_self (eq_false_of_ne_true ht)]

/-- One round is enough when it leaves no block comment. -/
theorem stripBlocks_eq_replace
    (h : blockComment.occursIn (blockComment.replace mode.residue t) = false) :
    stripBlocks mode t = blockComment.replace mode.residue t := by
  rw [← stripBlocks_replace, stripBlocks_eq_self h]

/-- **A pass that copies slashes and stars opens no block comment.** -/
theorem block_not_occursIn_replace (hslash : p.Copies f '/') (hstar : p.Copies f '*')
    (h : blockComment.occursIn t = false) : blockComment.occursIn (p.replace f t) = false := by
  by_contra hocc
  obtain ⟨a, b, c, hr⟩ := block_occursIn_iff.mp (eq_true_of_ne_false hocc)
  obtain ⟨a', b', rfl, -, hb⟩ := hslash.exists_of_pair hstar hr
  obtain ⟨b'', c', rfl, -, -⟩ := hstar.exists_of_pair hslash hb
  exact absurd (block_occursIn_iff.mpr ⟨a', b'', c', rfl⟩) (by rw [h]; exact Bool.false_ne_true)

/-! ## Line comments -/

theorem exists_of_match_line (h : lineComment.match? t ≠ none) : ∃ r, t = '/' :: '/' :: r := by
  unfold lineComment at h
  dsimp only at h
  split at h
  · exact ⟨_, rfl⟩
  · exact absurd rfl h

/-- **A text has a line comment if `//` stands in it.** -/
theorem line_occursIn_iff :
    lineComment.occursIn t = true ↔ ∃ a b, t = a ++ '/' :: '/' :: b := by
  rw [Pattern.occursIn_iff]
  constructor
  · rintro ⟨a, v, rfl, hv⟩
    obtain ⟨r, rfl⟩ := exists_of_match_line (Option.isSome_iff_ne_none.mp hv)
    exact ⟨a, r, rfl⟩
  · rintro ⟨a, b, rfl⟩
    exact ⟨a, _, rfl, rfl⟩

/-- A line comment at the start of a text goes up to the line feed, or to the end. -/
theorem match_line (h : '\n' ∉ body) (hrest : ∀ c, rest.head? = some c → c = '\n') :
    lineComment.match? ('/' :: '/' :: body ++ rest) = some ('/' :: '/' :: body, rest) := by
  have hb : ∀ c ∈ body, decide (c ≠ '\n') = true := by
    intro c hc
    rw [decide_eq_true_iff]
    rintro rfl
    exact h hc
  show some ('/' :: '/' :: (body ++ rest).takeWhile _, (body ++ rest).dropWhile _) = _
  rw [List.takeWhile_append_of_pos hb, List.dropWhile_append_of_pos hb]
  cases rest with
  | nil => simp
  | cons c rest =>
    obtain rfl := hrest c rfl
    simp

/-- Behind a line comment there is a line feed, or nothing. -/
theorem head_of_match_line {covered : Text} (h : lineComment.match? t = some (covered, rest)) :
    ∀ c, rest.head? = some c → c = '\n' := by
  obtain ⟨r, rfl⟩ := exists_of_match_line (t := t) (by rw [h]; exact Option.some_ne_none _)
  have h : r.dropWhile (· ≠ '\n') = rest := (Prod.mk.inj (Option.some.inj h)).2
  intro c hc
  have hnot := List.head?_dropWhile_not (fun c => decide (c ≠ '\n')) r
  rw [h, hc] at hnot
  simpa using hnot

/-- What is covered at the start of a text is the marker and a body on one line. -/
theorem exists_body_of_match_line {covered : Text}
    (h : lineComment.match? t = some (covered, rest)) :
    ∃ body, covered = '/' :: '/' :: body ∧ '\n' ∉ body := by
  obtain ⟨r, rfl⟩ := exists_of_match_line (t := t) (by rw [h]; exact Option.some_ne_none _)
  refine ⟨r.takeWhile (· ≠ '\n'), (Prod.mk.inj (Option.some.inj h)).1.symm, fun hmem => ?_⟩
  have hne := List.mem_takeWhile_imp hmem
  simp at hne

theorem newline_not_mem_of_match_line {covered : Text}
    (h : lineComment.match? t = some (covered, rest)) : '\n' ∉ covered := by
  obtain ⟨body, rfl, hbody⟩ := exists_body_of_match_line h
  simpa using hbody

/-- Taking line comments away copies every character but the line feed. -/
theorem copies_stripLines (hx : x ≠ '\n') : lineComment.Copies (fun _ => []) x where
  fresh := fun _ => List.not_mem_nil
  head := by
    intro t b h
    cases t with
    | nil =>
      rw [Pattern.replace_nil] at h
      cases h
    | cons c t =>
      cases hm : lineComment.match? (c :: t) with
      | none =>
        rw [Pattern.replace_cons_of_none hm] at h
        obtain ⟨rfl, hb⟩ := List.cons.inj h
        exact ⟨t, rfl, rfl, hb⟩
      | some m =>
        obtain ⟨covered, rest⟩ := m
        rw [Pattern.replace_of_some hm, List.nil_append] at h
        -- the result goes on with a line feed or ends
        cases rest with
        | nil =>
          rw [Pattern.replace_nil] at h
          cases h
        | cons d rest =>
          obtain rfl := head_of_match_line hm d rfl
          rw [Pattern.replace_cons_of_none rfl] at h
          exact absurd (List.cons.inj h).1.symm hx

/-- **Nothing is left of line comments** when they have been taken away. -/
theorem line_not_occursIn_stripLines (t : Text) : lineComment.occursIn (stripLines t) = false := by
  by_contra hocc
  obtain ⟨a, b, hr⟩ := line_occursIn_iff.mp (eq_true_of_ne_false hocc)
  have hslash := copies_stripLines (x := '/') (by decide)
  obtain ⟨a', b', -, hm, -⟩ := hslash.exists_of_pair hslash hr
  cases hm

/-- **A pass that copies slashes opens no line comment.** -/
theorem line_not_occursIn_replace (hslash : p.Copies f '/') (h : lineComment.occursIn t = false) :
    lineComment.occursIn (p.replace f t) = false := by
  by_contra hocc
  obtain ⟨a, b, hr⟩ := line_occursIn_iff.mp (eq_true_of_ne_false hocc)
  obtain ⟨a', b', ht, -, -⟩ := hslash.exists_of_pair hslash hr
  exact absurd (line_occursIn_iff.mpr ⟨a', b', ht⟩) (by rw [h]; exact Bool.false_ne_true)

end Nesting
