import Nesting.Proofs.Literals

/-!
# Literals that never end

A quote that no match covers begins a literal that never ends: reading from it gets stuck, at a
backslash with a line feed or with nothing behind it, or at the end of the text (`Stuck`). The pass
then goes on with the very next character. It may meet a quote that the reading had taken for the
second half of an escape pair, and begin to read there once more.

It makes no difference. Behind an escape pair both readings are between two characters of a literal,
so that the second one goes through what is left for the first and gets stuck at the same place. No
match begins between the quote and that place, and all that is between them is copied
(`clear_of_stuck`).
-/

namespace Nesting

variable {q : Quote} {quote c : Char} {t u v body rest : Text} {i : Nat}

/-! ## Where matches are -/

namespace Pattern

variable {p : Pattern}

/-- **Which characters of a text a pattern covers**: for each of them, whether it is part of a match
when matches are replaced from left to right. -/
def coverage (p : Pattern) : Text → List Bool
  | [] => []
  | c :: cs =>
    match _h : p.match? (c :: cs) with
    | none => false :: p.coverage cs
    | some (m, rest) => m.map (fun _ => true) ++ p.coverage rest
termination_by t => t.length
decreasing_by
  · simp
  · exact p.length_rest_lt _h

@[simp] theorem coverage_nil (p : Pattern) : p.coverage [] = [] := by
  rw [coverage]

theorem coverage_cons_of_none (h : p.match? (c :: t) = none) :
    p.coverage (c :: t) = false :: p.coverage t := by
  rw [coverage]
  split
  · rfl
  · rename_i h'
    rw [h] at h'
    cases h'

theorem coverage_of_some {m : Text} (h : p.match? t = some (m, rest)) :
    p.coverage t = m.map (fun _ => true) ++ p.coverage rest := by
  cases t with
  | nil =>
    rw [match?_nil] at h
    cases h
  | cons c t =>
    rw [coverage]
    split
    · rename_i h'
      rw [h] at h'
      cases h'
    · rename_i h'
      rw [h] at h'
      cases h'
      rfl

theorem length_coverage (p : Pattern) (t : Text) : (p.coverage t).length = t.length := by
  fun_induction coverage p t with
  | case1 => rfl
  | case2 c cs _ ih => rw [List.length_cons, List.length_cons, ih]
  | case3 c cs m rest hm ih =>
    obtain ⟨-, hsplit⟩ := p.split hm
    rw [List.length_append, List.length_map, ih, hsplit, List.length_append]

/-- Nothing is covered in a piece that is clear. -/
theorem coverage_append_of_clear (h : p.Clear u rest) :
    p.coverage (u ++ rest) = u.map (fun _ => false) ++ p.coverage rest := by
  induction u with
  | nil => rfl
  | cons c u ih =>
    rw [List.cons_append, coverage_cons_of_none (h [] c u rfl), ih h.tail]
    rfl

/-- Nor are the characters of a clear piece covered where a longer text is cut in front of it. -/
theorem getElem?_coverage_of_clear {j : Nat}
    (hcut : p.coverage t = p.coverage (t.take i) ++ p.coverage (t.drop i))
    (ht : t.drop i = u ++ rest) (h : p.Clear u rest) (hij : i ≤ j) (hj : j < i + u.length) :
    (p.coverage t)[j]? = some false := by
  have hlength := congrArg List.length ht
  rw [List.length_drop, List.length_append] at hlength
  have hbefore : (p.coverage (t.take i)).length = i := by
    rw [length_coverage, List.length_take]
    omega
  have hk : j - i < u.length := by omega
  rw [hcut, ht, coverage_append_of_clear h, List.getElem?_append_right (by omega), hbefore,
    List.getElem?_append_left (by rw [List.length_map]; exact hk), List.getElem?_map,
    List.getElem?_eq_getElem hk]
  rfl

end Pattern

theorem coverage_literal (h : LiteralBody q.char body) (rest : Text) :
    (literal q.char).coverage (q.char :: (body ++ [q.char]) ++ rest)
      = (q.char :: (body ++ [q.char])).map (fun _ => true) ++ (literal q.char).coverage rest :=
  Pattern.coverage_of_some (match_literal h (q.char_ne (by decide)) rest)

theorem match_literal_copied (h : c = q.char → Unclosed q.char t) :
    (literal q.char).match? (c :: t) = none := by
  by_cases hc : c = q.char
  · subst hc
    rw [match_literal_quote, h rfl]
    rfl
  · exact match_literal_cons_ne hc

/-! ## A place that is not covered -/

/-- What never closes does not close before more is added to it either. -/
theorem Unclosed.of_append (hq : quote ≠ '\\') (h : Unclosed quote (u ++ v)) :
    Unclosed quote u := by
  unfold Unclosed at h ⊢
  cases hs : splitLiteralEnd quote u with
  | none => rfl
  | some m =>
    obtain ⟨body, hbody, rfl⟩ := exists_body_of_split hs
    rw [List.append_assoc, List.cons_append, hbody.split hq] at h
    cases h

/-- **A place that is not covered cuts the pass in two**: what is before it is treated as if the
text ended there, and what is behind it as if the text began there. -/
theorem cut_of_not_covered (h : ((literal q.char).coverage t)[i]? = some false) :
    (literal q.char).match? (t.drop i) = none ∧
      emptyLiterals q.char t = emptyLiterals q.char (t.take i) ++ emptyLiterals q.char (t.drop i) ∧
      (literal q.char).coverage t
        = (literal q.char).coverage (t.take i) ++ (literal q.char).coverage (t.drop i) := by
  have hq : q.char ≠ '\\' := q.char_ne (by decide)
  induction t using literal_induction q generalizing i with
  | nil =>
    rw [Pattern.coverage_nil] at h
    cases h
  | literal body rest hbody ih =>
    -- the literal is covered, so the place is behind it
    have ht : q.char :: (body ++ q.char :: rest) = q.char :: (body ++ [q.char]) ++ rest := by simp
    have he : ∀ r, emptyLiterals q.char (q.char :: (body ++ [q.char]) ++ r)
        = q.char :: q.char :: emptyLiterals q.char r := by
      intro r
      rw [← emptyLiterals_literal hbody]
      simp
    rw [ht] at h ⊢
    generalize hm : q.char :: (body ++ [q.char]) = m at h he ⊢
    have hcover : ∀ r, (literal q.char).coverage (m ++ r)
        = m.map (fun _ => true) ++ (literal q.char).coverage r := hm ▸ coverage_literal hbody
    rw [hcover] at h
    by_cases hi : i < m.length
    · rw [List.getElem?_append_left (by rw [List.length_map]; exact hi), List.getElem?_map,
        List.getElem?_eq_getElem hi] at h
      cases h
    · obtain ⟨j, rfl⟩ : ∃ j, i = m.length + j := ⟨i - m.length, by omega⟩
      rw [List.getElem?_append_right (by rw [List.length_map]; omega), List.length_map,
        Nat.add_sub_cancel_left] at h
      obtain ⟨hmatch, hempty, hcoverage⟩ := ih h
      rw [List.take_length_add_append, List.drop_length_add_append, he, he, hcover, hcover, hempty,
        hcoverage, List.append_assoc]
      exact ⟨hmatch, rfl, rfl⟩
  | copied c t hc ih =>
    rw [Pattern.coverage_cons_of_none (match_literal_copied hc)] at h
    cases i with
    | zero =>
      rw [List.take_zero, List.drop_zero, emptyLiterals_nil, Pattern.coverage_nil]
      exact ⟨match_literal_copied hc, rfl, rfl⟩
    | succ i =>
      obtain ⟨hmatch, hempty, hcoverage⟩ := ih h
      -- what does not close in the whole text does not close before the place
      have hbefore : c = q.char → Unclosed q.char (t.take i) := by
        intro hchar
        have hu := hc hchar
        rw [← List.take_append_drop i t] at hu
        exact hu.of_append hq
      rw [List.take_succ_cons, List.drop_succ_cons, emptyLiterals_copied hc,
        emptyLiterals_copied hbefore, Pattern.coverage_cons_of_none (match_literal_copied hc),
        Pattern.coverage_cons_of_none (match_literal_copied hbefore), hempty, hcoverage]
      exact ⟨hmatch, rfl, rfl⟩

/-! ## Where reading gets stuck -/

/-- **Nothing of a literal can be read here**: the text ends, or a backslash has nothing or a line
feed behind it. -/
inductive Stuck : Text → Prop
  | ended : Stuck []
  | lastBackslash : Stuck ['\\']
  | brokenPair {t : Text} : Stuck ('\\' :: '\n' :: t)

theorem Stuck.unclosed (h : Stuck rest) : Unclosed quote rest := by
  cases h with
  | ended => rfl
  | lastBackslash => rfl
  | brokenPair => exact Unclosed.backslash_newline

/-- Where reading can go on, it is not stuck. -/
theorem LiteralBody.eq_nil_of_stuck (h : LiteralBody quote body) (hstuck : Stuck (body ++ rest)) :
    body = [] := by
  generalize hs : body ++ rest = s at hstuck
  cases h with
  | nil => rfl
  | plain _ hb _ =>
    cases hstuck with
    | ended => cases hs
    | lastBackslash => exact absurd (List.cons.inj hs).1 hb
    | brokenPair => exact absurd (List.cons.inj hs).1 hb
  | escape hc _ =>
    cases hstuck with
    | ended => cases hs
    | lastBackslash => cases (List.cons.inj hs).2
    | brokenPair => exact absurd (List.cons.inj (List.cons.inj hs).2).1 hc

/-- **Reading gets stuck at one place only.** -/
theorem LiteralBody.eq_of_stuck {body' rest' : Text} (h : LiteralBody quote body)
    (h' : LiteralBody quote body') (hstuck : Stuck rest) (hstuck' : Stuck rest')
    (heq : body ++ rest = body' ++ rest') : body = body' := by
  induction h generalizing body' with
  | nil =>
    rw [List.nil_append] at heq
    exact (h'.eq_nil_of_stuck (heq ▸ hstuck)).symm
  | @plain c t hc hb ht ih =>
    cases h' with
    | nil =>
      rw [List.nil_append] at heq
      exact (LiteralBody.plain hc hb ht).eq_nil_of_stuck (heq ▸ hstuck')
    | plain _ _ ht' =>
      obtain ⟨rfl, htail⟩ := List.cons.inj heq
      rw [ih ht' htail]
    | escape => exact absurd (List.cons.inj heq).1 hb
  | @escape c t hc ht ih =>
    cases h' with
    | nil =>
      rw [List.nil_append] at heq
      exact (LiteralBody.escape hc ht).eq_nil_of_stuck (heq ▸ hstuck')
    | plain _ hb => exact absurd (List.cons.inj heq).1.symm hb
    | escape _ ht' =>
      obtain ⟨rfl, htail⟩ := List.cons.inj (List.cons.inj heq).2
      rw [ih ht' htail]

theorem LiteralBody.unclosed_append (hbody : LiteralBody quote body) (h : Unclosed quote rest) :
    Unclosed quote (body ++ rest) := by
  induction hbody with
  | nil => exact h
  | plain hc hb _ ih => exact (Unclosed.plain_iff hc hb).mpr ih
  | escape hc _ ih => exact (Unclosed.escape_iff hc).mpr ih

/-- **What never closes is read up to where reading gets stuck.** -/
theorem Unclosed.exists_stuck (h : Unclosed quote t) :
    ∃ body rest, LiteralBody quote body ∧ Stuck rest ∧ t = body ++ rest := by
  unfold Unclosed at h
  fun_induction splitLiteralEnd quote t with
  | case1 => exact ⟨[], [], .nil, .ended, rfl⟩
  | case2 => exact ⟨[], ['\\'], .nil, .lastBackslash, rfl⟩
  | case3 r => exact ⟨[], _, .nil, .brokenPair, rfl⟩
  | case4 c r hc ih =>
    obtain ⟨body, rest, hbody, hstuck, rfl⟩ := ih (Option.map_eq_none_iff.mp h)
    exact ⟨'\\' :: c :: body, rest, .escape hc hbody, hstuck, rfl⟩
  | case5 => cases h
  | case6 c r hb hc ih =>
    obtain ⟨body, rest, hbody, hstuck, rfl⟩ := ih (Option.map_eq_none_iff.mp h)
    exact ⟨c :: body, rest, .plain hc hb hbody, hstuck, rfl⟩

/-! ## No match begins in between -/

/-- Behind an escape pair a new reading is in step with the old one, so that the second half of the
pair begins no literal. -/
theorem LiteralBody.clear (h : LiteralBody q.char body) (hrest : Unclosed q.char rest) :
    (literal q.char).Clear body rest := by
  induction h with
  | nil => exact .nil
  | plain hc _ _ ih => exact .cons (match_literal_cons_ne hc) ih
  | escape _ ht ih =>
    refine .cons (match_literal_cons_ne (q.char_ne (by decide)).symm) (.cons ?_ ih)
    exact match_literal_copied fun _ => ht.unclosed_append hrest

/-- **From the quote on nothing is covered**, up to the character where reading gets stuck and with
it. -/
theorem clear_of_stuck (hbody : LiteralBody q.char body) (hstuck : Stuck rest) :
    (literal q.char).Clear (q.char :: (body ++ rest.take 1)) (rest.drop 1) := by
  have hlast : (literal q.char).Clear (rest.take 1) (rest.drop 1) := by
    have hq : '\\' ≠ q.char := (q.char_ne (by decide)).symm
    cases hstuck with
    | ended => exact .nil
    | lastBackslash => exact .cons (match_literal_cons_ne hq) .nil
    | brokenPair => exact .cons (match_literal_cons_ne hq) .nil
  refine .cons ?_ (.append ?_ hlast)
  · rw [List.append_assoc, List.take_append_drop]
    exact match_literal_copied fun _ => hbody.unclosed_append hstuck.unclosed
  · rw [List.take_append_drop]
    exact hbody.clear hstuck.unclosed

/-! ## By offsets -/

/-- **Reading from the quote at `i` gets stuck at `f`**: the characters between the two can be read,
and at `f` nothing can. -/
structure StuckAt (q : Quote) (t : Text) (i f : Nat) : Prop where
  lt : i < f
  le_length : f ≤ t.length
  read : LiteralBody q.char ((t.take f).drop (i + 1))
  stuck : Stuck (t.drop f)

theorem drop_eq_drop_take_append {m n : Nat} (h : m ≤ n) (t : Text) :
    t.drop m = (t.take n).drop m ++ t.drop n := by
  rw [List.drop_take]
  nth_rewrite 1 [← List.take_append_drop (n - m) (t.drop m)]
  rw [List.drop_drop, Nat.add_sub_cancel' h]

/-- What is behind the quote, cut where reading gets stuck. -/
theorem stuckAt_of_drop_eq (hlt : i < t.length) (ht : t.drop (i + 1) = body ++ rest)
    (hbody : LiteralBody q.char body) (hstuck : Stuck rest) :
    StuckAt q t i (i + 1 + body.length) := by
  have hlength := congrArg List.length ht
  rw [List.length_drop, List.length_append] at hlength
  refine ⟨by omega, by omega, ?_, ?_⟩
  · rw [List.drop_take, ht, Nat.add_sub_cancel_left, List.take_left]
    exact hbody
  · rw [← List.drop_drop, ht, List.drop_left]
    exact hstuck

/-- Where nothing closes behind the quote, no character that reading comes to is a closing quote. -/
theorem Unclosed.getElem?_ne (h : Unclosed q.char (t.drop (i + 1))) {g : Nat} (hg : i < g)
    (hread : LiteralBody q.char ((t.take g).drop (i + 1))) : t[g]? ≠ some q.char := by
  intro hclosed
  obtain ⟨hlt, hchar⟩ := List.getElem?_eq_some_iff.mp hclosed
  rw [drop_eq_drop_take_append hg, List.drop_eq_getElem_cons hlt, hchar] at h
  unfold Unclosed at h
  rw [hread.split (q.char_ne (by decide))] at h
  cases h

/-- **There is one place only where reading from a quote gets stuck.** -/
theorem StuckAt.unique {f g : Nat} (h : StuckAt q t i f) (h' : StuckAt q t i g) : g = f := by
  have heq := (drop_eq_drop_take_append h.lt t).symm.trans (drop_eq_drop_take_append h'.lt t)
  have hlength := congrArg List.length (h.read.eq_of_stuck h'.read h.stuck h'.stuck heq)
  have := h.lt
  have := h'.lt
  have := h.le_length
  have := h'.le_length
  rw [List.length_drop, List.length_drop, List.length_take, List.length_take] at hlength
  omega

/-- **A quote at `i` that is left alone, with all that is up to `f`.** -/
structure LeftAlone (q : Quote) (t : Text) (i f : Nat) : Prop where
  /-- Reading from the quote gets stuck there, and nowhere else. -/
  stuckAt : ∀ g, StuckAt q t i g ↔ g = f
  /-- Reading never reaches a closing quote. -/
  unclosed : ∀ g, i < g → LiteralBody q.char ((t.take g).drop (i + 1)) → t[g]? ≠ some q.char
  /-- No match covers a character up to there, least of all a quote. -/
  notCovered : ∀ j, i ≤ j → j ≤ f → j < t.length →
    ((literal q.char).coverage t)[j]? = some false
  /-- All that is up to there is copied, between what comes out of the text before and behind it. -/
  copied : emptyLiterals q.char t
    = emptyLiterals q.char (t.take i) ++ (t.drop i).take (f + 1 - i)
      ++ emptyLiterals q.char (t.drop (f + 1))
  /-- If the text ends there, everything from the quote on is copied. -/
  copiedToEnd : f = t.length →
    emptyLiterals q.char t = emptyLiterals q.char (t.take i) ++ t.drop i

/-- **A literal that never ends is left as it is.** A quote that no match covers is followed by a
place where reading gets stuck before any closing quote, and the pass copies everything up to that
place. -/
theorem unterminated_literal_kept (q : Quote) (t : Text) (i : Nat) (hquote : t[i]? = some q.char)
    (hcover : ((literal q.char).coverage t)[i]? = some false) : ∃ f, LeftAlone q t i f := by
  obtain ⟨hlt, hget⟩ := List.getElem?_eq_some_iff.mp hquote
  have hdrop : t.drop i = q.char :: t.drop (i + 1) := by
    rw [List.drop_eq_getElem_cons hlt, hget]
  obtain ⟨hmatch, hempty, hcoverage⟩ := cut_of_not_covered hcover
  have hunclosed : Unclosed q.char (t.drop (i + 1)) := by
    rw [hdrop, match_literal_quote] at hmatch
    exact Option.map_eq_none_iff.mp hmatch
  obtain ⟨body, rest, hbody, hstuck, ht⟩ := hunclosed.exists_stuck
  have hstuckAt := stuckAt_of_drop_eq hlt ht hbody hstuck
  have hlength := congrArg List.length ht
  rw [List.length_drop, List.length_append] at hlength
  -- from the quote on: what is left alone, and what is behind it
  have hclear := clear_of_stuck hbody hstuck
  have hsplit : t.drop i = q.char :: (body ++ rest.take 1) ++ rest.drop 1 := by
    rw [hdrop, ht, List.cons_append, List.append_assoc, List.take_append_drop]
  have hcopied : emptyLiterals q.char t
      = emptyLiterals q.char (t.take i) ++ (q.char :: (body ++ rest.take 1))
        ++ emptyLiterals q.char (rest.drop 1) := by
    rw [hempty, hsplit, List.append_assoc]
    exact congrArg _ (Pattern.replace_append_of_clear hclear)
  refine ⟨i + 1 + body.length, ?_, fun g hg hread => hunclosed.getElem?_ne hg hread, ?_, ?_, ?_⟩
  · exact fun g => ⟨fun h => hstuckAt.unique h, fun h => h ▸ hstuckAt⟩
  · intro j hij hjf hj
    refine Pattern.getElem?_coverage_of_clear hcoverage hsplit hclear hij ?_
    rw [List.length_cons, List.length_append, List.length_take]
    omega
  · have hpiece : (t.drop i).take (i + 1 + body.length + 1 - i)
        = q.char :: (body ++ rest.take 1) := by
      rw [hdrop, ht, show i + 1 + body.length + 1 - i = body.length + 1 + 1 by omega,
        List.take_succ_cons, List.take_length_add_append]
    have hbehind : t.drop (i + 1 + body.length + 1) = rest.drop 1 := by
      rw [Nat.add_assoc (i + 1), ← List.drop_drop, ht, List.drop_length_add_append]
    rw [hcopied, hpiece, hbehind]
  · intro hend
    obtain rfl : rest = [] := List.length_eq_zero_iff.mp (by omega)
    rw [hcopied, hsplit, List.drop_nil, emptyLiterals_nil, List.append_nil, List.append_nil]

/-- A literal breaks off at a backslash before the end of its line. The escaped quote in it begins
no literal either, although the quotes on the next line do. -/
theorem unterminated_literal_kept_escaped_quote :
    let t := ['"', '\\', '"', 'b', '\\', '\n', '"', 'c', '"']
    t[0]? = some Quote.double.char ∧ ((literal Quote.double.char).coverage t)[0]? = some false ∧
      StuckAt .double t 0 4 ∧ LeftAlone .double t 0 4 ∧
      emptyLiterals '"' t = ['"', '\\', '"', 'b', '\\', '\n', '"', '"'] := by
  intro t
  have hcover : ((literal Quote.double.char).coverage t)[0]? = some false := by decide +kernel
  have hstuck : StuckAt .double t 0 4 := ⟨by decide, by decide, by decide, .brokenPair⟩
  obtain ⟨f, hf⟩ := unterminated_literal_kept .double t 0 rfl hcover
  obtain rfl : 4 = f := (hf.stuckAt 4).mp hstuck
  exact ⟨rfl, hcover, hstuck, hf, by decide +kernel⟩

end Nesting
