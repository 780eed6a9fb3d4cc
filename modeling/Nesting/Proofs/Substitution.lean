import Mathlib.Data.List.Infix
import Nesting.Sanitizer.Pattern

/-!
# What a substitution does to the pieces of a text

`Pattern.replace` runs over a text and meets matches where they happen to begin. Two facts about it
carry all that is said of the sanitizer.

Going forward, a text that is cut into pieces is replaced piece by piece, as long as each piece is
either covered by one match or *clear*: no match begins in it, also none that would reach into what
follows (`replace_flatMap`).

Going back, a character that the substitution does not put in place itself has been copied, and what
stands behind it in the result is the result for what stands behind it in the text
(`Copies.exists_of_append`). So a marker in the result was there before.
-/

namespace Nesting.Pattern

variable {p : Pattern} {f : Text → Text} {t u rest : Text} {c x : Char}

theorem match?_nil (p : Pattern) : p.match? [] = none := by
  cases h : p.match? [] with
  | none => rfl
  | some m =>
    obtain ⟨covered, rest⟩ := m
    obtain ⟨hne, h'⟩ := p.split h
    exact absurd (List.append_eq_nil_iff.mp h'.symm).1 hne

theorem occursIn_cons : p.occursIn (c :: t) = ((p.match? (c :: t)).isSome || p.occursIn t) := rfl

/-- **A pattern occurs in a text where it begins at some place of it.** -/
theorem occursIn_iff : p.occursIn t = true ↔ ∃ u v, t = u ++ v ∧ (p.match? v).isSome = true := by
  induction t with
  | nil =>
    refine iff_of_false Bool.false_ne_true ?_
    rintro ⟨u, v, huv, hv⟩
    rw [(List.append_eq_nil_iff.mp huv.symm).2, match?_nil] at hv
    cases hv
  | cons c t ih =>
    rw [occursIn_cons, Bool.or_eq_true, ih]
    constructor
    · rintro (h | ⟨u, v, rfl, hv⟩)
      · exact ⟨[], c :: t, rfl, h⟩
      · exact ⟨c :: u, v, rfl, hv⟩
    · rintro ⟨u, v, huv, hv⟩
      cases u with
      | nil =>
        rw [List.nil_append] at huv
        rw [huv]
        exact .inl hv
      | cons d u => exact .inr ⟨u, v, (List.cons.inj huv).2, hv⟩

/-- A text in which the pattern does not occur is left as it is. -/
theorem replace_eq_self (h : p.occursIn t = false) : p.replace f t = t := by
  induction t with
  | nil => exact replace_nil ..
  | cons c t ih =>
    rw [occursIn_cons, Bool.or_eq_false_iff] at h
    rw [replace_cons_of_none (Option.isNone_iff_eq_none.mp (by simpa using h.1)), ih h.2]

/-! ## Piece by piece -/

/-- **A piece of a text is clear of a pattern** if no match begins in it when `rest` follows it. -/
def Clear (p : Pattern) (u rest : Text) : Prop :=
  ∀ w c v, u = w ++ c :: v → p.match? (c :: (v ++ rest)) = none

theorem Clear.nil : p.Clear [] rest := by
  intro w c v h
  exact absurd (congrArg List.length h) (by simp)

theorem Clear.cons (hc : p.match? (c :: (u ++ rest)) = none) (h : p.Clear u rest) :
    p.Clear (c :: u) rest := by
  intro w d v huv
  cases w with
  | nil =>
    obtain ⟨rfl, rfl⟩ := List.cons.inj huv
    exact hc
  | cons e w => exact h w d v (List.cons.inj huv).2

theorem Clear.tail (h : p.Clear (c :: u) rest) : p.Clear u rest := by
  intro w d v huv
  exact h (c :: w) d v (by rw [huv]; rfl)

theorem Clear.append {v : Text} (hu : p.Clear u (v ++ rest)) (hv : p.Clear v rest) :
    p.Clear (u ++ v) rest := by
  induction u with
  | nil => exact hv
  | cons c u ih =>
    rw [List.cons_append]
    refine .cons ?_ (ih hu.tail)
    rw [List.append_assoc]
    exact hu [] c u rfl

/-- A piece is clear of a pattern that begins with two given characters, if the two do not stand
together in it and not across its end. -/
theorem Clear.of_marker {y : Char} (hp : ∀ {t}, p.match? t ≠ none → ∃ r, t = x :: y :: r)
    (hu : ¬ [x, y] <:+: u) (hend : u.getLast? = some x → rest.head? ≠ some y) :
    p.Clear u rest := by
  intro w c v huv
  by_contra hm
  obtain ⟨r, hr⟩ := hp hm
  obtain ⟨rfl, hnext⟩ := List.cons.inj hr
  cases v with
  | nil =>
    rw [List.nil_append] at hnext
    refine hend ?_ (by rw [hnext]; rfl)
    rw [huv]
    exact List.getLast?_concat
  | cons d v =>
    obtain ⟨rfl, -⟩ := List.cons.inj hnext
    exact hu ⟨w, v, by rw [huv]; simp⟩

theorem replace_append_of_clear (h : p.Clear u rest) :
    p.replace f (u ++ rest) = u ++ p.replace f rest := by
  induction u with
  | nil => rfl
  | cons c u ih =>
    rw [List.cons_append, replace_cons_of_none (h [] c u rfl), ih h.tail]
    rfl

theorem occursIn_append_of_clear (h : p.Clear u rest) :
    p.occursIn (u ++ rest) = p.occursIn rest := by
  induction u with
  | nil => rfl
  | cons c u ih =>
    rw [List.cons_append, occursIn_cons, h [] c u rfl, ih h.tail]
    rfl

section Pieces

variable {α : Type} {P : List α → Prop} {g h : α → Text}

/-- **A text cut into pieces is replaced piece by piece**, if each piece is clear and stays as it
is, or is covered by one match. `P` is what is known of the pieces from some place on. -/
theorem replace_flatMap (tail : ∀ a l, P (a :: l) → P l)
    (piece : ∀ a l, P (a :: l) →
      p.Clear (g a) (l.flatMap g) ∧ h a = g a ∨
        p.match? (g a ++ l.flatMap g) = some (g a, l.flatMap g) ∧ h a = f (g a))
    {l : List α} (hl : P l) : p.replace f (l.flatMap g) = l.flatMap h := by
  induction l with
  | nil => exact replace_nil ..
  | cons a l ih =>
    rw [List.flatMap_cons, List.flatMap_cons, ← ih (tail a l hl)]
    obtain ⟨hclear, ha⟩ | ⟨hmatch, ha⟩ := piece a l hl
    · rw [replace_append_of_clear hclear, ha]
    · rw [replace_of_some hmatch, ha]

/-- In clear pieces a pattern does not occur. -/
theorem occursIn_flatMap (tail : ∀ a l, P (a :: l) → P l)
    (piece : ∀ a l, P (a :: l) → p.Clear (g a) (l.flatMap g)) {l : List α} (hl : P l) :
    p.occursIn (l.flatMap g) = false := by
  induction l with
  | nil => rfl
  | cons a l ih =>
    rw [List.flatMap_cons, occursIn_append_of_clear (piece a l hl)]
    exact ih (tail a l hl)

end Pieces

/-! ## Back from the result -/

/-- **A substitution only copies a character**: it does not put it in place, and where the result
begins with it, the text did. -/
structure Copies (p : Pattern) (f : Text → Text) (x : Char) : Prop where
  /-- What matches are replaced by does not have the character. -/
  fresh : ∀ covered, x ∉ f covered
  head : ∀ {t b}, p.replace f t = x :: b →
    ∃ b', t = x :: b' ∧ p.match? t = none ∧ p.replace f b' = b

/-- **A copied character in the result stands in the text**, with a text behind it that is replaced
by what stands behind it in the result. -/
theorem Copies.exists_of_append (hx : p.Copies f x) {a b : Text}
    (h : p.replace f t = a ++ x :: b) :
    ∃ a' b', t = a' ++ x :: b' ∧ p.match? (x :: b') = none ∧ p.replace f b' = b := by
  fun_induction replace p f t generalizing a with
  | case1 => exact absurd (congrArg List.length h) (by simp)
  | case2 c cs hm ih =>
    cases a with
    | nil =>
      obtain ⟨rfl, hb⟩ := List.cons.inj h
      exact ⟨[], cs, rfl, hm, hb⟩
    | cons d a =>
      obtain ⟨b', b'', rfl, hb⟩ := ih (List.cons.inj h).2
      exact ⟨c :: b', b'', rfl, hb⟩
  | case3 c cs covered rest hm ih =>
    obtain ⟨-, hsplit⟩ := p.split hm
    rw [hsplit]
    -- the character is behind the replacement, since it is not part of it
    obtain ⟨a', -, ha⟩ | ⟨a', hcov, ha⟩ := List.append_eq_append_iff.mp h
    · obtain ⟨b', b'', rfl, hb⟩ := ih ha
      exact ⟨covered ++ b', b'', by rw [List.append_assoc], hb⟩
    · cases a' with
      | nil =>
        obtain ⟨b', b'', rfl, hb⟩ := ih (a := []) ha.symm
        exact ⟨covered ++ b', b'', by rw [List.append_assoc], hb⟩
      | cons d a' =>
        rw [(List.cons.inj ha).1] at hx
        exact absurd (by rw [hcov]; simp) (hx.fresh covered)

/-- Two copied characters that stand together in the result stand together in the text. -/
theorem Copies.exists_of_pair {y : Char} (hx : p.Copies f x) (hy : p.Copies f y) {a b : Text}
    (h : p.replace f t = a ++ x :: y :: b) :
    ∃ a' b', t = a' ++ x :: y :: b' ∧ p.match? (x :: y :: b') = none ∧ p.replace f b' = b := by
  obtain ⟨a', b', rfl, hm, hb⟩ := hx.exists_of_append h
  obtain ⟨b'', rfl, -, hb⟩ := hy.head hb
  exact ⟨a', b'', rfl, hm, hb⟩

end Nesting.Pattern
