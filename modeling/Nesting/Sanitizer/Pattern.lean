import Nesting.Text

/-!
# Patterns and substitution

A pattern says whether something begins at the start of a text, and if so, how far it goes. A
substitution looks for the leftmost place where the pattern begins, replaces what the pattern covers
there, and goes on behind it; what it has put in place is not looked at again.

`Pattern.split` is the contract that every pattern keeps: what it covers is not empty and stands at
the start of the text. It is all that the substitution needs in order to end, and all that later
statements need in order to follow it.
-/

namespace Nesting

/-- Something that can begin at the start of a text. -/
structure Pattern where
  /-- What the pattern covers at the start of a text, and what is behind it. -/
  match? : Text → Option (Text × Text)
  /-- The part covered is not empty, and it is the start of the text. -/
  split : ∀ {t covered rest : Text}, match? t = some (covered, rest) →
    covered ≠ [] ∧ t = covered ++ rest

namespace Pattern

/-- What is behind a match is shorter than the text. -/
theorem length_rest_lt (p : Pattern) {t covered rest : Text}
    (h : p.match? t = some (covered, rest)) : rest.length < t.length := by
  obtain ⟨hne, rfl⟩ := p.split h
  have := List.length_pos_iff.mpr hne
  simp only [List.length_append]
  omega

/-- Replaces every match of a pattern, from left to right, by the image of what it covers. -/
def replace (p : Pattern) (f : Text → Text) : Text → Text
  | [] => []
  | c :: cs =>
    match _h : p.match? (c :: cs) with
    | none => c :: p.replace f cs
    | some (covered, rest) => f covered ++ p.replace f rest
termination_by t => t.length
decreasing_by
  · simp
  · exact p.length_rest_lt _h

/-- Whether the pattern matches anywhere in a text. -/
def occursIn (p : Pattern) : Text → Bool
  | [] => false
  | c :: cs => (p.match? (c :: cs)).isSome || p.occursIn cs

/-! ## Equations -/

@[simp] theorem replace_nil (p : Pattern) (f : Text → Text) : p.replace f [] = [] := by
  rw [replace]

theorem replace_cons_of_none {p : Pattern} {f : Text → Text} {c : Char} {cs : Text}
    (h : p.match? (c :: cs) = none) : p.replace f (c :: cs) = c :: p.replace f cs := by
  rw [replace]
  split
  · rfl
  · rename_i h'
    rw [h] at h'
    cases h'

theorem replace_of_some {p : Pattern} {f : Text → Text} {t covered rest : Text}
    (h : p.match? t = some (covered, rest)) : p.replace f t = f covered ++ p.replace f rest := by
  match t, h with
  | [], h =>
    obtain ⟨hne, h'⟩ := p.split h
    exact absurd (List.append_eq_nil_iff.mp h'.symm).1 hne
  | c :: cs, h =>
    rw [replace]
    split
    · rename_i h'
      rw [h] at h'
      cases h'
    · rename_i h'
      rw [h] at h'
      cases h'
      rfl

end Pattern

end Nesting
