import Nesting.Sanitizer.Pattern

/-!
# Literals

A literal stands between two quotes of one kind. Inside it a backslash goes together with the
character behind it, which may be a quote but not a line feed; any other character but the quote and
the backslash stands for itself, line feeds included. A quote from which no closing quote can be
reached in this way begins no literal and stays as it is, with all that follows it.
-/

namespace Nesting

/-- Splits a text behind the quote that closes a literal; none if the text ends first, or if a
backslash is not followed by something that it can go together with. -/
def splitLiteralEnd (quote : Char) : Text → Option (Text × Text)
  | [] => none
  | '\\' :: rest =>
    match rest with
    | [] => none
    | c :: rest =>
      if c = '\n' then none
      else (splitLiteralEnd quote rest).map fun (covered, rest) => ('\\' :: c :: covered, rest)
  | c :: rest =>
    if c = quote then some ([c], rest)
    else (splitLiteralEnd quote rest).map fun (covered, rest) => (c :: covered, rest)

theorem eq_append_of_splitLiteralEnd {quote : Char} {t covered rest : Text}
    (h : splitLiteralEnd quote t = some (covered, rest)) : t = covered ++ rest := by
  fun_induction splitLiteralEnd quote t generalizing covered rest with
  | case1 => cases h
  | case2 => cases h
  | case3 => cases h
  | case4 c r _ ih =>
    obtain ⟨⟨u, v⟩, hu, he⟩ := Option.map_eq_some_iff.mp h
    simp only [Prod.mk.injEq] at he
    obtain ⟨rfl, rfl⟩ := he
    rw [ih hu]
    rfl
  | case5 r =>
    simp only [Option.some.injEq, Prod.mk.injEq] at h
    obtain ⟨rfl, rfl⟩ := h
    rfl
  | case6 c r _ _ ih =>
    obtain ⟨⟨u, v⟩, hu, he⟩ := Option.map_eq_some_iff.mp h
    simp only [Prod.mk.injEq] at he
    obtain ⟨rfl, rfl⟩ := he
    rw [ih hu]
    rfl

/-- A literal between quotes of the given kind. -/
def literal (quote : Char) : Pattern where
  match?
    | [] => none
    | c :: rest =>
      if c = quote then
        (splitLiteralEnd quote rest).map fun (covered, rest) => (c :: covered, rest)
      else none
  split := by
    intro t covered rest h
    split at h
    · cases h
    · split at h
      · obtain ⟨⟨u, v⟩, hu, he⟩ := Option.map_eq_some_iff.mp h
        simp only [Prod.mk.injEq] at he
        obtain ⟨rfl, rfl⟩ := he
        rw [eq_append_of_splitLiteralEnd hu]
        simp
      · cases h

/-- Empties literals: each keeps its two quotes and loses what is between them. -/
def emptyLiterals (quote : Char) (t : Text) : Text :=
  (literal quote).replace (fun _ => [quote, quote]) t

end Nesting
