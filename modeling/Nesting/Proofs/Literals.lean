import Nesting.Proofs.Substitution
import Nesting.Sanitizer.Literal

/-!
# Reading literals

A literal is read by escape pairs and plain characters up to its closing quote, and `LiteralBody` is
what can be read in this way. Where no closing quote can be reached, the quote that was to begin the
literal stays (`Unclosed`).

Two readings of one text cannot get out of step. A quote is never the backslash of an escape pair,
so right behind it every reading is between two characters of a literal, whether the quote stood for
itself or was escaped; from there on both go through the same escape pairs. Hence a literal of
another kind that begins within a literal that never closes also ends within it, and can be skipped
(`Unclosed.behind_literal`).
-/

namespace Nesting

/-- The kinds of quotes, in the order in which their literals are emptied. -/
inductive Quote where
  | single
  | double
  | backtick
  deriving DecidableEq

/-- What is to hold for every kind of quotes is decided for the three. -/
instance {P : Quote → Prop} [DecidablePred P] : Decidable (∀ q, P q) :=
  decidable_of_iff (P .single ∧ P .double ∧ P .backtick)
    ⟨fun ⟨hs, hd, hb⟩ q => match q with
      | .single => hs
      | .double => hd
      | .backtick => hb,
     fun h => ⟨h _, h _, h _⟩⟩

/-- The character of a quote. -/
def Quote.char : Quote → Char
  | .single => '\''
  | .double => '"'
  | .backtick => '`'

theorem Quote.char_ne (q : Quote) {x : Char} (h : x ≠ '\'' ∧ x ≠ '"' ∧ x ≠ '`') : q.char ≠ x := by
  cases q with
  | single => exact h.1.symm
  | double => exact h.2.1.symm
  | backtick => exact h.2.2.symm

theorem Quote.char_injective : ∀ {q q' : Quote}, q.char = q'.char → q = q' := by
  decide

/-- **What can stand between two quotes**: escape pairs, in which a backslash goes together with
anything but a line feed, and characters other than the quote and the backslash. -/
inductive LiteralBody (quote : Char) : Text → Prop
  | nil : LiteralBody quote []
  | plain {c : Char} {t : Text} : c ≠ quote → c ≠ '\\' → LiteralBody quote t →
      LiteralBody quote (c :: t)
  | escape {c : Char} {t : Text} : c ≠ '\n' → LiteralBody quote t →
      LiteralBody quote ('\\' :: c :: t)

variable {q q' : Quote} {quote c d x : Char} {t u body rest : Text}

/-! ## Reading up to the closing quote -/

theorem splitLiteralEnd_plain (hc : c ≠ quote) (hb : c ≠ '\\') :
    splitLiteralEnd quote (c :: t)
      = (splitLiteralEnd quote t).map fun (covered, rest) => (c :: covered, rest) := by
  rw [splitLiteralEnd, if_neg hc]
  exact hb

theorem splitLiteralEnd_escape (hc : c ≠ '\n') :
    splitLiteralEnd quote ('\\' :: c :: t)
      = (splitLiteralEnd quote t).map fun (covered, rest) => ('\\' :: c :: covered, rest) := by
  rw [splitLiteralEnd, if_neg hc]

theorem splitLiteralEnd_quote (hq : quote ≠ '\\') :
    splitLiteralEnd quote (quote :: t) = some ([quote], t) := by
  rw [splitLiteralEnd, if_pos rfl]
  exact hq

/-- **Behind a body the closing quote is found.** -/
theorem LiteralBody.split (h : LiteralBody quote body) (hq : quote ≠ '\\') :
    splitLiteralEnd quote (body ++ quote :: rest) = some (body ++ [quote], rest) := by
  induction h with
  | nil => exact splitLiteralEnd_quote hq
  | plain hc hb _ ih =>
    rw [List.cons_append, splitLiteralEnd_plain hc hb, ih]
    rfl
  | escape hc _ ih =>
    rw [List.cons_append, List.cons_append, splitLiteralEnd_escape hc, ih]
    rfl

/-- **What is read up to the closing quote is a body.** -/
theorem exists_body_of_split {m : Text × Text} (h : splitLiteralEnd quote t = some m) :
    ∃ body, LiteralBody quote body ∧ t = body ++ quote :: m.2 := by
  fun_induction splitLiteralEnd quote t generalizing m with
  | case1 => cases h
  | case2 => cases h
  | case3 => cases h
  | case4 c r hc ih =>
    obtain ⟨n, hn, rfl⟩ := Option.map_eq_some_iff.mp h
    obtain ⟨body, hbody, rfl⟩ := ih hn
    exact ⟨'\\' :: c :: body, .escape hc hbody, rfl⟩
  | case5 r hb =>
    obtain rfl := Option.some.inj h
    exact ⟨[], .nil, rfl⟩
  | case6 c r hb hc ih =>
    obtain ⟨n, hn, rfl⟩ := Option.map_eq_some_iff.mp h
    obtain ⟨body, hbody, rfl⟩ := ih hn
    exact ⟨c :: body, .plain hc hb hbody, rfl⟩

/-- Whether a text can stand between two quotes is found out by reading it. -/
theorem literalBody_iff_split :
    LiteralBody q.char body
      ↔ splitLiteralEnd q.char (body ++ [q.char]) = some (body ++ [q.char], []) := by
  constructor
  · exact fun h => h.split (q.char_ne (by decide))
  · intro h
    obtain ⟨body', hbody, he⟩ := exists_body_of_split h
    rw [List.append_cancel_right he]
    exact hbody

instance (q : Quote) : DecidablePred (LiteralBody q.char) :=
  fun _ => decidable_of_iff _ literalBody_iff_split.symm

/-- **No closing quote can be reached**: the text ends first, or a backslash that should begin an
escape pair is followed by a line feed or by nothing. -/
def Unclosed (quote : Char) (t : Text) : Prop :=
  splitLiteralEnd quote t = none

namespace Unclosed

theorem plain_iff (hc : c ≠ quote) (hb : c ≠ '\\') :
    Unclosed quote (c :: t) ↔ Unclosed quote t := by
  unfold Unclosed
  rw [splitLiteralEnd_plain hc hb, Option.map_eq_none_iff]

theorem escape_iff (hc : c ≠ '\n') : Unclosed quote ('\\' :: c :: t) ↔ Unclosed quote t := by
  unfold Unclosed
  rw [splitLiteralEnd_escape hc, Option.map_eq_none_iff]

theorem backslash_newline : Unclosed quote ('\\' :: '\n' :: t) := by
  unfold Unclosed
  rw [splitLiteralEnd, if_pos rfl]

theorem not_quote (hq : quote ≠ '\\') : ¬ Unclosed quote (quote :: t) := by
  unfold Unclosed
  rw [splitLiteralEnd_quote hq]
  exact Option.some_ne_none _

/-- **Two readings stay in step.** If no closing quote can be reached from the start of a literal of
another kind, it is because none can be reached from its end. -/
theorem behind_literal (h : Unclosed q.char (u ++ q'.char :: rest)) (hu : LiteralBody q'.char u) :
    q'.char ≠ q.char ∧ Unclosed q.char rest := by
  have hb : ∀ q : Quote, q.char ≠ '\\' := fun q => q.char_ne (by decide)
  induction hu with
  | nil =>
    have hne : q'.char ≠ q.char := by
      intro he
      rw [List.nil_append, he] at h
      exact not_quote (hb q) h
    exact ⟨hne, (plain_iff hne (hb q')).mp h⟩
  | @plain c t _ hc _ ih =>
    have hne : c ≠ q.char := by
      rintro rfl
      exact not_quote (hb q) h
    exact ih ((plain_iff hne hc).mp h)
  | escape hc _ ih => exact ih ((escape_iff hc).mp h)

end Unclosed

/-! ## The pass over a text -/

theorem match_literal_cons_ne (hc : c ≠ quote) : (literal quote).match? (c :: t) = none :=
  if_neg hc

theorem match_literal_quote :
    (literal quote).match? (quote :: t)
      = (splitLiteralEnd quote t).map fun (covered, rest) => (quote :: covered, rest) :=
  if_pos rfl

/-- A whole literal at the start of a text is what is covered there. -/
theorem match_literal (h : LiteralBody quote body) (hq : quote ≠ '\\') (rest : Text) :
    (literal quote).match? (quote :: (body ++ [quote]) ++ rest)
      = some (quote :: (body ++ [quote]), rest) := by
  rw [List.cons_append, List.append_assoc, List.singleton_append, match_literal_quote, h.split hq]
  rfl

/-- **What is covered at the start of a text is a body between two quotes.** -/
theorem exists_body_of_match {m : Text} (h : (literal q.char).match? t = some (m, rest)) :
    ∃ body, LiteralBody q.char body ∧ m = q.char :: (body ++ [q.char]) ∧
      t = q.char :: (body ++ q.char :: rest) := by
  cases t with
  | nil =>
    rw [Pattern.match?_nil] at h
    cases h
  | cons c t =>
    by_cases hc : c = q.char
    · subst hc
      rw [match_literal_quote] at h
      obtain ⟨n, hn, -⟩ := Option.map_eq_some_iff.mp h
      obtain ⟨body, hbody, rfl⟩ := exists_body_of_split hn
      rw [hbody.split (q.char_ne (by decide))] at h
      obtain ⟨rfl, rfl⟩ := Prod.mk.inj (Option.some.inj h)
      exact ⟨body, hbody, rfl, rfl⟩
    · rw [match_literal_cons_ne hc] at h
      cases h

/-- A piece without quotes is clear. -/
theorem clear_literal (h : quote ∉ u) : (literal quote).Clear u rest := by
  intro w c v huv
  refine match_literal_cons_ne ?_
  rintro rfl
  exact h (by rw [huv]; simp)

@[simp] theorem emptyLiterals_nil : emptyLiterals quote [] = [] :=
  Pattern.replace_nil ..

theorem emptyLiterals_cons_ne (hc : c ≠ quote) :
    emptyLiterals quote (c :: t) = c :: emptyLiterals quote t :=
  Pattern.replace_cons_of_none (match_literal_cons_ne hc)

theorem emptyLiterals_unclosed (h : Unclosed quote t) :
    emptyLiterals quote (quote :: t) = quote :: emptyLiterals quote t := by
  refine Pattern.replace_cons_of_none ?_
  rw [match_literal_quote, h]
  rfl

theorem emptyLiterals_literal (h : LiteralBody q.char body) :
    emptyLiterals q.char (q.char :: (body ++ q.char :: rest))
      = q.char :: q.char :: emptyLiterals q.char rest := by
  have hm := match_literal h (q.char_ne (by decide)) rest
  rw [List.cons_append, List.append_assoc, List.singleton_append] at hm
  exact Pattern.replace_of_some hm

/-- **A text begins with a literal, or its first character is copied.** -/
theorem literal_or_copied (q : Quote) (c : Char) (t : Text) :
    (∃ body rest, LiteralBody q.char body ∧ c = q.char ∧ t = body ++ q.char :: rest ∧
        emptyLiterals q.char (c :: t) = q.char :: q.char :: emptyLiterals q.char rest) ∨
      emptyLiterals q.char (c :: t) = c :: emptyLiterals q.char t ∧
        (c = q.char → Unclosed q.char t) := by
  by_cases hc : c = q.char
  · subst hc
    cases hs : splitLiteralEnd q.char t with
    | none => exact .inr ⟨emptyLiterals_unclosed hs, fun _ => hs⟩
    | some m =>
      obtain ⟨body, hbody, rfl⟩ := exists_body_of_split hs
      exact .inl ⟨body, m.2, hbody, rfl, rfl, emptyLiterals_literal hbody⟩
  · exact .inr ⟨emptyLiterals_cons_ne hc, fun h => absurd h hc⟩

theorem emptyLiterals_copied (h : c = q.char → Unclosed q.char t) :
    emptyLiterals q.char (c :: t) = c :: emptyLiterals q.char t := by
  by_cases hc : c = q.char
  · subst hc
    exact emptyLiterals_unclosed (h rfl)
  · exact emptyLiterals_cons_ne hc

/-- **Induction along the pass**: a text is empty, begins with a literal, or begins with a character
that is copied. -/
theorem literal_induction (q : Quote) {motive : Text → Prop} (nil : motive [])
    (literal : ∀ body rest, LiteralBody q.char body → motive rest →
      motive (q.char :: (body ++ q.char :: rest)))
    (copied : ∀ c t, (c = q.char → Unclosed q.char t) → motive t → motive (c :: t))
    (t : Text) : motive t := by
  induction hn : t.length using Nat.strong_induction_on generalizing t with
  | _ n ih =>
    cases t with
    | nil => exact nil
    | cons c t =>
      obtain ⟨body, rest, hbody, rfl, rfl, -⟩ | ⟨-, hu⟩ := literal_or_copied q c t
      · rw [List.length_cons, List.length_append, List.length_cons] at hn
        exact literal body rest hbody (ih rest.length (by omega) rest rfl)
      · rw [List.length_cons] at hn
        exact copied c t hu (ih t.length (by omega) t rfl)

/-- Emptying literals copies every character but the quote. -/
theorem copies_emptyLiterals (hx : x ≠ q.char) :
    (literal q.char).Copies (fun _ => [q.char, q.char]) x where
  fresh := by
    intro covered hmem
    simp only [List.mem_cons, List.not_mem_nil, or_false, or_self] at hmem
    exact hx hmem
  head := by
    intro t b h
    change emptyLiterals q.char t = x :: b at h
    cases t with
    | nil =>
      rw [emptyLiterals_nil] at h
      cases h
    | cons c t =>
      by_cases hc : c = q.char
      · -- whether the quote begins a literal or not, it begins the result
        obtain ⟨body, rest, -, -, -, he⟩ | ⟨he, -⟩ := literal_or_copied q c t
        · rw [he] at h
          exact absurd (List.cons.inj h).1.symm hx
        · rw [he, hc] at h
          exact absurd (List.cons.inj h).1.symm hx
      · rw [emptyLiterals_cons_ne hc] at h
        obtain ⟨rfl, hb⟩ := List.cons.inj h
        exact ⟨t, rfl, match_literal_cons_ne hc, hb⟩

end Nesting
