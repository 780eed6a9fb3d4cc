import Mathlib.Data.List.Infix
import Nesting.Scan

/-!
# Well-nested words

What a scan is measured against. The *delimiters* of a text are what is left of it when every other
character is taken away, and a text is well nested when they form a word of the grammar

  `W ::= ε | o W c W`,  `c` the closer that the opener `o` asks for.

A word is *viable* when it can still become such a word by going on, that is, when it is a prefix of
one. Nothing here mentions a stack: `Dyck` and `Viable` are the specification, and the scan is
compared with them in `Nesting.Proofs.Stack` and `Nesting.Proofs.Verdict`.

The grammar is one on words, while a scan reads texts. `exists_of_delimiters_pair` carries one over
to the other: where the delimiters of a text are `o W c W'`, the text itself splits in the same
places.
-/

namespace Nesting

/-! ## The delimiters of a text -/

/-- Whether a character is an opener or a closer. -/
def isDelimiter (c : Char) : Bool :=
  Kind.ofChar c ≠ .notDelimiter

/-- **The delimiters of a text**, in the order in which they stand in it. -/
def delimiters (t : Text) : Text :=
  t.filter isDelimiter

@[simp] theorem delimiters_append (t u : Text) :
    delimiters (t ++ u) = delimiters t ++ delimiters u :=
  List.filter_append ..

theorem delimiters_cons_of_delimiter {c : Char} (h : isDelimiter c = true) (t : Text) :
    delimiters (c :: t) = c :: delimiters t :=
  List.filter_cons_of_pos h

theorem delimiters_cons_of_not {c : Char} (h : isDelimiter c = false) (t : Text) :
    delimiters (c :: t) = delimiters t :=
  List.filter_cons_of_neg (by rw [h]; exact Bool.false_ne_true)

/-- Taking the delimiters of a text's delimiters changes nothing. -/
@[simp] theorem delimiters_delimiters (t : Text) : delimiters (delimiters t) = delimiters t := by
  unfold delimiters
  rw [List.filter_filter]
  simp only [Bool.and_self]

/-! ## Kinds and pairs -/

/-- The three pairs, written out. -/
theorem closing?_eq_some_iff {o c : Char} :
    closing? o = some c ↔ o = '(' ∧ c = ')' ∨ o = '{' ∧ c = '}' ∨ o = '[' ∧ c = ']' := by
  unfold closing?
  split <;> simp_all [eq_comm]

/-- An opener is a character that asks for a closer. -/
theorem kind_eq_opener_iff {o : Char} : Kind.ofChar o = .opener ↔ ∃ c, closing? o = some c := by
  unfold Kind.ofChar
  rw [← Option.isSome_iff_exists]
  split
  · simp_all
  · split <;> simp_all

theorem kind_of_closing {o c : Char} (h : closing? o = some c) :
    Kind.ofChar o = .opener ∧ Kind.ofChar c = .closer := by
  rw [closing?_eq_some_iff] at h
  obtain ⟨rfl, rfl⟩ | ⟨rfl, rfl⟩ | ⟨rfl, rfl⟩ := h <;> decide

theorem isDelimiter_of_opener {c : Char} (h : Kind.ofChar c = .opener) : isDelimiter c = true := by
  unfold isDelimiter
  rw [h]
  decide

theorem isDelimiter_of_closer {c : Char} (h : Kind.ofChar c = .closer) : isDelimiter c = true := by
  unfold isDelimiter
  rw [h]
  decide

theorem isDelimiter_of_notDelimiter {c : Char} (h : Kind.ofChar c = .notDelimiter) :
    isDelimiter c = false := by
  unfold isDelimiter
  rw [h]
  decide

/-! ## The grammar -/

/-- **The well-nested words**: nothing, or an opener, a word, its closer and another word. -/
inductive Dyck : Text → Prop
  /-- The empty word. -/
  | nil : Dyck []
  /-- A word inside a pair, and a word behind it. -/
  | pair {o c : Char} {inner after : Text} : closing? o = some c → Dyck inner → Dyck after →
      Dyck (o :: (inner ++ c :: after))

/-- **A word that can go on to be well nested**: a prefix of a well-nested word. -/
def Viable (w : Text) : Prop :=
  ∃ d, Dyck d ∧ w <+: d

namespace Dyck

/-- One well-nested word behind another is a well-nested word. -/
theorem append {u v : Text} (hu : Dyck u) (hv : Dyck v) : Dyck (u ++ v) := by
  induction hu with
  | nil => exact hv
  | @pair o c inner after hc hi _ _ ih =>
    have h : o :: (inner ++ c :: after) ++ v = o :: (inner ++ c :: (after ++ v)) := by simp
    rw [h]
    exact .pair hc hi ih

/-- A well-nested word between an opener and its closer is a well-nested word. -/
theorem enclose {o c : Char} {d : Text} (hc : closing? o = some c) (hd : Dyck d) :
    Dyck (o :: (d ++ [c])) :=
  .pair hc hd .nil

/-- A well-nested word holds delimiters only. -/
theorem delimiters_eq {d : Text} (h : Dyck d) : delimiters d = d := by
  induction h with
  | nil => rfl
  | @pair o c inner after hc _ _ hi ha =>
    obtain ⟨ho, hc⟩ := kind_of_closing hc
    rw [delimiters_cons_of_delimiter (isDelimiter_of_opener ho), delimiters_append, hi,
      delimiters_cons_of_delimiter (isDelimiter_of_closer hc), ha]

end Dyck

namespace Viable

theorem of_dyck {d : Text} (h : Dyck d) : Viable d :=
  ⟨d, h, List.prefix_rfl⟩

/-- A prefix of a viable word is viable. -/
theorem of_prefix {u w : Text} (h : Viable w) (hu : u <+: w) : Viable u := by
  obtain ⟨d, hd, hw⟩ := h
  exact ⟨d, hd, hu.trans hw⟩

end Viable

/-- **A text is viable when some text behind it makes it well nested.** -/
theorem viable_delimiters_iff {t : Text} :
    Viable (delimiters t) ↔ ∃ u, Dyck (delimiters (t ++ u)) := by
  constructor
  · rintro ⟨d, hd, u, rfl⟩
    -- the continuation is part of a well-nested word, so it holds delimiters only
    have h : delimiters u = u := by
      have h := hd.delimiters_eq
      rw [delimiters_append, delimiters_delimiters] at h
      exact List.append_cancel_left h
    refine ⟨u, ?_⟩
    rw [delimiters_append, h]
    exact hd
  · rintro ⟨u, hu⟩
    refine ⟨_, hu, ?_⟩
    rw [delimiters_append]
    exact List.prefix_append _ _

/-- **A text splits where its delimiters do.** If the delimiters of a text are an opener, a word, a
closer and another word, then the text is a stretch without delimiters, the opener, a text with that
word, the closer, and a text with the other. -/
theorem exists_of_delimiters_pair {o c : Char} {inner after t : Text}
    (h : delimiters t = o :: (inner ++ c :: after)) :
    ∃ plain u v, t = plain ++ o :: (u ++ c :: v) ∧ delimiters plain = [] ∧
      delimiters u = inner ∧ delimiters v = after := by
  obtain ⟨plain, rest, rfl, hplain, -, hrest⟩ := List.filter_eq_cons_iff.mp h
  obtain ⟨u, v', rfl, hu, hv'⟩ := List.filter_eq_append_iff.mp hrest
  obtain ⟨gap, v, rfl, hgap, -, hv⟩ := List.filter_eq_cons_iff.mp hv'
  refine ⟨plain, u ++ gap, v, by simp, List.filter_eq_nil_iff.mpr hplain, ?_, hv⟩
  have hgap : delimiters gap = [] := List.filter_eq_nil_iff.mpr hgap
  rw [delimiters_append, hgap, List.append_nil]
  exact hu

end Nesting
