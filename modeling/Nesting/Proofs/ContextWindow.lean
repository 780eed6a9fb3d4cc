import Nesting.Proofs.Places

/-!
# The context of a closer

A report that blames a closer shows the text around it: `radius` characters before it and `radius`
from it on, as far as the text goes. `around` says which characters these are, over all whole
numbers, and for a closer behind `p` it is the last `radius` characters of `p` and the first
`radius` of what follows (`around_append`).

The program finds the end of the window by a sum of two 64-bit words. As long as the sum is such a
word the window is the right one. A radius may be as large as a word allows, though, and then the
sum of it and of any offset but zero wraps around to a negative number. The end of the window is
then clamped to the wrong side of the text, and nothing is shown. So a window is right exactly if
its end, before it is clamped, is a word (`context_right_iff`).
-/

namespace Nesting

variable {t p u : Text} {c : Char} {radius offset : Nat}

/-! ## The characters around an offset -/

/-- **The characters around an offset**, from `offset - radius` up to `offset + radius`, as far as
the text goes in either direction. -/
def around (t : Text) (radius offset : Nat) : Text :=
  let start : Int := max 0 ((offset : Int) - radius)
  let stop : Int := min (t.length : Int) ((offset : Int) + radius)
  (t.take stop.toNat).drop start.toNat

/-- Around a character are the last characters before it and the first ones from it on. -/
theorem around_append (p u : Text) (c : Char) (radius : Nat) :
    around (p ++ c :: u) radius p.length = p.drop (p.length - radius) ++ (c :: u).take radius := by
  have hstart : (max 0 ((p.length : Int) - radius)).toNat = p.length - radius := by omega
  have hstop : (min ((p ++ c :: u).length : Int) ((p.length : Int) + radius)).toNat
      = min (p ++ c :: u).length (p.length + radius) := by omega
  unfold around
  dsimp only
  rw [hstart, hstop, Nat.min_comm, ← List.take_eq_take_min, List.take_length_add_append,
    List.drop_append_of_le_length (Nat.sub_le _ _)]

/-- The character itself is around its offset, unless the radius is zero. -/
theorem around_of_pos (p u : Text) (c : Char) (hr : 0 < radius) :
    around (p ++ c :: u) radius p.length
      = p.drop (p.length - radius) ++ c :: u.take (radius - 1) := by
  obtain ⟨n, rfl⟩ := Nat.exists_eq_add_one.mpr hr
  rw [around_append]
  rfl

/-- A radius of the length of the text takes in all of it. -/
theorem around_of_length_le (h : (p ++ c :: u).length ≤ radius) :
    around (p ++ c :: u) radius p.length = p ++ c :: u := by
  rw [List.length_append] at h
  rw [around_append, Nat.sub_eq_zero_of_le (by omega), List.drop_zero,
    List.take_of_length_le (by omega)]

/-! ## Sums of words -/

/-- **The sum of two words that is none wraps around to a negative one**, if neither is negative. -/
theorem Word.wrap_add_neg {m n : Int} (hm : m ≤ greatest) (hn : n ≤ greatest)
    (h : greatest < m + n) : wrap (m + n) < 0 := by
  unfold wrap count greatest at *
  rw [Int.bmod_def]
  split <;> omega

/-! ## The window of a report -/

theorem window_of_word (h : (offset : Int) + radius ≤ Word.greatest) :
    window t radius offset = around t radius offset := by
  unfold window around
  rw [Word.wrap_of_mem (by unfold Word.least; omega) h]

theorem window_of_wrapping (hr : (radius : Int) ≤ Word.greatest)
    (ho : (offset : Int) ≤ Word.greatest) (h : Word.greatest < (offset : Int) + radius) :
    window t radius offset = [] := by
  have hneg := Word.wrap_add_neg ho hr h
  have hstop : (min (t.length : Int) (Word.wrap (offset + radius))).toNat = 0 := by omega
  unfold window
  dsimp only
  rw [hstop, List.take_zero, List.drop_nil]

theorem onOneLine_append (s t : Text) : onOneLine (s ++ t) = onOneLine s ++ onOneLine t :=
  List.flatMap_append

theorem onOneLine_cons_of_ne (h : c ≠ '\n') (t : Text) : onOneLine (c :: t) = c :: onOneLine t := by
  unfold onOneLine
  rw [List.flatMap_cons, if_neg h]
  rfl

/-- **The context of a report is the window at its closer.** -/
theorem exists_closer_of_scan {name : String} {settings : List Setting} {scanner : Scanner}
    {e : Entry} (h : Scanner.ofSettings name t settings = .ok scanner)
    (he : scanner.scan.1.closer = some e) :
    ∃ p c u, t = p ++ c :: u ∧ isDelimiter c = true ∧ e = (Mark.behind p c).entry ∧
      scanner.scan.1.context
        = String.ofList (onOneLine (window t scanner.options.contextRadius p.length)) := by
  rw [report_scan h] at he ⊢
  have hends := Scan.ends_scan t
  generalize Scan.scan t = halt at hends he
  cases hends with
  | balanced => cases he
  | @unmatched p u c ht _ hk =>
    cases he
    exact ⟨p, c, u, ht, isDelimiter_of_closer hk, rfl, rfl⟩
  | @mismatched p u c _ _ ht _ hk =>
    cases he
    exact ⟨p, c, u, ht, isDelimiter_of_closer hk, rfl, rfl⟩

/-- **What a report shows around the closer at an offset**, by whether the end of the window is a
word. -/
structure ShowsContext (t : Text) (radius offset : Nat) (e : Entry) (r : Report) : Prop where
  /-- The context is made of the characters around the closer exactly if the end of the window is a
  word. -/
  right_iff : r.context = String.ofList (onOneLine (around t radius offset))
    ↔ (offset : Int) + radius ≤ Word.greatest
  /-- Otherwise nothing is shown. -/
  wrapped : Word.greatest < (offset : Int) + radius → r.context = ""
  /-- With a radius of at least one the closer is in the context, behind as many characters as the
  radius allows. -/
  closer : (offset : Int) + radius ≤ Word.greatest → 1 ≤ radius →
    ∃ before c behind, around t radius offset = before ++ c :: behind ∧
      before.length = min offset radius ∧ CodePoint.ofChar c = e.delimiter ∧
      r.context = String.ofList (onOneLine before ++ c :: onOneLine behind)
  /-- A radius of at least the length of the text shows all of it. -/
  whole : (offset : Int) + radius ≤ Word.greatest → t.length ≤ radius →
    r.context = String.ofList (onOneLine t)

/-- **The context of a closer is right exactly if the end of its window is a word**, for every text
that can be held and every radius that is a word. -/
theorem context_right_iff {name : String} {settings : List Setting} {scanner : Scanner} {e : Entry}
    (h : Scanner.ofSettings name t settings = .ok scanner)
    (hradius : (scanner.options.contextRadius : Int) ≤ Word.greatest)
    (hlength : (t.length : Int) ≤ Word.greatest) (he : scanner.scan.1.closer = some e) :
    ∃ offset : Nat, e.offset = offset ∧
      ShowsContext t scanner.options.contextRadius offset e scanner.scan.1 := by
  obtain ⟨p, c, u, rfl, hc, rfl, hcontext⟩ := exists_closer_of_scan h he
  generalize scanner.options.contextRadius = radius at hradius hcontext ⊢
  have hoffset : (p.length : Int) < Word.greatest := by
    rw [List.length_append, List.length_cons] at hlength
    omega
  have hright : (p.length : Int) + radius ≤ Word.greatest →
      scanner.scan.1.context
        = String.ofList (onOneLine (around (p ++ c :: u) radius p.length)) := by
    intro hword
    rw [hcontext, window_of_word hword]
  have hempty : Word.greatest < (p.length : Int) + radius → scanner.scan.1.context = "" := by
    intro hwraps
    rw [hcontext, window_of_wrapping hradius (Int.le_of_lt hoffset) hwraps]
    rfl
  have hclose : ∀ s, onOneLine (c :: s) = c :: onOneLine s :=
    onOneLine_cons_of_ne (ne_newline_of_isDelimiter hc)
  refine ⟨p.length, rfl, ⟨?_, hright⟩, hempty, ?_, ?_⟩
  · -- the characters around the closer are not none, since the radius is not zero here
    intro heq
    by_contra hwraps
    have hwraps := Int.not_le.mp hwraps
    rw [hempty hwraps, around_of_pos p u c (by omega), onOneLine_append, hclose] at heq
    exact absurd (congrArg String.toList heq) (by simp)
  · intro hword hpos
    refine ⟨p.drop (p.length - radius), c, u.take (radius - 1), around_of_pos p u c hpos, ?_,
      rfl, ?_⟩
    · rw [List.length_drop]
      omega
    · rw [hright hword, around_of_pos p u c hpos, onOneLine_append, hclose]
  · intro hword hle
    rw [hright hword, around_of_length_le hle]

/-- A closer at offset 1 and the greatest radius for which the end of the window is a word: all of
the text is shown. -/
theorem context_right_iff_greatest :
    let t := ['\n', ')', '\n']
    let scanner : Scanner :=
      { name := "a", text := t, options := { contextRadius := 0x7ffffffffffffffe } }
    Scanner.ofSettings "a" t [.contextRadius 0x7ffffffffffffffe] = .ok scanner ∧
      scanner.scan.1.closer = some (Mark.behind ['\n'] ')').entry ∧
      scanner.scan.1.context = "\\n)\\n" ∧
      ∃ offset : Nat, (Mark.behind ['\n'] ')').entry.offset = offset ∧
        ShowsContext t 0x7ffffffffffffffe offset (Mark.behind ['\n'] ')').entry scanner.scan.1 := by
  intro t scanner
  have h : Scanner.ofSettings "a" t [.contextRadius 0x7ffffffffffffffe] = .ok scanner := rfl
  have hcloser : scanner.scan.1.closer = some (Mark.behind ['\n'] ')').entry := by decide
  exact ⟨h, hcloser, by decide, context_right_iff h (by decide) (by decide) hcloser⟩

/-- **The greatest radius shows nothing**, although the text around the closer is all of it: the end
of the window is no word. -/
theorem context_lost :
    let t := ['a', ')']
    let scanner : Scanner :=
      { name := "a", text := t, options := { contextRadius := 0x7fffffffffffffff } }
    Scanner.ofSettings "a" t [.contextRadius Word.greatest] = .ok scanner ∧
      scanner.scan.1.closer.map (·.offset) = some 1 ∧
      around t 0x7fffffffffffffff 1 = t ∧
      scanner.scan.1.context = "" ∧
      scanner.scan.1.context ≠ String.ofList (onOneLine (around t 0x7fffffffffffffff 1)) := by
  intro t scanner
  exact ⟨rfl, by decide, by decide, by decide, by decide⟩

end Nesting
