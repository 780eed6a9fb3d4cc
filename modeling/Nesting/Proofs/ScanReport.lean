import Nesting.Proofs.Stack

/-!
# What a report says of the stack

A report keeps of the stack its height and the last few openers. Which stack that is depends on how
the scan ended: at the end of the text it is the stack of the last state, at a closer of the wrong
pair the stack without the opener that the closer met, and at a closer without an opener it is
empty.

`report_scan` reduces every statement about the report of a new scanner to the three ways in which a
scan ends, and `HoldsOpen` is what `Opened` gives for a state. The last theorem of the module puts
the two together.
-/

namespace Nesting

/-! ## The report of a new scanner -/

/-- **The first report of a scanner is that of a scan of its text.** -/
theorem report_scan {name : String} {t : Text} {settings : List Setting} {scanner : Scanner}
    (h : Scanner.ofSettings name t settings = .ok scanner) :
    scanner.scan.1 = Report.ofHalt name scanner.options t (Scan.scan t) := by
  unfold Scanner.ofSettings at h
  split at h
  · cases h
    rfl
  · cases h

/-- The openers listed in a report are the innermost ones, the outermost of them first. -/
theorem top_ofHalt (name : String) (options : Options) (t : Text) (halt : Scan.Halt) :
    (Report.ofHalt name options t halt).top
      = ((halt.state.stack.take options.stackTail).reverse).map Mark.entry := by
  unfold Report.ofHalt
  cases halt.verdict <;> rfl

/-- The last `k` of the elements of a list, or all of them if there are fewer. -/
def lastOf {α : Type} (k : Nat) (l : List α) : List α :=
  l.drop (l.length - min k l.length)

/-- The openers listed in a report are the last ones, counted from the bottom of the stack. -/
theorem reverse_take_eq_lastOf {α : Type} (k : Nat) (l : List α) :
    (l.take k).reverse = lastOf k l.reverse := by
  unfold lastOf
  rw [List.reverse_take, List.length_reverse]
  congr 1
  omega

/-! ## Closers by code point -/

theorem CodePoint.ofChar_injective {c d : Char} (h : CodePoint.ofChar c = CodePoint.ofChar d) :
    c = d := by
  have h := congrArg CodePoint.char? h
  rw [CodePoint.char?_ofChar, CodePoint.char?_ofChar] at h
  exact Option.some.inj h

/-- The code point that an opener asks for is that of its closer. -/
theorem CodePoint.closer_ofChar {o c : Char} (h : closing? o = some c) :
    (CodePoint.ofChar o).closer = CodePoint.ofChar c := by
  unfold CodePoint.closer
  rw [CodePoint.char?_ofChar, Option.bind_some, h]
  rfl

/-! ## The stack of a state, and of a report -/

/-- **The stack of a state is exactly what the text read so far leaves open.** -/
structure HoldsOpen (t : Text) (s : Scan.State) : Prop where
  offset_le : s.offset ≤ t.length
  /-- The marks on the stack are those of the openers left open. -/
  opened : Opened (t.take s.offset) s.stack
  /-- The delimiters read are `d₀ o₁ d₁ … oₙ dₙ`, with well-nested `dᵢ` and the openers of the
  stack from the bottom to the top. -/
  word : ∃ d₀ ds, Dyck d₀ ∧ (∀ d ∈ ds, Dyck d) ∧ ds.length = s.stack.length ∧
    delimiters (t.take s.offset)
      = d₀ ++ (List.zipWith (fun m d => m.char :: d) s.stack.reverse ds).flatten
  /-- From the bottom to the top the offsets rise. -/
  increasing : s.stack.reverse.Pairwise (fun m n => m.offset < n.offset)
  /-- The character at the offset of a mark is its delimiter. -/
  located : ∀ m ∈ s.stack, t[m.offset]? = some m.char

theorem holdsOpen_of_reachable {t : Text} {s : Scan.State} (h : Scan.Reachable t s) :
    HoldsOpen t s := by
  obtain ⟨p, rest, stack, rfl, rfl, hO⟩ := h.opened
  have hp : (p ++ rest).take (Scan.State.behind p stack).offset = p := List.take_left
  refine ⟨by simp [Scan.State.behind], ?_, ?_, ?_, ?_⟩
  · rw [hp]
    exact hO
  · rw [hp]
    exact hO.delimiters_eq_zip
  · rw [List.pairwise_reverse]
    exact hO.pairwise_offset
  · intro m hm
    rw [List.getElem?_append_left (hO.offset_lt_of_mem hm)]
    exact hO.getElem_of_mem hm

/-! The three kinds of report of a scan, by the last state `s` before it stopped. The openers on the
stack of `s` are `o₁ … oₙ`, from the bottom to the top. -/

/-- **At the end of the text the report shows the whole stack.** -/
structure ShowsStack (t : Text) (tail : Nat) (s : Scan.State) (r : Report) : Prop where
  outcome : r.outcome = .balanced
  atEnd : s.offset = t.length
  opener : r.opener = none
  closer : r.closer = none
  depth : r.depth = s.stack.length
  /-- The last of `o₁ … oₙ`. -/
  top : r.top = (lastOf tail s.stack.reverse).map Mark.entry

/-- **At a closer of another pair the report shows the stack below the opener met.** -/
structure ShowsBelow (t : Text) (tail : Nat) (s : Scan.State) (below : List Mark) (o c : Mark)
    (r : Report) : Prop where
  outcome : r.outcome = .mismatched
  /-- The opener met is `oₙ`. -/
  stack : s.stack.reverse = below ++ [o]
  opener : r.opener = some o.entry
  /-- The closer is the character read next. -/
  next : c.offset = s.offset ∧ t[s.offset]? = some c.char
  closer : r.closer = some c.entry
  /-- Between the two the text is well nested. -/
  between : Dyck (delimiters ((t.take c.offset).drop (o.offset + 1)))
  pair : o.entry.delimiter.closer ≠ c.entry.delimiter
  depth : r.depth = (s.stack.length : Int) - 1
  /-- The last of `o₁ … oₙ₋₁`. -/
  top : r.top = (lastOf tail below).map Mark.entry

/-- **At a closer without an opener the report shows no stack.** -/
structure ShowsNothing (t : Text) (s : Scan.State) (c : Mark) (r : Report) : Prop where
  outcome : r.outcome = .unmatched
  stack : s.stack = []
  opener : r.opener = none
  /-- The closer is the character read next. -/
  next : c.offset = s.offset ∧ t[s.offset]? = some c.char
  closer : r.closer = some c.entry
  depth : r.depth = 0
  top : r.top = []

section Report

variable {name : String} {options : Options} {t p rest : Text} {c : Char} {o : Mark}
  {stack : List Mark}

theorem showsStack_ofHalt :
    ShowsStack t options.stackTail (.behind t stack)
      (Report.ofHalt name options t ⟨.balanced, .behind t stack⟩) where
  outcome := rfl
  atEnd := rfl
  opener := rfl
  closer := rfl
  depth := rfl
  top := by
    rw [← reverse_take_eq_lastOf]
    rfl

theorem showsNothing_ofHalt :
    ShowsNothing (p ++ c :: rest) (.behind p []) (Mark.behind p c)
      (Report.ofHalt name options (p ++ c :: rest)
        ⟨.unmatched (Mark.behind p c), .behind (p ++ [c]) []⟩) where
  outcome := rfl
  stack := rfl
  opener := rfl
  next := ⟨rfl, by simp [Scan.State.behind, Mark.behind]⟩
  closer := rfl
  depth := rfl
  top := by simp [Report.ofHalt, Scan.State.behind]

theorem showsBelow_ofHalt (hO : Opened p (o :: stack)) (hc : closing? o.char ≠ some c) :
    ShowsBelow (p ++ c :: rest) options.stackTail (.behind p (o :: stack)) stack.reverse o
      (Mark.behind p c)
      (Report.ofHalt name options (p ++ c :: rest)
        ⟨.mismatched o (Mark.behind p c), .behind (p ++ [c]) stack⟩) where
  outcome := rfl
  stack := List.reverse_cons ..
  opener := rfl
  next := ⟨rfl, by simp [Scan.State.behind, Mark.behind]⟩
  closer := rfl
  between := by
    show Dyck (delimiters (((p ++ c :: rest).take p.length).drop (o.offset + 1)))
    rw [List.take_left]
    exact hO.dyck_behind_head
  pair := by
    intro heq
    obtain ⟨d, hd⟩ := hO.exists_closing
    have heq : CodePoint.ofChar d = CodePoint.ofChar c := by
      rw [← CodePoint.closer_ofChar hd]
      exact heq
    rw [CodePoint.ofChar_injective heq] at hd
    exact hc hd
  depth := by simp [Report.ofHalt, Scan.State.behind]
  top := by
    rw [← reverse_take_eq_lastOf]
    rfl

end Report

/-- **The stack is exact in every state, and so is what the report shows of it.** -/
theorem stack_exact_and_shown {name : String} {t : Text} {settings : List Setting}
    {scanner : Scanner} (h : Scanner.ofSettings name t settings = .ok scanner) :
    (∀ s, Scan.Reachable t s → HoldsOpen t s) ∧
      ∃ s, Scan.Reachable t s ∧
        (ShowsStack t scanner.options.stackTail s scanner.scan.1 ∨
          (∃ below o c, ShowsBelow t scanner.options.stackTail s below o c scanner.scan.1) ∨
          ∃ c, ShowsNothing t s c scanner.scan.1) := by
  refine ⟨fun s hs => holdsOpen_of_reachable hs, ?_⟩
  rw [report_scan h]
  have hends := Scan.ends_scan t
  generalize Scan.scan t = halt at hends
  cases hends with
  | balanced hr => exact ⟨_, hr, .inl showsStack_ofHalt⟩
  | unmatched ht hr _ =>
    subst ht
    exact ⟨_, hr, .inr (.inr ⟨_, showsNothing_ofHalt⟩)⟩
  | mismatched ht hr _ hc =>
    subst ht
    exact ⟨_, hr, .inr (.inl ⟨_, _, _, showsBelow_ofHalt hr.opened_prefix hc⟩)⟩

/-- In `{([()}` the brace closes the bracket, with the brace and the parenthesis below it; with a
tail of one the parenthesis is listed. -/
theorem stack_exact_and_shown_crossed :
    let t := ['{', '(', '[', '(', ')', '}']
    let scanner : Scanner := { name := "a", text := t, options := { stackTail := 1 } }
    Scanner.ofSettings "a" t [.stackTail 1] = .ok scanner ∧
      scanner.scan.1.top = [(Mark.behind ['{'] '(').entry] ∧
      (∀ s, Scan.Reachable t s → HoldsOpen t s) ∧
      ∃ s, Scan.Reachable t s ∧
        (ShowsStack t 1 s scanner.scan.1 ∨
          (∃ below o c, ShowsBelow t 1 s below o c scanner.scan.1) ∨
          ∃ c, ShowsNothing t s c scanner.scan.1) := by
  intro t scanner
  have h : Scanner.ofSettings "a" t [.stackTail 1] = .ok scanner := rfl
  exact ⟨h, by decide, stack_exact_and_shown h⟩

end Nesting
