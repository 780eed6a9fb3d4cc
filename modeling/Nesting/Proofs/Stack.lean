import Nesting.Proofs.WellNested
import Nesting.Scanner

/-!
# What the stack holds

A scan that has read a text holds on its stack the openers of that text that nothing has closed.
`Opened t stack` says so without a scan: `t` is

  `p₀ o₁ p₁ o₂ … oₙ pₙ`

with openers `oᵢ` and texts `pᵢ` that are well nested, and `stack` lists the marks of `oₙ … o₁`. A
character that delimits nothing makes the last `pᵢ` longer, an opener starts a new one, and a closer
of the right pair melts the last two together with `oₙ` between them. So every state that a scan
reaches has such a stack (`Reachable.opened`), and so has the state in which it stops (`ends_scan`).

Places come along at no cost. The state and the marks of a scan are functions of the text before
them (`State.behind`, `Mark.behind`), so that lines, columns and offsets never have to be carried
through an induction of their own.
-/

namespace Nesting

/-! ## Places -/

/-- The number of the line that the end of a text is in. -/
def lineAfter (t : Text) : Nat :=
  1 + t.count '\n'

/-- How many characters of a text stand behind its last line feed. -/
def columnAfter (t : Text) : Nat :=
  (t.reverse.takeWhile (· ≠ '\n')).length

/-- The mark of a character with the text `before` in front of it. -/
def Mark.behind (before : Text) (c : Char) : Mark where
  char := c
  line := lineAfter before
  column := columnAfter before + 1
  offset := before.length

theorem lineAfter_append (t : Text) (c : Char) :
    lineAfter (t ++ [c]) = if c = '\n' then lineAfter t + 1 else lineAfter t := by
  unfold lineAfter
  rw [List.count_append, List.count_singleton]
  by_cases hc : c = '\n' <;> simp [hc, Nat.add_assoc]

theorem columnAfter_append (t : Text) (c : Char) :
    columnAfter (t ++ [c]) = if c = '\n' then 0 else columnAfter t + 1 := by
  unfold columnAfter
  rw [List.reverse_append, List.reverse_singleton, List.singleton_append, List.takeWhile_cons]
  by_cases hc : c = '\n' <;> simp [hc]

namespace Scan

/-- **The state of a scan that has read `before`** and holds the given stack. -/
def State.behind (before : Text) (stack : List Mark) : State where
  line := lineAfter before
  column := columnAfter before
  offset := before.length
  stack := stack

theorem advance_behind (before : Text) (stack : List Mark) (c : Char) :
    (State.behind before stack).advance c = State.behind (before ++ [c]) stack := by
  unfold State.advance State.behind
  rw [lineAfter_append, columnAfter_append, List.length_append]
  by_cases hc : c = '\n' <;> simp [hc]

/-! ## One step -/

section Step

variable {p : Text} {stack : List Mark} {o : Mark} {c : Char}

theorem step_pass (h : Kind.ofChar c = .notDelimiter) :
    step (.behind p stack) c = .ok (.behind (p ++ [c]) stack) := by
  unfold step
  rw [advance_behind, h]

theorem step_push (h : Kind.ofChar c = .opener) :
    step (.behind p stack) c = .ok (.behind (p ++ [c]) (Mark.behind p c :: stack)) := by
  unfold step
  rw [advance_behind, h]
  rfl

theorem step_pop (h : closing? o.char = some c) :
    step (.behind p (o :: stack)) c = .ok (.behind (p ++ [c]) stack) := by
  unfold step
  rw [advance_behind, (kind_of_closing h).2]
  exact if_pos h

theorem step_unmatched (h : Kind.ofChar c = .closer) :
    step (.behind p []) c = .error ⟨.unmatched (Mark.behind p c), .behind (p ++ [c]) []⟩ := by
  unfold step
  rw [advance_behind, h]
  rfl

theorem step_mismatched (h : Kind.ofChar c = .closer) (hc : closing? o.char ≠ some c) :
    step (.behind p (o :: stack)) c
      = .error ⟨.mismatched o (Mark.behind p c), .behind (p ++ [c]) stack⟩ := by
  unfold step
  rw [advance_behind, h]
  exact if_neg hc

end Step

/-- **What reading one character can do**, in a scan that has read `p`. -/
inductive Moves (p : Text) : List Mark → Char → Except Halt State → Prop
  /-- A character that delimits nothing only moves the place. -/
  | pass {stack : List Mark} {c : Char} : Kind.ofChar c = .notDelimiter →
      Moves p stack c (.ok (.behind (p ++ [c]) stack))
  /-- An opener is pushed. -/
  | push {stack : List Mark} {c : Char} : Kind.ofChar c = .opener →
      Moves p stack c (.ok (.behind (p ++ [c]) (Mark.behind p c :: stack)))
  /-- The closer that the innermost opener asks for takes it off the stack. -/
  | pop {o : Mark} {stack : List Mark} {c : Char} : closing? o.char = some c →
      Moves p (o :: stack) c (.ok (.behind (p ++ [c]) stack))
  /-- A closer with nothing open stops the scan. -/
  | unmatched {c : Char} : Kind.ofChar c = .closer →
      Moves p [] c (.error ⟨.unmatched (Mark.behind p c), .behind (p ++ [c]) []⟩)
  /-- Any other closer stops the scan, and takes the innermost opener off the stack. -/
  | mismatched {o : Mark} {stack : List Mark} {c : Char} : Kind.ofChar c = .closer →
      closing? o.char ≠ some c →
      Moves p (o :: stack) c (.error ⟨.mismatched o (Mark.behind p c), .behind (p ++ [c]) stack⟩)

theorem moves_step (p : Text) (stack : List Mark) (c : Char) :
    Moves p stack c (step (.behind p stack) c) := by
  cases hk : Kind.ofChar c with
  | notDelimiter =>
    rw [step_pass hk]
    exact .pass hk
  | opener =>
    rw [step_push hk]
    exact .push hk
  | closer =>
    cases stack with
    | nil =>
      rw [step_unmatched hk]
      exact .unmatched hk
    | cons o stack =>
      by_cases hc : closing? o.char = some c
      · rw [step_pop hc]
        exact .pop hc
      · rw [step_mismatched hk hc]
        exact .mismatched hk hc

/-- The states that a scan of a text comes through before it stops. -/
inductive Reachable (t : Text) : State → Prop
  | start : Reachable t {}
  | step {s next : State} {c : Char} : Reachable t s → t[s.offset]? = some c →
      Scan.step s c = .ok next → Reachable t next

end Scan

/-! ## The openers left open -/

/-- **The openers of a text that are left open.** The text is a well-nested text, or one with its
own open openers followed by an opener and a well-nested text. The marks are those of the openers,
the innermost first. -/
inductive Opened : Text → List Mark → Prop
  /-- A well-nested text leaves nothing open. -/
  | flat {t : Text} : Dyck (delimiters t) → Opened t []
  /-- An opener and a well-nested text behind a text. -/
  | deeper {t u : Text} {c : Char} {stack : List Mark} : Opened t stack →
      Kind.ofChar c = .opener → Dyck (delimiters u) →
      Opened (t ++ c :: u) (Mark.behind t c :: stack)

namespace Opened

variable {t u : Text} {c : Char} {o m : Mark} {stack : List Mark}

/-- A well-nested text closes nothing and leaves nothing open. -/
theorem append (h : Opened t stack) (hu : Dyck (delimiters u)) : Opened (t ++ u) stack := by
  cases h with
  | flat ht =>
    refine .flat ?_
    rw [delimiters_append]
    exact ht.append hu
  | @deeper t v c stack h hc hv =>
    rw [List.append_assoc, List.cons_append]
    refine .deeper h hc ?_
    rw [delimiters_append]
    exact hv.append hu

theorem push (h : Opened t stack) (hc : Kind.ofChar c = .opener) :
    Opened (t ++ [c]) (Mark.behind t c :: stack) :=
  .deeper h hc .nil

/-- What is innermost on the stack asks for a closer. -/
theorem exists_closing (h : Opened t (o :: stack)) : ∃ c, closing? o.char = some c := by
  cases h with
  | deeper _ ho _ => exact kind_eq_opener_iff.mp ho

/-- **The closer of the innermost opener closes it**: with the two, the text behind the opener is
well nested and joins what is before it. -/
theorem pop (h : Opened t (o :: stack)) (hc : closing? o.char = some c) :
    Opened (t ++ [c]) stack := by
  cases h with
  | @deeper t u o _ h ho hu =>
    rw [List.append_assoc, List.cons_append]
    refine h.append ?_
    obtain ⟨-, hk⟩ := kind_of_closing hc
    rw [delimiters_cons_of_delimiter (isDelimiter_of_opener ho), delimiters_append,
      delimiters_cons_of_delimiter (isDelimiter_of_closer hk)]
    exact hu.enclose hc

/-- Every mark stands in the text, at its offset. -/
theorem getElem_of_mem (h : Opened t stack) (hm : m ∈ stack) : t[m.offset]? = some m.char := by
  induction h with
  | flat => cases hm
  | @deeper t u c stack _ _ _ ih =>
    obtain rfl | hm := List.mem_cons.mp hm
    · show (t ++ c :: u)[t.length]? = some c
      simp
    · have hlt : m.offset < t.length := (List.getElem?_eq_some_iff.mp (ih hm)).1
      rw [List.getElem?_append_left hlt]
      exact ih hm

theorem offset_lt_of_mem (h : Opened t stack) (hm : m ∈ stack) : m.offset < t.length :=
  (List.getElem?_eq_some_iff.mp (h.getElem_of_mem hm)).1

/-- From the innermost opener outwards the offsets fall. -/
theorem pairwise_offset (h : Opened t stack) :
    stack.Pairwise (fun m n => n.offset < m.offset) := by
  induction h with
  | flat => exact .nil
  | deeper h _ _ ih => exact .cons (fun m hm => h.offset_lt_of_mem hm) ih

/-- What stands behind the innermost opener is well nested. -/
theorem dyck_behind_head (h : Opened t (o :: stack)) :
    Dyck (delimiters (t.drop (o.offset + 1))) := by
  cases h with
  | @deeper t u c _ _ _ hu =>
    have hd : (t ++ c :: u).drop (t.length + 1) = u := by simp [List.drop_append]
    show Dyck (delimiters ((t ++ c :: u).drop (t.length + 1)))
    rw [hd]
    exact hu

/-- **The delimiters of the text are `d₀ o₁ d₁ … oₙ dₙ`**, the `oᵢ` from the bottom of the stack to
its top and the `dᵢ` well nested. -/
theorem delimiters_eq_zip (h : Opened t stack) :
    ∃ d₀ ds, Dyck d₀ ∧ (∀ d ∈ ds, Dyck d) ∧ ds.length = stack.length ∧
      delimiters t = d₀ ++ (List.zipWith (fun m d => m.char :: d) stack.reverse ds).flatten := by
  induction h with
  | flat ht => exact ⟨_, [], ht, by simp, rfl, by simp⟩
  | @deeper t u c stack _ hc hu ih =>
    obtain ⟨d₀, ds, h₀, hds, hlen, ht⟩ := ih
    refine ⟨d₀, ds ++ [delimiters u], h₀, ?_, by simp [hlen], ?_⟩
    · intro d hd
      obtain hd | hd := List.mem_append.mp hd
      · exact hds d hd
      · rw [List.mem_singleton.mp hd]
        exact hu
    · rw [List.reverse_cons, List.zipWith_append (by simp [hlen]), delimiters_append,
        delimiters_cons_of_delimiter (isDelimiter_of_opener hc), ht]
      simp [Mark.behind]

/-- **The open openers can be closed**, the innermost first. -/
theorem viable (h : Opened t stack) : Viable (delimiters t) := by
  rw [viable_delimiters_iff]
  induction stack generalizing t with
  | nil =>
    cases h with
    | flat ht => exact ⟨[], by rwa [List.append_nil]⟩
  | cons o stack ih =>
    obtain ⟨c, hc⟩ := h.exists_closing
    obtain ⟨u, hu⟩ := ih (h.pop hc)
    refine ⟨c :: u, ?_⟩
    rw [List.append_assoc] at hu
    exact hu

end Opened

namespace Scan

/-! ## Every reachable state -/

variable {t p rest : Text} {stack : List Mark} {s : State} {c : Char}

/-- **One step keeps the stack true to the text read.** -/
theorem opened_step {next : State} (h : Opened p stack)
    (hs : step (.behind p stack) c = .ok next) :
    ∃ stack', next = .behind (p ++ [c]) stack' ∧ Opened (p ++ [c]) stack' := by
  have hm := moves_step p stack c
  rw [hs] at hm
  cases hm with
  | pass hk =>
    refine ⟨_, rfl, h.append ?_⟩
    rw [delimiters_cons_of_not (isDelimiter_of_notDelimiter hk)]
    exact .nil
  | push hk => exact ⟨_, rfl, h.push hk⟩
  | pop hc => exact ⟨_, rfl, h.pop hc⟩

/-- **Every state that a scan reaches is behind a prefix of the text**, with the open openers of
that prefix on its stack. -/
theorem Reachable.opened (h : Reachable t s) :
    ∃ p rest stack, t = p ++ rest ∧ s = .behind p stack ∧ Opened p stack := by
  induction h with
  | start => exact ⟨[], t, [], rfl, rfl, .flat .nil⟩
  | @step s next c _ hc hs ih =>
    obtain ⟨p, rest, stack, rfl, rfl, hO⟩ := ih
    obtain ⟨stack', rfl, hO'⟩ := opened_step hO hs
    -- the character read is the one behind the prefix
    have hc : (p ++ rest)[p.length]? = some c := hc
    rw [List.getElem?_append_right (Nat.le_refl _), Nat.sub_self] at hc
    cases rest with
    | nil => cases hc
    | cons d rest =>
      obtain rfl : d = c := Option.some.inj hc
      exact ⟨p ++ [d], rest, stack', by simp, rfl, hO'⟩

theorem Reachable.opened_prefix (h : Reachable (p ++ rest) (.behind p stack)) :
    Opened p stack := by
  obtain ⟨q, rest', stack', ht, hs, hO⟩ := h.opened
  have hlen : p.length = q.length := congrArg State.offset hs
  have hstack : stack = stack' := congrArg State.stack hs
  rw [(List.append_inj ht hlen).1, hstack]
  exact hO

/-! ## The end of a scan -/

/-- **How a scan of a text can end**, told by the state before the last character read. -/
inductive Ends (t : Text) : Halt → Prop
  /-- At the end of the text. -/
  | balanced {stack : List Mark} : Reachable t (.behind t stack) →
      Ends t ⟨.balanced, .behind t stack⟩
  /-- At a closer behind a text that leaves nothing open. -/
  | unmatched {p rest : Text} {c : Char} : t = p ++ c :: rest → Reachable t (.behind p []) →
      Kind.ofChar c = .closer →
      Ends t ⟨.unmatched (Mark.behind p c), .behind (p ++ [c]) []⟩
  /-- At a closer of another pair than that of the innermost opener. -/
  | mismatched {p rest : Text} {c : Char} {o : Mark} {stack : List Mark} : t = p ++ c :: rest →
      Reachable t (.behind p (o :: stack)) → Kind.ofChar c = .closer →
      closing? o.char ≠ some c →
      Ends t ⟨.mismatched o (Mark.behind p c), .behind (p ++ [c]) stack⟩

/-- A scan that has come to a state ends in one of the three ways. -/
theorem ends_run (h : Reachable t (.behind p stack)) (ht : t = p ++ rest) :
    Ends t (run (.behind p stack) rest) := by
  induction rest generalizing p stack with
  | nil =>
    rw [List.append_nil] at ht
    subst ht
    exact .balanced h
  | cons c rest ih =>
    have hc : t[(State.behind p stack).offset]? = some c := by
      subst ht
      simp [State.behind]
    have ht' : t = p ++ [c] ++ rest := by simpa using ht
    have hm := moves_step p stack c
    unfold run
    cases hs : step (.behind p stack) c with
    | ok next =>
      have hr : Reachable t next := .step h hc hs
      rw [hs] at hm
      cases hm <;> exact ih hr ht'
    | error halt =>
      rw [hs] at hm
      cases hm with
      | unmatched hk => exact .unmatched ht h hk
      | mismatched hk ho => exact .mismatched ht h hk ho

/-- **Every scan ends in one of the three ways.** -/
theorem ends_scan (t : Text) : Ends t (scan t) := by
  have h : Reachable t (.behind [] []) := .start
  exact ends_run h rfl

end Scan

end Nesting
