import Nesting.Proofs.ContextWindow

/-!
# Nothing behind the first error counts

A scan stops at the first closer that is wrong. What the text goes on with is never read, so the
scan of a longer text ends in the same state (`Scan.run_append_of_stopped`), and a report that is
built from the state is the same in all that it says of delimiters and places.

Only the context is taken from the text itself. Its window ends at a sum of the offset and the
radius, clamped to the length of the text, and both the sum and the clamp could let the length be
seen. They do not: the clamp takes away nothing that is there (`window_eq_drop_take`), and the sum,
even if it wraps around, is never beyond the true one. So a window depends on the text up to offset
and radius alone (`window_congr`), and for a closer at the end of a text that is the text and
`radius - 1` characters more.
-/

namespace Nesting

variable {p t u : Text} {radius offset : Nat}

/-! ## The end of a window -/

/-- Wrapping around never makes a number greater, unless it is negative. -/
theorem Word.wrap_le {n : Int} (h : 0 ≤ n) : wrap n ≤ n := by
  unfold wrap count
  rw [Int.bmod_def]
  split <;> omega

/-- **The length of the text plays no part in its windows**: the clamp at the end takes away nothing
that is there. -/
theorem window_eq_drop_take (t : Text) (radius offset : Nat) :
    window t radius offset
      = (t.take (Word.wrap (offset + radius)).toNat).drop (offset - radius) := by
  have hstart : (max 0 ((offset : Int) - radius)).toNat = offset - radius := by omega
  have hstop : (min (t.length : Int) (Word.wrap (offset + radius))).toNat
      = min (Word.wrap (offset + radius)).toNat t.length := by omega
  unfold window
  dsimp only
  rw [hstart, hstop, ← List.take_eq_take_min]

/-- **A window depends on the text up to offset and radius**, also where their sum wraps around. -/
theorem window_congr (h : t.take (offset + radius) = u.take (offset + radius)) :
    window t radius offset = window u radius offset := by
  have hle : (Word.wrap (offset + radius)).toNat ≤ offset + radius := by
    have hwrap := Word.wrap_le (n := (offset : Int) + radius) (by omega)
    omega
  have htake : ∀ v : Text, v.take (Word.wrap (offset + radius)).toNat
      = (v.take (offset + radius)).take (Word.wrap (offset + radius)).toNat := by
    intro v
    rw [List.take_take, Nat.min_eq_left hle]
  rw [window_eq_drop_take, window_eq_drop_take, htake t, htake u, h]

/-- For the last character of a text, `radius - 1` characters of what follows are within the
radius. -/
theorem take_append_congr (hoffset : offset + 1 = p.length)
    (h : t.take (radius - 1) = u.take (radius - 1)) :
    (p ++ t).take (offset + radius) = (p ++ u).take (offset + radius) := by
  cases radius with
  | zero =>
    have hle : offset + 0 ≤ p.length := by omega
    rw [List.take_append_of_le_length hle, List.take_append_of_le_length hle]
  | succ n =>
    have hlength : offset + (n + 1) = p.length + n := by omega
    rw [hlength, List.take_length_add_append, List.take_length_add_append]
    exact congrArg (p ++ ·) h

/-! ## The report of a scan that has stopped -/

/-- **Two reports find the same**: they agree in all but the name and the context, places
included. -/
structure SameFinding (r r' : Report) : Prop where
  outcome : r.outcome = r'.outcome
  opener : r.opener = r'.opener
  closer : r.closer = r'.closer
  depth : r.depth = r'.depth
  top : r.top = r'.top

/-- What a report finds does not depend on the text, given the end of the scan. -/
theorem sameFinding_ofHalt (name : String) (options : Options) (t u : Text) (halt : Scan.Halt) :
    SameFinding (Report.ofHalt name options t halt) (Report.ofHalt name options u halt) := by
  unfold Report.ofHalt
  -- each side is reduced by itself, so that the two windows are never compared
  cases halt.verdict <;> constructor <;> dsimp only

/-- **A report that blames the last character of a text**, as the first one that is wrong. -/
structure BlamesLast (t : Text) (r : Report) : Prop where
  wrong : r.outcome = .unmatched ∨ r.outcome = .mismatched
  last : r.closer.map Entry.offset = some ((t.length : Int) - 1)

section Continued

variable {name : String} {options : Options} {halt : Scan.Halt}

theorem verdict_ne_balanced_of_wrong
    (h : (Report.ofHalt name options t halt).outcome = .unmatched ∨
      (Report.ofHalt name options t halt).outcome = .mismatched) :
    halt.verdict ≠ .balanced := by
  intro hbalanced
  unfold Report.ofHalt at h
  rw [hbalanced] at h
  obtain h | h := h <;> cases h

/-- **However a text goes on behind its first error, its scan ends as it did.** -/
theorem scan_append (h : (Scan.scan p).verdict ≠ .balanced) (s : Text) :
    Scan.scan (p ++ s) = Scan.scan p :=
  Scan.run_append_of_stopped h

/-- Where two texts agree around the closer, their reports have one context. -/
theorem context_ofHalt_congr
    (hlast : (Report.ofHalt name options p halt).closer.map Entry.offset
      = some ((p.length : Int) - 1))
    (h : t.take (options.contextRadius - 1) = u.take (options.contextRadius - 1)) :
    (Report.ofHalt name options (p ++ t) halt).context
      = (Report.ofHalt name options (p ++ u) halt).context := by
  -- the two differ in the window at the closer, if there is one
  have hwindow : ∀ m : Mark, (m.offset : Int) = (p.length : Int) - 1 →
      window (p ++ t) options.contextRadius m.offset
        = window (p ++ u) options.contextRadius m.offset := by
    intro m hm
    exact window_congr (take_append_congr (by omega) h)
  unfold Report.ofHalt at hlast ⊢
  cases hv : halt.verdict with
  | balanced => rfl
  | unmatched closer =>
    rw [hv] at hlast
    show String.ofList (onOneLine (window _ _ _)) = String.ofList (onOneLine (window _ _ _))
    rw [hwindow closer (Option.some.inj hlast)]
  | mismatched opener closer =>
    rw [hv] at hlast
    show String.ofList (onOneLine (window _ _ _)) = String.ofList (onOneLine (window _ _ _))
    rw [hwindow closer (Option.some.inj hlast)]

end Continued

/-- A scanner of another text has the same options. -/
theorem exists_scanner_of_text {name : String} {settings : List Setting} {scanner : Scanner}
    (h : Scanner.ofSettings name p settings = .ok scanner) (t : Text) :
    ∃ scanner', Scanner.ofSettings name t settings = .ok scanner' ∧
      scanner'.options = scanner.options := by
  unfold Scanner.ofSettings at h ⊢
  cases ho : Options.ofSettings settings with
  | error e =>
    rw [ho] at h
    cases h
  | ok options =>
    rw [ho] at h
    cases h
    exact ⟨_, rfl, rfl⟩

/-- **The text behind the first error is irrelevant.** If the scan of a text stops at its last
character, then however the text goes on, the report finds what it found without that; and two
continuations that agree as far as the radius reaches have the same context too. -/
theorem report_ignores_continuation {name : String} {settings : List Setting} {scanner : Scanner}
    (h : Scanner.ofSettings name p settings = .ok scanner) (hlast : BlamesLast p scanner.scan.1)
    (s₁ s₂ : Text) :
    ∃ scanner₁ scanner₂,
      Scanner.ofSettings name (p ++ s₁) settings = .ok scanner₁ ∧
      Scanner.ofSettings name (p ++ s₂) settings = .ok scanner₂ ∧
      SameFinding scanner₁.scan.1 scanner₂.scan.1 ∧
      SameFinding scanner₁.scan.1 scanner.scan.1 ∧
      (s₁.take (scanner.options.contextRadius - 1) = s₂.take (scanner.options.contextRadius - 1) →
        scanner₁.scan.1.context = scanner₂.scan.1.context) := by
  obtain ⟨scanner₁, h₁, ho₁⟩ := exists_scanner_of_text h (p ++ s₁)
  obtain ⟨scanner₂, h₂, ho₂⟩ := exists_scanner_of_text h (p ++ s₂)
  obtain ⟨hwrong, hoffset⟩ := hlast
  rw [report_scan h] at hwrong hoffset
  have hstopped := scan_append (verdict_ne_balanced_of_wrong hwrong)
  refine ⟨scanner₁, scanner₂, h₁, h₂, ?_⟩
  rw [report_scan h, report_scan h₁, report_scan h₂, ho₁, ho₂, hstopped s₁, hstopped s₂]
  exact ⟨sameFinding_ofHalt .., sameFinding_ofHalt ..,
    fun hagree => context_ofHalt_congr hoffset hagree⟩

/-- In both texts a bracket meets the parenthesis on the line before. They go on differently behind
the `a`, which is all that a radius of two shows of what follows. -/
theorem report_ignores_continuation_short_radius :
    let p := ['(', '\n', ']']
    let scanner : Scanner := { name := "a", text := p, options := { contextRadius := 2 } }
    Scanner.ofSettings "a" p [.contextRadius 2] = .ok scanner ∧ BlamesLast p scanner.scan.1 ∧
      ∃ scanner₁ scanner₂,
        Scanner.ofSettings "a" (p ++ ['a', '}']) [.contextRadius 2] = .ok scanner₁ ∧
        Scanner.ofSettings "a" (p ++ ['a', '(', ')']) [.contextRadius 2] = .ok scanner₂ ∧
        SameFinding scanner₁.scan.1 scanner₂.scan.1 ∧
        SameFinding scanner₁.scan.1 scanner.scan.1 ∧
        scanner₁.scan.1.context = scanner₂.scan.1.context := by
  intro p scanner
  have h : Scanner.ofSettings "a" p [.contextRadius 2] = .ok scanner := rfl
  have hlast : BlamesLast p scanner.scan.1 := ⟨.inr (by decide), by decide⟩
  obtain ⟨scanner₁, scanner₂, h₁, h₂, hboth, hsame, hcontext⟩ :=
    report_ignores_continuation h hlast ['a', '}'] ['a', '(', ')']
  exact ⟨h, hlast, scanner₁, scanner₂, h₁, h₂, hboth, hsame, hcontext rfl⟩

end Nesting
