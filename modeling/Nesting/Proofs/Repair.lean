import Nesting.Proofs.FirstError

/-!
# What closes a text

A text that is scanned to its end may leave openers open, and the report lists them, the innermost
last. Their closers, the innermost first, close the text (`Opened.dyck_closersOf`).

There is no way around these closers. Whatever is appended to close the text, its scan starts with
the openers on the stack and ends with an empty one. What is pushed meanwhile lies above them, so
each of them can only go when its own closer comes, and the inner ones go first: the closers stand
in what is appended, in this order, with other things between them perhaps (`Scan.sublist_of_run`).
Hence nothing shorter closes the text, and nothing else that is as short.
-/

namespace Nesting

variable {t p s : Text} {c : Char} {m : Mark} {stack : List Mark}

/-! ## The closers of a stack -/

/-- The closers that the openers on a stack ask for, the innermost first. -/
def closersOf (stack : List Mark) : Text :=
  stack.filterMap fun m => closing? m.char

/-- **What a report has missing**: the closers of the openers that it lists, that of the last one
first. -/
def Report.repair (r : Report) : Text :=
  r.top.reverse.map fun e => e.delimiter.closer.glyph

theorem closersOf_cons (h : closing? m.char = some c) :
    closersOf (m :: stack) = c :: closersOf stack :=
  List.filterMap_cons_some h

theorem closersOf_sublist_cons (m : Mark) (stack : List Mark) :
    (closersOf stack).Sublist (closersOf (m :: stack)) :=
  (List.sublist_cons_self m stack).filterMap _

theorem kind_of_mem_closersOf (h : c ∈ closersOf stack) : Kind.ofChar c = .closer := by
  obtain ⟨m, -, hm⟩ := List.mem_filterMap.mp h
  exact (kind_of_closing hm).2

theorem Opened.exists_closing_of_mem (h : Opened t stack) (hm : m ∈ stack) :
    ∃ c, closing? m.char = some c := by
  induction h with
  | flat => cases hm
  | deeper _ hc _ ih =>
    obtain rfl | hm := List.mem_cons.mp hm
    · exact kind_eq_opener_iff.mp hc
    · exact ih hm

/-- Each opener of a stack has one closer, which a report names by its code point. -/
theorem closersOf_eq_map (h : ∀ m ∈ stack, ∃ c, closing? m.char = some c) :
    closersOf stack = stack.map fun m => m.entry.delimiter.closer.glyph := by
  induction stack with
  | nil => rfl
  | cons m stack ih =>
    obtain ⟨c, hc⟩ := h m List.mem_cons_self
    have hglyph : m.entry.delimiter.closer.glyph = c := by
      show (CodePoint.ofChar m.char).closer.glyph = c
      rw [CodePoint.closer_ofChar hc, CodePoint.glyph_ofChar]
    rw [closersOf_cons hc, List.map_cons, hglyph, ih fun m hm => h m (List.mem_cons_of_mem _ hm)]

theorem Opened.length_closersOf (h : Opened t stack) : (closersOf stack).length = stack.length := by
  rw [closersOf_eq_map fun _ hm => h.exists_closing_of_mem hm, List.length_map]

/-- **The closers of the open openers close the text.** -/
theorem Opened.dyck_closersOf (h : Opened t stack) : Dyck (delimiters (t ++ closersOf stack)) := by
  induction stack generalizing t with
  | nil =>
    cases h with
    | flat ht =>
      show Dyck (delimiters (t ++ []))
      rwa [List.append_nil]
  | cons o stack ih =>
    obtain ⟨c, hc⟩ := h.exists_closing
    have hrest := ih (h.pop hc)
    rwa [List.append_assoc, List.singleton_append, ← closersOf_cons hc] at hrest

/-! ## No way around them -/

namespace Scan

/-- **A character takes at most its own closer off what the stack asks for.** -/
theorem sublist_of_step {next : State} (h : step (.behind p stack) c = .ok next) :
    (closersOf stack).Sublist (c :: closersOf next.stack) := by
  have hm := moves_step p stack c
  rw [h] at hm
  cases hm with
  | pass => exact List.sublist_cons_self _ _
  | push => exact (closersOf_sublist_cons _ _).trans (List.sublist_cons_self _ _)
  | pop hc =>
    rw [closersOf_cons hc]
    exact List.Sublist.refl _

/-- **What a stack asks for stands in the text read since, or is still asked for.** -/
theorem sublist_of_run {last : State} (h : run (.behind p stack) s = ⟨.balanced, last⟩) :
    (closersOf stack).Sublist (s ++ closersOf last.stack) := by
  induction s generalizing p stack with
  | nil =>
    cases h
    exact List.Sublist.refl _
  | cons c s ih =>
    cases hs : step (.behind p stack) c with
    | ok next =>
      rw [run_cons hs] at h
      have hstep := sublist_of_step hs
      have hm := moves_step p stack c
      rw [hs] at hm
      cases hm <;> exact hstep.trans ((ih h).cons_cons c)
    | error halt =>
      rw [run_cons_error hs] at h
      exact absurd (congrArg Halt.verdict h) (verdict_ne_balanced hs)

end Scan

/-- **Whatever closes a text contains the closers of its open openers**, in their order. -/
theorem Opened.sublist_of_dyck (h : Opened t stack) (hs : Dyck (delimiters (t ++ s))) :
    (closersOf stack).Sublist s := by
  have hrun : Scan.run (.behind t stack) s = ⟨.balanced, .behind (t ++ s) []⟩ :=
    (Scan.run_append h.run_eq).symm.trans (Opened.run_eq (.flat hs))
  have hsub := Scan.sublist_of_run hrun
  rwa [show closersOf (Scan.State.behind (t ++ s) []).stack = [] from rfl, List.append_nil] at hsub

/-- To close a text takes at least as many closers as it has openers left. -/
theorem Opened.length_le_countP (h : Opened t stack) (hs : Dyck (delimiters (t ++ s))) :
    stack.length ≤ s.countP fun c => Kind.ofChar c = .closer :=
  calc stack.length = (closersOf stack).length := h.length_closersOf.symm
    _ = (closersOf stack).countP fun c => Kind.ofChar c = .closer :=
      (List.countP_eq_length.mpr fun _ hc => decide_eq_true (kind_of_mem_closersOf hc)).symm
    _ ≤ s.countP fun c => Kind.ofChar c = .closer := (h.sublist_of_dyck hs).countP_le

/-! ## The repair of a report -/

/-- A report that lists all the openers left has the closers of all of them. -/
theorem repair_ofHalt {name : String} {options : Options} {halt : Scan.Halt}
    (h : halt.state.stack.length ≤ options.stackTail) :
    (Report.ofHalt name options t halt).repair
      = halt.state.stack.map fun m => m.entry.delimiter.closer.glyph := by
  unfold Report.repair
  rw [top_ofHalt, List.take_of_length_le h, ← List.map_reverse, List.reverse_reverse, List.map_map]
  rfl

/-- **The openers left are an exact account of what is missing.** To close a text takes at least as
many closers as it has openers left. If the report lists them all, their closers in reverse order
close the text, every text that closes it contains these in this order, and none of the same length
is another. -/
theorem leftover_is_repair {name : String} {settings : List Setting} {scanner : Scanner}
    (h : Scanner.ofSettings name t settings = .ok scanner)
    (hbalanced : scanner.scan.1.outcome = .balanced) :
    (∀ name' settings' s, ScansFlat name' settings' (t ++ s) →
      scanner.scan.1.depth ≤ s.countP fun c => Kind.ofChar c = .closer) ∧
    (scanner.scan.1.depth ≤ scanner.options.stackTail →
      ScansFlat name settings (t ++ scanner.scan.1.repair) ∧
      ∀ name' settings' s, ScansFlat name' settings' (t ++ s) →
        scanner.scan.1.repair.Sublist s ∧
        ((s.length : Int) = scanner.scan.1.depth → s = scanner.scan.1.repair)) := by
  rw [report_scan h] at hbalanced ⊢
  obtain ⟨stack, hO, hscan⟩ := exists_opened_of_balanced (verdict_of_outcome hbalanced)
  rw [hscan]
  have hdepth : (Report.ofHalt name scanner.options t ⟨.balanced, .behind t stack⟩).depth
      = stack.length := rfl
  rw [hdepth]
  refine ⟨fun _ _ s hs => Int.ofNat_le.mpr (hO.length_le_countP hs.dyck), fun htail => ?_⟩
  have hrepair : (Report.ofHalt name scanner.options t ⟨.balanced, .behind t stack⟩).repair
      = closersOf stack := by
    rw [closersOf_eq_map fun _ hm => hO.exists_closing_of_mem hm]
    exact repair_ofHalt (Int.ofNat_le.mp htail)
  rw [hrepair]
  refine ⟨?_, fun _ _ s hs => ?_⟩
  · obtain ⟨scanner', h', -⟩ := exists_scanner_of_text h (t ++ closersOf stack)
    exact scansFlat_of_dyck h' hO.dyck_closersOf
  · have hsub := hO.sublist_of_dyck hs.dyck
    refine ⟨hsub, fun hlength => (hsub.eq_of_length ?_).symm⟩
    rw [hO.length_closersOf]
    exact Int.ofNat.inj hlength.symm

/-- Two openers are left of `{a()[`, and `]}` is what closes it: of the texts with two characters
that alone. -/
theorem leftover_is_repair_two :
    let t := ['{', 'a', '(', ')', '[']
    let scanner : Scanner := { name := "a", text := t, options := { stackTail := 2 } }
    Scanner.ofSettings "a" t [.stackTail 2] = .ok scanner ∧
      scanner.scan.1.outcome = .balanced ∧ scanner.scan.1.depth = 2 ∧
      scanner.scan.1.repair = [']', '}'] ∧
      ScansFlat "a" [.stackTail 2] (t ++ [']', '}']) ∧
      ∀ s, ScansFlat "b" [] (t ++ s) →
        2 ≤ s.countP (fun c => Kind.ofChar c = .closer) ∧ List.Sublist [']', '}'] s ∧
        (s.length = 2 → s = [']', '}']) := by
  intro t scanner
  have h : Scanner.ofSettings "a" t [.stackTail 2] = .ok scanner := rfl
  have hbalanced : scanner.scan.1.outcome = .balanced := by decide
  have hdepth : scanner.scan.1.depth = 2 := by decide
  have hrepair : scanner.scan.1.repair = [']', '}'] := by decide
  obtain ⟨hcount, hlisted⟩ := leftover_is_repair h hbalanced
  obtain ⟨hflat, hmin⟩ := hlisted (by decide)
  rw [hrepair] at hflat hmin
  rw [hdepth] at hcount hmin
  refine ⟨h, hbalanced, hdepth, hrepair, hflat, fun s hs => ?_⟩
  obtain ⟨hsub, honly⟩ := hmin _ _ s hs
  exact ⟨Int.ofNat_le.mp (hcount _ _ s hs), hsub, fun hlen => honly (by rw [hlen]; rfl)⟩

end Nesting
