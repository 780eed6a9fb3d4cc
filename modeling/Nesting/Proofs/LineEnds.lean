import Nesting.Check
import Nesting.Proofs.Substitution
import Nesting.Proofs.Decoding
import Nesting.Text.Reading

/-!
# Three ways to end a line

The ends of lines are folded by two substitutions, one after the other. The second one sees what the
first has put in place, and a substitution that goes over the work of another may join what was
apart or take apart what belongs together: in a run of carriage returns before a line feed, only the
last one goes with the line feed. Here nothing of that kind happens. What the first substitution
puts in place is a line feed, the second looks for carriage returns only, and those that are left
for it are the ones without a line feed behind them. So the two are one pass
(`foldLineEnds_eq_foldOnce`).

Whichever way the lines of a text end, folding gives the text with line feeds. A source says nothing
else about the ends of its lines, and so neither do the reports on it.
-/

namespace Nesting

variable {t : Text} {c : Char}

/-! ## Replacing a word -/

theorem Reading.eq_append_of_behind? {w rest : Text} (h : behind? w t = some rest) :
    t = w ++ rest := by
  fun_induction behind? w t with
  | case1 t => exact Option.some.inj h
  | case2 => cases h
  | case3 c front t ih => rw [ih h, List.cons_append]
  | case4 => cases h

namespace Pattern

/-- The pattern of given characters, of which there is at least one. -/
def word (c : Char) (w : Text) : Pattern where
  match? t := (Reading.behind? (c :: w) t).map (c :: w, ·)
  split := by
    intro t covered rest h
    obtain ⟨r, hr, he⟩ := Option.map_eq_some_iff.mp h
    obtain ⟨rfl, rfl⟩ := Prod.mk.inj he
    exact ⟨List.cons_ne_nil _ _, Reading.eq_append_of_behind? hr⟩

theorem match_word_cons_ne {d : Char} (w : Text) (h : d ≠ c) :
    (word c w).match? (d :: t) = none := by
  show (Reading.behind? (c :: w) (d :: t)).map _ = none
  rw [Reading.behind?, if_neg h.symm]
  rfl

end Pattern

/-- Carriage returns are taken away from line feeds by one substitution. -/
theorem joinLineEnds_eq_replace (t : Text) :
    joinLineEnds t = (Pattern.word '\r' ['\n']).replace (fun _ => ['\n']) t := by
  fun_induction joinLineEnds t with
  | case1 rest ih =>
    rw [Pattern.replace_of_some (show (Pattern.word '\r' ['\n']).match? ('\r' :: '\n' :: rest)
      = some (['\r', '\n'], rest) from rfl), ← ih]
    rfl
  | case2 c rest hnot ih =>
    rw [Pattern.replace_cons_of_none, ih]
    by_cases hc : c = '\r'
    · subst hc
      cases rest with
      | nil => rfl
      | cons d rest =>
        have hd : '\n' ≠ d := fun hd => hnot rest rfl (by rw [hd])
        show (Reading.behind? ['\r', '\n'] ('\r' :: d :: rest)).map _ = none
        rw [Reading.behind?, if_pos rfl, Reading.behind?, if_neg hd]
        rfl
    · exact Pattern.match_word_cons_ne _ hc
  | case3 => rw [Pattern.replace_nil]

/-- The carriage returns that are left become line feeds by another one. -/
theorem map_return_eq_replace (t : Text) :
    t.map (fun c => if c = '\r' then '\n' else c)
      = (Pattern.word '\r' []).replace (fun _ => ['\n']) t := by
  induction t with
  | nil => rw [Pattern.replace_nil]; rfl
  | cons c t ih =>
    rw [List.map_cons, ih]
    by_cases hc : c = '\r'
    · subst hc
      rw [Pattern.replace_of_some (show (Pattern.word '\r' []).match? ('\r' :: t)
        = some (['\r'], t) from rfl)]
      rfl
    · rw [Pattern.replace_cons_of_none (Pattern.match_word_cons_ne _ hc), if_neg hc]

/-! ## One pass -/

/-- **The ends of lines, folded in one pass**: a carriage return goes together with a line feed
behind it, and a line feed stands for the two, as for a carriage return alone. -/
def foldOnce : Text → Text
  | '\r' :: '\n' :: rest => '\n' :: foldOnce rest
  | '\r' :: rest => '\n' :: foldOnce rest
  | c :: rest => c :: foldOnce rest
  | [] => []

/-- **The two substitutions are one pass.** -/
theorem foldLineEnds_eq_foldOnce (t : Text) : foldLineEnds t = foldOnce t := by
  unfold foldLineEnds
  fun_induction foldOnce t with
  | case1 rest ih =>
    rw [joinLineEnds, List.map_cons, ih]
    rfl
  | case2 rest hnot ih =>
    rw [joinLineEnds, List.map_cons, ih, if_pos rfl]
    exact fun rest _ => hnot rest
  | case3 c rest _ hc ih =>
    rw [joinLineEnds, List.map_cons, ih, if_neg hc]
    exact fun _ h => absurd h hc
  | case4 => rfl

theorem foldOnce_cons_of_ne (h : c ≠ '\r') : foldOnce (c :: t) = c :: foldOnce t := by
  rw [foldOnce]
  · exact fun _ h' => absurd h' h
  · exact h

theorem foldOnce_return (h : t.head? ≠ some '\n') : foldOnce ('\r' :: t) = '\n' :: foldOnce t := by
  rw [foldOnce]
  rintro rest rfl
  exact h rfl

/-! ## Texts written with any of the three -/

/-- How a line can end. -/
inductive LineEnd where
  | lineFeed
  | returnAndFeed
  | carriageReturn
  deriving DecidableEq

namespace LineEnd

/-- The characters of a line end. -/
def chars : LineEnd → Text
  | lineFeed => ['\n']
  | returnAndFeed => ['\r', '\n']
  | carriageReturn => ['\r']

/-- A text with its lines ended in the given way. -/
def write (e : LineEnd) (t : Text) : Text :=
  t.flatMap fun c => if c = '\n' then e.chars else [c]

theorem write_cons_newline (e : LineEnd) (t : Text) :
    e.write ('\n' :: t) = e.chars ++ e.write t :=
  rfl

theorem write_cons_of_ne (e : LineEnd) (h : c ≠ '\n') (t : Text) :
    e.write (c :: t) = c :: e.write t := by
  unfold write
  rw [List.flatMap_cons, if_neg h]
  rfl

/-- A text with carriage returns for line feeds does not begin with a line feed. -/
theorem head?_write_carriageReturn (t : Text) : (carriageReturn.write t).head? ≠ some '\n' := by
  cases t with
  | nil => exact nofun
  | cons c t =>
    by_cases hc : c = '\n'
    · subst hc
      rw [write_cons_newline]
      show some '\r' ≠ some '\n'
      decide
    · rw [write_cons_of_ne _ hc, List.head?_cons]
      exact fun h => hc (Option.some.inj h)

/-- What is behind a line end is folded by itself, unless a line feed would be added to the line
end. -/
theorem foldOnce_chars_append (e : LineEnd)
    (h : e = carriageReturn → t.head? ≠ some '\n') :
    foldOnce (e.chars ++ t) = '\n' :: foldOnce t := by
  cases e with
  | lineFeed => exact foldOnce_cons_of_ne (c := '\n') (by decide)
  | returnAndFeed => rfl
  | carriageReturn => exact foldOnce_return (h rfl)

/-- **Folding forgets which way lines ended.** -/
theorem foldOnce_write (e : LineEnd) (h : '\r' ∉ t) : foldOnce (e.write t) = t := by
  induction t with
  | nil => rfl
  | cons c t ih =>
    have ih := ih fun hmem => h (List.mem_cons_of_mem c hmem)
    by_cases hc : c = '\n'
    · subst hc
      have hhead : e = carriageReturn → (e.write t).head? ≠ some '\n' := by
        rintro rfl
        exact head?_write_carriageReturn t
      rw [write_cons_newline, foldOnce_chars_append e hhead, ih]
    · have hreturn : c ≠ '\r' := by
        rintro rfl
        exact h List.mem_cons_self
      rw [write_cons_of_ne e hc, foldOnce_cons_of_ne hreturn, ih]

end LineEnd

/-! ## Sources and reports -/

/-- **A file holds a text** if its bytes stand for the text in the encoding that is asked for.
Without a label this is UTF-8. -/
def FileTree.Holds (files : FileTree) (decoders : Decoders) (path : String) (label : RawText)
    (t : Text) : Prop :=
  ∃ bytes encoding, files.read path = .ok bytes ∧
    (if trimmed label.chars = [] then some .utf8 else Encoding.ofLabel? label) = some encoding ∧
    encoding.decode decoders bytes = .ok t

/-- **A source is the text that its file holds**, with the ends of lines folded. -/
theorem FileTree.Holds.readSource_eq {files : FileTree} {decoders : Decoders} {path : String}
    {label : RawText} (h : files.Holds decoders path label t) :
    readSource decoders files path label = .ok (foldLineEnds t) := by
  obtain ⟨bytes, encoding, hread, hlabel, hdecode⟩ := h
  rw [readSource_of_read hread]
  exact decodeSource_eq_ok_iff.mpr ⟨encoding, t, hlabel, hdecode, rfl⟩

/-- The report on a source file. -/
def checkFile (decoders : Decoders) (files : FileTree) (path : String) (label : RawText)
    (name : String) (mode : LineMode) (settings : List Setting) :
    Except Failure (Except SettingError Report) :=
  (readSource decoders files path label).map fun t => check name mode t settings

/-- **Folding the ends of lines is one pass, and forgets which way they ended.** The two
substitutions for the two characters and for the one do what a single pass does. What comes out has
no carriage return and is folded already. A text comes back from each of the three ways to end its
lines, so that a file with any of them gets the report on the text. -/
theorem line_ends_fold_once (t : Text) :
    (foldLineEnds t = (Pattern.word '\r' []).replace (fun _ => ['\n'])
        ((Pattern.word '\r' ['\n']).replace (fun _ => ['\n']) t) ∧
      foldLineEnds t = foldOnce t) ∧
    ('\r' ∉ foldLineEnds t ∧ foldLineEnds (foldLineEnds t) = foldLineEnds t) ∧
    ('\r' ∉ t → ∀ e : LineEnd, foldLineEnds (e.write t) = t ∧
      ∀ files decoders path label, FileTree.Holds files decoders path label (e.write t) →
        readSource decoders files path label = .ok t ∧
        ∀ name mode settings, checkFile decoders files path label name mode settings
          = .ok (check name mode t settings)) := by
  have hreturn := return_not_mem_foldLineEnds t
  refine ⟨⟨?_, foldLineEnds_eq_foldOnce t⟩, ⟨hreturn, foldLineEnds_eq_self hreturn⟩, ?_⟩
  · rw [← joinLineEnds_eq_replace, ← map_return_eq_replace]
    rfl
  · intro h e
    have hfold : foldLineEnds (e.write t) = t := by
      rw [foldLineEnds_eq_foldOnce]
      exact e.foldOnce_write h
    refine ⟨hfold, fun files decoders path label hholds => ?_⟩
    have hsource : readSource decoders files path label = .ok t := by
      rw [hholds.readSource_eq, hfold]
    refine ⟨hsource, fun name mode settings => ?_⟩
    unfold checkFile
    rw [hsource]
    rfl

/-- Lines that end by carriage returns in one file, and by a carriage return and a line feed in the
other: the parenthesis is closed on line 3 of both. -/
theorem line_ends_fold_once_two_files :
    let t := ['(', '\n', '\n', ')']
    let files : FileTree :=
      { nodes := [(["a"], .file [0x28, 0x0d, 0x0d, 0x29]),
          (["b"], .file [0x28, 0x0d, 0x0a, 0x0d, 0x0a, 0x29])] }
    let label := RawText.ofString " "
    '\r' ∉ t ∧
      files.Holds .ascii "a" label (LineEnd.carriageReturn.write t) ∧
      files.Holds .ascii "b" label (LineEnd.returnAndFeed.write t) ∧
      checkFile .ascii files "a" label "n" .drop [] = .ok (check "n" .drop t []) ∧
      checkFile .ascii files "b" label "n" .drop [] = .ok (check "n" .drop t []) := by
  intro t files label
  have hreturn : '\r' ∉ t := by decide
  have hblank : trimmed label.chars = [] := by
    rw [RawText.chars_ofString]
    decide +kernel
  have ha : files.Holds .ascii "a" label (LineEnd.carriageReturn.write t) :=
    ⟨[0x28, 0x0d, 0x0d, 0x29], .utf8, by with_unfolding_all rfl, if_pos hblank, by decide +kernel⟩
  have hb : files.Holds .ascii "b" label (LineEnd.returnAndFeed.write t) :=
    ⟨[0x28, 0x0d, 0x0a, 0x0d, 0x0a, 0x29], .utf8, by with_unfolding_all rfl, if_pos hblank,
      by decide +kernel⟩
  have hends := (line_ends_fold_once t).2.2 hreturn
  exact ⟨hreturn, ha, hb, ((hends _).2 _ _ _ _ ha).2 _ _ _, ((hends _).2 _ _ _ _ hb).2 _ _ _⟩

end Nesting
