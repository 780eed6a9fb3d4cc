import Mathlib.Data.List.Chain
import Nesting.Proofs.Comments
import Nesting.Proofs.Lines
import Nesting.Proofs.Literals
import Nesting.Proofs.SameVerdict

/-!
# When the line mode makes no difference to the verdict

The two modes differ in the line feeds that block comments leave. These are seen by the passes that
follow: a line feed keeps two characters apart that would have made a marker, it ends a line
comment, and behind a backslash it keeps a literal from being one. Where none of this happens, both
modes show the same delimiters to the scan.

Both runs are followed at once on a text of *cells*. A cell is a character of the text or a line
feed that a comment has left; one mode reads a word of cells with these line feeds (`kept`), the
other without them (`dropped`). A round of a pass on cells is the round of the mode that keeps them
(`kept_substitute`), and it is also that of the other mode, if every place looks the same to the
pattern with and without the line feeds (`SeenAlike`, `dropped_substitute`). What remains is to say
for each pattern where line feeds are harmless.
-/

namespace Nesting

/-- A character of the text, or a line feed that a block comment has left. -/
inductive Cell where
  | char (c : Char)
  | feed
  deriving DecidableEq

/-- The text of a cell if line feeds are kept. -/
def Cell.kept : Cell → Char
  | .char c => c
  | .feed => '\n'

/-- The text of a cell if line feeds are dropped. -/
def Cell.dropped : Cell → Option Char
  | .char c => some c
  | .feed => none

/-- **Cells as the mode reads them that keeps line feeds.** -/
def kept (w : List Cell) : Text :=
  w.map Cell.kept

/-- **Cells as the mode reads them that drops line feeds.** -/
def dropped (w : List Cell) : Text :=
  w.filterMap Cell.dropped

variable {p : Pattern} {f : Text → List Cell} {w w' u v : List Cell} {a b c : Char} {r s t : Text}

/-! ## The two readings -/

@[simp] theorem kept_nil : kept [] = [] := rfl

theorem kept_cons (x : Cell) (w : List Cell) : kept (x :: w) = x.kept :: kept w := rfl

@[simp] theorem kept_char (c : Char) (w : List Cell) : kept (.char c :: w) = c :: kept w := rfl

@[simp] theorem kept_feed (w : List Cell) : kept (.feed :: w) = '\n' :: kept w := rfl

@[simp] theorem kept_append (u v : List Cell) : kept (u ++ v) = kept u ++ kept v :=
  List.map_append

@[simp] theorem dropped_nil : dropped [] = [] := rfl

@[simp] theorem dropped_char (c : Char) (w : List Cell) :
    dropped (.char c :: w) = c :: dropped w := rfl

@[simp] theorem dropped_feed (w : List Cell) : dropped (.feed :: w) = dropped w := rfl

@[simp] theorem dropped_append (u v : List Cell) : dropped (u ++ v) = dropped u ++ dropped v :=
  List.filterMap_append

theorem kept_map_char (t : Text) : kept (t.map .char) = t := by
  induction t with
  | nil => rfl
  | cons c t ih => rw [List.map_cons, kept_char, ih]

theorem dropped_map_char (t : Text) : dropped (t.map .char) = t := by
  induction t with
  | nil => rfl
  | cons c t ih => rw [List.map_cons, dropped_char, ih]

theorem exists_of_kept_cons (hc : c ≠ '\n') (h : kept w = c :: t) :
    ∃ v, w = .char c :: v ∧ kept v = t := by
  cases w with
  | nil => cases h
  | cons x v =>
    cases x with
    | char d =>
      obtain ⟨rfl, rfl⟩ := List.cons.inj h
      exact ⟨v, rfl, rfl⟩
    | feed => exact absurd (List.cons.inj h).1.symm hc

theorem exists_of_kept_pair (ha : a ≠ '\n') (hb : b ≠ '\n') (h : kept w = a :: b :: t) :
    ∃ v, w = .char a :: .char b :: v ∧ kept v = t := by
  obtain ⟨w', rfl, hw⟩ := exists_of_kept_cons ha h
  obtain ⟨v, rfl, hv⟩ := exists_of_kept_cons hb hw
  exact ⟨v, rfl, hv⟩

theorem exists_of_kept_append (h : kept w = s ++ r) :
    ∃ u v, w = u ++ v ∧ kept u = s ∧ kept v = r :=
  List.map_eq_append_iff.mp h

theorem exists_of_dropped_append (h : dropped w = s ++ c :: r) :
    ∃ u v, w = u ++ .char c :: v ∧ dropped u = s ∧ dropped v = r := by
  induction w generalizing s with
  | nil => exact absurd (congrArg List.length h) (by simp)
  | cons x w ih =>
    cases x with
    | feed =>
      obtain ⟨u, v, rfl, hu, hv⟩ := ih h
      exact ⟨.feed :: u, v, rfl, hu, hv⟩
    | char d =>
      cases s with
      | nil =>
        obtain ⟨rfl, hw⟩ := List.cons.inj h
        exact ⟨[], w, rfl, rfl, hw⟩
      | cons e s =>
        obtain ⟨rfl, hw⟩ := List.cons.inj h
        obtain ⟨u, v, rfl, rfl, hv⟩ := ih hw
        exact ⟨.char d :: u, v, rfl, rfl, hv⟩

/-- On a single line there is nothing to drop. -/
theorem dropped_eq_kept (h : '\n' ∉ kept w) : dropped w = kept w := by
  induction w with
  | nil => rfl
  | cons x w ih =>
    cases x with
    | feed => exact absurd List.mem_cons_self h
    | char c => rw [dropped_char, kept_char, ih fun hmem => h (List.mem_cons_of_mem c hmem)]

/-- Line feeds delimit nothing. -/
theorem delimiters_kept (w : List Cell) : delimiters (kept w) = delimiters (dropped w) := by
  induction w with
  | nil => rfl
  | cons x w ih =>
    cases x with
    | feed => rw [kept_feed, dropped_feed, delimiters_cons_of_not (by decide), ih]
    | char c =>
      have hcons : ∀ t, delimiters (c :: t) = delimiters [c] ++ delimiters t :=
        fun t => delimiters_append [c] t
      rw [kept_char, dropped_char, hcons (kept w), hcons (dropped w), ih]

/-! ## A pass on cells -/

/-- Replaces every match of a pattern among cells, read with their line feeds. -/
def substitute (p : Pattern) (f : Text → List Cell) : List Cell → List Cell
  | [] => []
  | x :: xs =>
    match _h : p.match? (kept (x :: xs)) with
    | none => x :: substitute p f xs
    | some (covered, _) => f covered ++ substitute p f ((x :: xs).drop covered.length)
termination_by w => w.length
decreasing_by
  · simp
  · have := List.length_pos_iff.mpr (p.split _h).1
    simp only [List.length_drop, List.length_cons]
    omega

/-- What is covered among cells is a word of cells. -/
theorem exists_cells_of_match {rest : Text} (h : p.match? (kept w) = some (s, rest)) :
    ∃ u v, w = u ++ v ∧ kept u = s ∧ kept v = rest ∧ w.drop s.length = v := by
  obtain ⟨-, hw⟩ := p.split h
  obtain ⟨u, v, rfl, hu, hv⟩ := exists_of_kept_append hw
  refine ⟨u, v, rfl, hu, hv, ?_⟩
  rw [← hu, kept, List.length_map, List.drop_left]

/-- **A pass on cells is a pass of the mode that keeps line feeds.** -/
theorem kept_substitute {g : Text → Text} (hf : ∀ m, kept (f m) = g m) (w : List Cell) :
    kept (substitute p f w) = p.replace g (kept w) := by
  fun_induction substitute p f w with
  | case1 => rw [kept_nil, Pattern.replace_nil]
  | case2 x xs hm ih =>
    rw [kept_cons] at hm
    rw [kept_cons, kept_cons, Pattern.replace_cons_of_none hm, ih]
  | case3 x xs covered rest hm ih =>
    obtain ⟨u, v, -, -, hv, hdrop⟩ := exists_cells_of_match hm
    rw [kept_append, ih, hf, hdrop, hv, Pattern.replace_of_some hm]

/-- **Cells look alike to a pattern**: it covers the same cells at their start, whether it reads
them with their line feeds or without. -/
structure SeenAlike (p : Pattern) (w : List Cell) : Prop where
  found : ∀ u v, w = u ++ v → p.match? (kept w) = some (kept u, kept v) →
    p.match? (dropped w) = some (dropped u, dropped v)
  missed : p.match? (kept w) = none → p.match? (dropped w) = none

/-- **A pass on cells is also a pass of the mode that drops line feeds**, if no match begins with a
line feed and the cells from every character on look alike to the pattern. -/
theorem dropped_substitute (hf : ∀ m, dropped (f m) = r) (hfeed : ∀ t, p.match? ('\n' :: t) = none)
    (h : ∀ c v, .char c :: v <:+ w → SeenAlike p (.char c :: v)) :
    dropped (substitute p f w) = p.replace (fun _ => r) (dropped w) := by
  fun_induction substitute p f w with
  | case1 => rw [dropped_nil, Pattern.replace_nil]
  | case2 x xs hm ih =>
    have ih := ih fun c v hv => h c v (hv.trans (List.suffix_cons x xs))
    cases x with
    | feed => exact ih -- read by one mode only, and copied there
    | char c =>
      have hm := (h c xs List.suffix_rfl).missed hm
      rw [dropped_char] at hm
      rw [dropped_char, dropped_char, Pattern.replace_cons_of_none hm, ih]
  | case3 x xs covered rest hm ih =>
    cases x with
    | feed =>
      rw [kept_feed, hfeed] at hm
      cases hm
    | char c =>
      obtain ⟨u, v, hw, rfl, rfl, hdrop⟩ := exists_cells_of_match hm
      rw [hdrop] at ih ⊢
      have hm := (h c xs List.suffix_rfl).found u v hw hm
      rw [Pattern.replace_of_some hm, dropped_append, hf, ih]
      intro d v' hv'
      rw [hw] at h
      exact h d v' (hv'.trans (List.suffix_append u v))

/-! ## Where line feeds are harmless -/

/-- What holds of every line feed that was left, given the cells before it and behind it. -/
def EveryFeed (P : List Cell → List Cell → Prop) (w : List Cell) : Prop :=
  ∀ u v, w = u ++ .feed :: v → P u v

theorem everyFeed_iff {P : List Cell → List Cell → Prop} :
    EveryFeed P w ↔ ∀ i < w.length, w[i]? = some .feed → P (w.take i) (w.drop (i + 1)) := by
  constructor
  · intro h i hi hfeed
    refine h _ _ ?_
    obtain ⟨hi, hfeed⟩ := List.getElem?_eq_some_iff.mp hfeed
    rw [← hfeed, List.cons_getElem_drop_succ, List.take_append_drop]
  · rintro h u v rfl
    have hu := h u.length (by simp) (by simp)
    rwa [List.take_left, ← List.drop_drop, List.drop_left, List.drop_one, List.tail_cons] at hu

instance {P : List Cell → List Cell → Prop} [∀ u v, Decidable (P u v)] :
    DecidablePred (EveryFeed P) :=
  fun _ => decidable_of_iff _ everyFeed_iff.symm

/-- **No line feed keeps `a` and `b` apart** that would stand together without it. -/
def NeverBetween (a b : Char) : List Cell → Prop :=
  EveryFeed fun u v => ¬ ((dropped u).getLast? = some a ∧ (dropped v).head? = some b)

instance : DecidablePred (NeverBetween a b) :=
  inferInstanceAs (DecidablePred (EveryFeed _))

theorem NeverBetween.of_infix (h : NeverBetween a b w) (hw : w' <:+: w) : NeverBetween a b w' := by
  obtain ⟨x, y, rfl⟩ := hw
  rintro u v rfl ⟨hu, hv⟩
  refine h (x ++ u) (v ++ y) (by simp) ⟨?_, ?_⟩
  · rw [dropped_append, List.getLast?_append, hu]
    rfl
  · rw [dropped_append, List.head?_append, hv]
    rfl

/-- **Two characters that stand together without line feeds stand together with them**, if no line
feed keeps them apart. -/
theorem NeverBetween.exists_pair (h : NeverBetween a b w) (hw : dropped w = s ++ a :: b :: r) :
    ∃ u v, w = u ++ .char a :: .char b :: v ∧ dropped u = s ∧ dropped v = r := by
  obtain ⟨u, v, rfl, hu, hv⟩ := exists_of_dropped_append hw
  obtain ⟨g, v', rfl, hg, hv'⟩ := exists_of_dropped_append (s := []) hv
  cases g with
  | nil => exact ⟨u, v', rfl, hu, hv'⟩
  | cons x g =>
    cases x with
    | char d => cases hg
    | feed =>
      -- between the two there are only line feeds, and this is the first of them
      have hg : dropped g = [] := hg
      refine absurd ⟨?_, ?_⟩ (h (u ++ [.char a]) (g ++ .char b :: v') (by simp))
      · rw [dropped_append, List.getLast?_append]
        rfl
      · rw [dropped_append, hg]
        rfl

theorem NeverBetween.exists_pair_of_head (h : NeverBetween a b (.char c :: w))
    (hw : dropped (.char c :: w) = a :: b :: r) :
    ∃ v, .char c :: w = .char a :: .char b :: v ∧ dropped v = r := by
  obtain ⟨u, v, he, hu, hv⟩ := h.exists_pair (s := []) hw
  cases u with
  | nil => exact ⟨v, he, hv⟩
  | cons x u =>
    obtain ⟨rfl, -⟩ := List.cons.inj he
    cases hu

/-- Two cells in a row, unless they are a backslash of the text and a line feed that was left. -/
def NotEscaped (x y : Cell) : Prop :=
  ¬ (x = .char '\\' ∧ y = .feed)

instance : DecidableRel NotEscaped :=
  fun _ _ => inferInstanceAs (Decidable (¬ _))

/-- **No marker of a block comment is kept apart.** -/
structure Unsplit (w : List Cell) : Prop where
  opening : NeverBetween '/' '*' w
  closing : NeverBetween '*' '/' w

/-- **No line feed matters to the passes behind block comments**: none keeps two slashes apart, none
ends a line comment, and none stands behind a backslash. -/
structure Harmless (w : List Cell) : Prop where
  slashes : NeverBetween '/' '/' w
  comment : EveryFeed (fun u _ => ¬ ['/', '/'] <:+: lastLine (kept u)) w
  escape : w.IsChain NotEscaped

instance : DecidablePred Unsplit :=
  fun _ => decidable_of_iff (_ ∧ _) ⟨fun h => ⟨h.1, h.2⟩, fun h => ⟨h.opening, h.closing⟩⟩

instance : DecidablePred Harmless :=
  fun _ => decidable_of_iff (_ ∧ _ ∧ _)
    ⟨fun h => ⟨h.1, h.2.1, h.2.2⟩, fun h => ⟨h.slashes, h.comment, h.escape⟩⟩

/-! ## Block comments -/

theorem Unsplit.of_suffix (h : Unsplit w) (hw : w' <:+ w) : Unsplit w' :=
  ⟨h.opening.of_infix hw.isInfix, h.closing.of_infix hw.isInfix⟩

theorem Unsplit.seenAlike (h : Unsplit (.char c :: w)) : SeenAlike blockComment (.char c :: w) where
  found := by
    intro u v hw hm
    obtain ⟨body, hbody, hu⟩ := exists_body_of_match_block hm
    -- the cells that are covered: the markers, which are characters of the text, and the body
    obtain ⟨u', rfl, hu'⟩ := exists_of_kept_pair (by decide) (by decide) hu
    obtain ⟨d, e, rfl, rfl, he⟩ := exists_of_kept_append hu'
    obtain ⟨e', rfl, he'⟩ := exists_of_kept_pair (by decide) (by decide) he
    obtain rfl : e' = [] := List.map_eq_nil_iff.mp he'
    rw [hw] at h ⊢
    have hclosing : NeverBetween '*' '/' d := h.closing.of_infix
      ⟨[.char '/', .char '*'], [.char '*', .char '/'] ++ v, by simp⟩
    have hd : ¬ ['*', '/'] <:+: dropped d := by
      rintro ⟨s, r, hd⟩
      obtain ⟨x, y, rfl, -, -⟩ := hclosing.exists_pair (s := s) (r := r) (by rw [← hd]; simp)
      exact hbody ⟨kept x, kept y, by simp⟩
    have hmatch : blockComment.match? ('/' :: '*' :: (dropped d ++ ['*', '/']) ++ dropped v) = _ :=
      match_block hd
    simpa using hmatch
  missed := by
    intro hm
    by_contra hne
    obtain ⟨s, r, hw⟩ := isSome_match_block_iff.mp (Option.isSome_iff_ne_none.mpr hne)
    obtain ⟨v, he, hv⟩ := h.opening.exists_pair_of_head hw
    rw [he] at h hm
    obtain ⟨x, y, rfl, -, -⟩ := (h.closing.of_infix
      (List.suffix_append [.char '/', .char '*'] v).isInfix).exists_pair hv
    have hsome := isSome_match_block_iff.mpr ⟨kept x, kept y, rfl⟩
    simp only [kept_char, kept_append] at hm
    rw [hm] at hsome
    cases hsome

/-- A round that takes block comments away and leaves their line feeds. -/
def withoutComments (w : List Cell) : List Cell :=
  substitute blockComment (fun comment => List.replicate (comment.count '\n') .feed) w

theorem kept_withoutComments (w : List Cell) :
    kept (withoutComments w) = blockComment.replace LineMode.keep.residue (kept w) := by
  refine kept_substitute (fun comment => ?_) w
  show kept (List.replicate _ _) = comment.filter (· = '\n')
  rw [List.filter_eq]
  exact List.map_replicate

theorem dropped_withoutComments (h : Unsplit w) :
    dropped (withoutComments w) = blockComment.replace LineMode.drop.residue (dropped w) := by
  refine dropped_substitute (r := []) (fun comment => ?_) (fun _ => rfl) fun c v hv =>
    (h.of_suffix hv).seenAlike
  exact List.filterMap_replicate_of_none rfl

/-- **No line feed that a block comment leaves is ever seen**, neither by a further round nor, when
no block comment is left, by the passes behind. -/
inductive Unseen : List Cell → Prop
  | done {w : List Cell} : blockComment.occursIn (kept w) = false → Unsplit w → Harmless w →
      Unseen w
  | round {w : List Cell} : Unsplit w → Unseen (withoutComments w) → Unseen w

/-- **Both modes take the same block comments away.** -/
theorem Unseen.exists_stripBlocks (h : Unseen w) :
    ∃ v, kept v = stripBlocks .keep (kept w) ∧ dropped v = stripBlocks .drop (dropped w) ∧
      Harmless v := by
  induction h with
  | @done w hkept hw hharmless =>
    -- both markers of a comment in the one reading stand together in the other
    have hdropped : blockComment.occursIn (dropped w) = false := by
      by_contra hocc
      obtain ⟨x, y, z, hxyz⟩ := block_occursIn_iff.mp (eq_true_of_ne_false hocc)
      obtain ⟨u, v, rfl, -, hv⟩ := hw.opening.exists_pair hxyz
      obtain ⟨u', v', rfl, -, -⟩ := (hw.closing.of_infix
        ⟨u ++ [.char '/', .char '*'], [], by simp⟩).exists_pair hv
      have hocc := block_occursIn_iff.mpr ⟨kept u, kept u', kept v', rfl⟩
      simp only [kept_char, kept_append] at hkept
      rw [hkept] at hocc
      cases hocc
    exact ⟨w, (stripBlocks_eq_self hkept).symm, (stripBlocks_eq_self hdropped).symm, hharmless⟩
  | round hw _ ih =>
    obtain ⟨v, hkept, hdropped, hharmless⟩ := ih
    rw [kept_withoutComments, stripBlocks_replace] at hkept
    rw [dropped_withoutComments hw, stripBlocks_replace] at hdropped
    exact ⟨v, hkept, hdropped, hharmless⟩

/-! ## Line comments -/

/-- Behind a line comment there is no line feed that was left. -/
theorem Harmless.head_ne_feed (h : Harmless w) (hw : u ++ v <:+ w)
    (hm : lineComment.match? (kept (u ++ v)) = some (kept u, kept v)) : v.head? ≠ some .feed := by
  intro hv
  obtain ⟨v', rfl⟩ := List.head?_eq_some_iff.mp hv
  obtain ⟨x, rfl⟩ := hw
  obtain ⟨body, hu, -⟩ := exists_body_of_match_line hm
  -- the comment stands on the line of that line feed
  refine h.comment (x ++ u) v' (by simp) ?_
  rw [kept_append, lastLine_append (newline_not_mem_of_match_line hm), hu]
  exact ⟨lastLine (kept x), body, by simp⟩

theorem Harmless.seenAlike_line (h : Harmless w) (hw : .char c :: v <:+ w) :
    SeenAlike lineComment (.char c :: v) where
  found := by
    intro u v' he hm
    have hbehind := head_of_match_line hm
    obtain ⟨body, hu, hbody⟩ := exists_body_of_match_line hm
    rw [he] at hw hm ⊢
    have hne := h.head_ne_feed hw hm
    obtain ⟨d, rfl, rfl⟩ := exists_of_kept_pair (by decide) (by decide) hu
    rw [dropped_append, dropped_char, dropped_char, dropped_eq_kept hbody]
    refine match_line hbody fun x hx => ?_
    -- what follows is read alike, since it does not begin with a line feed that was left
    cases v' with
    | nil => cases hx
    | cons y v' =>
      cases y with
      | feed => exact absurd rfl hne
      | char d' => exact hbehind x hx
  missed := by
    intro hm
    by_contra hne
    obtain ⟨r, hr⟩ := exists_of_match_line hne
    obtain ⟨v', he, -⟩ := (h.slashes.of_infix hw.isInfix).exists_pair_of_head hr
    rw [he] at hm
    cases hm

/-- **A pass brings no line feed behind a backslash**, if it replaces a match by two quotes, or
takes it away where no line feed follows. -/
theorem isChain_substitute (hw : w.IsChain NotEscaped)
    (hmatch : ∀ u v, u ++ v <:+ w → p.match? (kept (u ++ v)) = some (kept u, kept v) →
      (∃ q : Quote, f (kept u) = [.char q.char, .char q.char]) ∨
        f (kept u) = [] ∧ v.head? ≠ some .feed) :
    (substitute p f w).IsChain NotEscaped ∧
      ((substitute p f w).head? = some .feed → w.head? = some .feed) := by
  fun_induction substitute p f w with
  | case1 => exact ⟨.nil, id⟩
  | case2 x xs hm ih =>
    rw [List.isChain_cons] at hw
    obtain ⟨hchain, hhead⟩ := ih hw.2 fun u v huv => hmatch u v (huv.trans (List.suffix_cons x xs))
    refine ⟨List.isChain_cons.mpr ⟨?_, hchain⟩, id⟩
    -- a line feed behind `x` in the result was behind it before
    rintro y hy ⟨hx, rfl⟩
    exact hw.1 .feed (hhead hy) ⟨hx, rfl⟩
  | case3 x xs covered rest hm ih =>
    obtain ⟨u, v, he, rfl, rfl, hdrop⟩ := exists_cells_of_match hm
    rw [hdrop] at ih ⊢
    rw [he] at hw hmatch hm
    obtain ⟨hchain, hhead⟩ := ih hw.right_of_append fun u' v' huv =>
      hmatch u' v' (huv.trans (List.suffix_append u v))
    obtain ⟨q, hq⟩ | ⟨hnil, hne⟩ := hmatch u v List.suffix_rfl hm
    · rw [hq]
      have hquote : ∀ y, NotEscaped (.char q.char) y := fun y hy =>
        q.char_ne (by decide) (Cell.char.inj hy.1)
      have hsecond := List.isChain_cons.mpr ⟨fun y _ => hquote y, hchain⟩
      exact ⟨List.isChain_cons.mpr ⟨fun y _ => hquote y, hsecond⟩, fun h => by cases h⟩
    · rw [hnil]
      exact ⟨hchain, fun h => absurd (hhead h) hne⟩

/-- **Both modes take the same line comments away.** -/
theorem Harmless.exists_stripLines (h : Harmless w) :
    ∃ v, kept v = stripLines (kept w) ∧ dropped v = stripLines (dropped w) ∧
      v.IsChain NotEscaped := by
  refine ⟨substitute lineComment (fun _ => []) w, kept_substitute (fun _ => rfl) w,
    dropped_substitute (fun _ => rfl) (fun _ => rfl) fun c v hv => h.seenAlike_line hv, ?_⟩
  exact (isChain_substitute h.escape fun u v hw hm => .inr ⟨rfl, h.head_ne_feed hw hm⟩).1

/-! ## Literals -/

/-- Without line feeds a body is still one: none of them was part of an escape pair. -/
theorem LiteralBody.dropped {q : Quote} (h : LiteralBody q.char (kept w)) :
    LiteralBody q.char (dropped w) := by
  generalize ht : kept w = t at h
  induction h generalizing w with
  | nil =>
    obtain rfl : w = [] := List.map_eq_nil_iff.mp ht
    exact .nil
  | plain hc hb _ ih =>
    obtain ⟨x, w, rfl, rfl, hw⟩ := List.map_eq_cons_iff.mp ht
    cases x with
    | feed =>
      rw [dropped_feed]
      exact ih hw
    | char c => exact .plain hc hb (ih hw)
  | escape hc _ ih =>
    obtain ⟨w, rfl, hw⟩ := exists_of_kept_pair (by decide) hc ht
    exact .escape hc (ih hw)

/-- With line feeds a body is still one, if none of them stands behind a backslash. -/
theorem literalBody_kept {q : Quote} :
    ∀ {w : List Cell}, w.IsChain NotEscaped → LiteralBody q.char (dropped w) →
      LiteralBody q.char (kept w)
  | [], _, _ => .nil
  | .feed :: w, hw, h =>
    .plain (q.char_ne (by decide)).symm (by decide) (literalBody_kept hw.tail h)
  | .char c :: w, hw, h => by
    rw [dropped_char] at h
    generalize ht : dropped w = t at h
    cases h with
    | plain hc hb h =>
      rw [← ht] at h
      exact .plain hc hb (literalBody_kept hw.tail h)
    | escape hc h =>
      match w with
      | [] => cases ht
      | .feed :: w => exact absurd ⟨rfl, rfl⟩ ((List.isChain_cons.mp hw).1 .feed rfl)
      | .char d :: w =>
        obtain ⟨rfl, rfl⟩ := List.cons.inj ht
        exact .escape hc (literalBody_kept hw.tail.tail h)

theorem seenAlike_literal (q : Quote) (hw : (Cell.char c :: w).IsChain NotEscaped) :
    SeenAlike (literal q.char) (.char c :: w) where
  found := by
    intro u v he hm
    obtain ⟨body, hbody, hu, -⟩ := exists_body_of_match hm
    obtain ⟨u', rfl, hu'⟩ := exists_of_kept_cons (q.char_ne (by decide)) hu
    obtain ⟨d, e, rfl, rfl, he'⟩ := exists_of_kept_append hu'
    obtain ⟨e', rfl, he''⟩ := exists_of_kept_cons (q.char_ne (by decide)) he'
    obtain rfl : e' = [] := List.map_eq_nil_iff.mp he''
    rw [he]
    simpa using match_literal hbody.dropped (q.char_ne (by decide)) (dropped v)
  missed := by
    intro hm
    by_contra hne
    obtain ⟨⟨m, rest⟩, hsome⟩ := Option.ne_none_iff_exists'.mp hne
    obtain ⟨body, hbody, -, ht⟩ := exists_body_of_match hsome
    obtain ⟨rfl, hrest⟩ := List.cons.inj ht
    obtain ⟨d, v, rfl, rfl, -⟩ := exists_of_dropped_append hrest
    have hd := literalBody_kept hw.tail.left_of_append hbody
    have hmatch := match_literal hd (q.char_ne (by decide)) (kept v)
    simp only [kept_char, kept_append] at hm
    rw [List.cons_append, List.append_assoc, List.singleton_append, hm] at hmatch
    cases hmatch

/-- **Both modes empty the same literals.** -/
theorem exists_emptyLiterals (q : Quote) (hw : w.IsChain NotEscaped) :
    ∃ v, kept v = emptyLiterals q.char (kept w) ∧ dropped v = emptyLiterals q.char (dropped w) ∧
      v.IsChain NotEscaped := by
  refine ⟨substitute (literal q.char) (fun _ => [.char q.char, .char q.char]) w,
    kept_substitute (fun _ => rfl) w,
    dropped_substitute (fun _ => rfl) (fun _ => ?_) fun c v hv => ?_, ?_⟩
  · exact match_literal_cons_ne (q.char_ne (by decide)).symm
  · exact seenAlike_literal q (hw.suffix hv)
  · exact (isChain_substitute hw fun u v _ _ => .inl ⟨q, rfl⟩).1

/-! ## The verdict -/

/-- **Both modes leave the same delimiters**, if no line feed is ever seen. -/
theorem delimiters_sanitize (h : Unseen (t.map .char)) :
    delimiters (sanitize .keep t) = delimiters (sanitize .drop t) := by
  obtain ⟨w₁, hkept, hdropped, hharmless⟩ := h.exists_stripBlocks
  obtain ⟨w₂, hkept₂, hdropped₂, hchain⟩ := hharmless.exists_stripLines
  obtain ⟨w₃, hkept₃, hdropped₃, hchain⟩ := exists_emptyLiterals .single hchain
  obtain ⟨w₄, hkept₄, hdropped₄, hchain⟩ := exists_emptyLiterals .double hchain
  obtain ⟨w₅, hkept₅, hdropped₅, -⟩ := exists_emptyLiterals .backtick hchain
  rw [kept_map_char] at hkept
  rw [dropped_map_char] at hdropped
  have hkeep : sanitize .keep t = kept w₅ := by
    rw [hkept₅, hkept₄, hkept₃, hkept₂, hkept]
    rfl
  have hdrop : sanitize .drop t = dropped w₅ := by
    rw [hdropped₅, hdropped₄, hdropped₃, hdropped₂, hdropped]
    rfl
  rw [hkeep, hdrop, delimiters_kept]

/-- **The line mode affects places only**, if no line feed that a block comment leaves is ever seen.
A check in the one mode and a check in the other come to the same verdict; if a setting is refused,
both refuse it. -/
theorem verdict_of_unseen {t : Text} (h : Unseen (t.map .char)) (name : String)
    (settings : List Setting) :
    (∀ options, Options.ofSettings settings = .ok options →
      ∃ r r', check name .keep t settings = .ok r ∧ check name .drop t settings = .ok r' ∧
        SameVerdict r r') ∧
    ∀ e, Options.ofSettings settings = .error e →
      check name .keep t settings = .error e ∧ check name .drop t settings = .error e := by
  rw [check_eq, check_eq]
  constructor
  · intro options ho
    rw [ho]
    exact ⟨_, _, rfl, rfl, sameVerdict_of_delimiters (delimiters_sanitize h) name options⟩
  · intro e he
    rw [he]
    exact ⟨rfl, rfl⟩

/-- Taking the first comment away joins a slash and a star on one line; the line feed of the second
comment, which they open, is not seen. -/
theorem verdict_of_unseen_joined :
    let t := ['/', '/', '*', 'a', '*', '/', '*', '\n', '*', '/', '(']
    Unseen (t.map .char) ∧
      ∃ r r', check "a" .keep t [] = .ok r ∧ check "a" .drop t [] = .ok r' ∧ SameVerdict r r' := by
  intro t
  have hfirst : withoutComments (t.map .char)
      = [.char '/', .char '*', .char '\n', .char '*', .char '/', .char '('] := by cbv
  have hsecond : withoutComments
      [.char '/', .char '*', .char '\n', .char '*', .char '/', .char '('] = [.feed, .char '('] := by
    cbv
  have h : Unseen (t.map .char) := by
    refine .round (by decide) ?_
    rw [hfirst]
    refine .round (by decide) ?_
    rw [hsecond]
    exact .done (by decide) (by decide) (by decide)
  exact ⟨h, (verdict_of_unseen h "a" []).1 {} rfl⟩

/-- **A line feed that is seen can change the verdict.** It ends a line comment, keeps the opening
marker of a block comment apart, its closing marker, or two slashes, or stands behind a backslash in
what would be a literal. -/
theorem verdict_changed_by_feed :
    let verdict := fun (mode : LineMode) (t : String) =>
      (check "a" mode t.toList []).map fun r => (r.outcome, r.depth)
    verdict .keep "// /*\n*/)" ≠ verdict .drop "// /*\n*/)" ∧
      verdict .keep "//*\n*/*(*/" ≠ verdict .drop "//*\n*/*(*/" ∧
      verdict .keep "//*a*/*(*/*\n*//" ≠ verdict .drop "//*a*/*(*/*\n*//" ∧
      verdict .keep "//*\n*//(" ≠ verdict .drop "//*\n*//(" ∧
      verdict .keep "'\\/*\n*/('" ≠ verdict .drop "'\\/*\n*/('" := by
  intro verdict
  -- what the two modes leave is computed, and then scanned
  have of_sanitize : ∀ {t : String} {u v : Text}, sanitize .keep t.toList = u →
      sanitize .drop t.toList = v →
      ((Report.ofText "a" {} u).outcome, (Report.ofText "a" {} u).depth)
        ≠ ((Report.ofText "a" {} v).outcome, (Report.ofText "a" {} v).depth) →
      verdict .keep t ≠ verdict .drop t := by
    intro t u v hu hv hne h
    have h : (check "a" .keep t.toList []).map _ = (check "a" .drop t.toList []).map _ := h
    rw [check_eq, check_eq, hu, hv] at h
    exact hne (Except.ok.inj h)
  refine ⟨of_sanitize (u := ['\n', ')']) (v := []) ?_ ?_ (by decide),
    of_sanitize (u := ['/', '\n', '*', '(', '*', '/']) (v := []) ?_ ?_ (by decide),
    of_sanitize (u := ['/', '*', '(', '*', '\n', '/']) (v := []) ?_ ?_ (by decide),
    of_sanitize (u := ['/', '\n', '/', '(']) (v := []) ?_ ?_ (by decide),
    of_sanitize (u := ['\'', '\\', '\n', '(', '\'']) (v := ['\'', '\'']) ?_ ?_ (by decide)⟩
  all_goals cbv

end Nesting
