import Nesting.Proofs.Rendering

/-!
# Plain lines can be read back

The plain lines of a report run words, numbers, delimiters and a stretch of the text together, with
nothing to mark where one of them ends. They can be told apart nevertheless. A delimiter is one
character. A number is followed by a blank, a comma or the end of the line, none of which is part of
a number (`numeral_append_inj`), and so an entry can be told from what follows it
(`describe_append_inj`) and a list of entries falls into its entries. The stretch of the text comes
last and is on one line, so that it ends where the line ends.

So two reports of scans have the same plain lines exactly if they say the same (`TellsTheSame`),
whatever the texts are that were scanned: no text can make its report look like another one.
-/

namespace Nesting

variable {r r' : Report} {e e' : Entry} {u v : Text}

/-! ## Numbers -/

/-- Whether a character can be part of a number. -/
def isFigure (c : Char) : Bool :=
  c.isDigit || c = '-'

/-- How a number is written. -/
def numeral (n : Int) : Text :=
  (toString n).toList

/-- A number is written by its digits, behind a sign if it is negative. -/
theorem numeral_eq (n : Int) :
    numeral n = if 0 ≤ n then Nat.toDigits 10 n.toNat else '-' :: Nat.toDigits 10 (-n).toNat := by
  unfold numeral
  rw [Int.toString_eq_repr, Int.repr_eq_if]
  split
  · exact Nat.toList_repr
  · rw [String.toList_append, Nat.toList_repr]
    rfl

theorem isFigure_of_mem_numeral {n : Int} {c : Char} (h : c ∈ numeral n) : isFigure c = true := by
  have hdigit : ∀ {k : Nat}, c ∈ Nat.toDigits 10 k → isFigure c = true := by
    intro k hk
    unfold isFigure
    rw [Nat.isDigit_of_mem_toDigits (by decide) (by decide) hk, Bool.true_or]
  rw [numeral_eq] at h
  split at h
  · exact hdigit h
  · obtain rfl | h := List.mem_cons.mp h
    · decide
    · exact hdigit h

theorem toDigits_ten_inj {k l : Nat} (h : Nat.toDigits 10 k = Nat.toDigits 10 l) : k = l := by
  have h := congrArg (Nat.ofDigitChars 10 · 0) h
  rwa [Nat.ofDigitChars_toDigits (by decide) (by decide),
    Nat.ofDigitChars_toDigits (by decide) (by decide)] at h

/-- Digits have no sign among them. -/
theorem toDigits_ten_ne_minus_cons (k : Nat) (u : Text) : Nat.toDigits 10 k ≠ '-' :: u := by
  intro h
  have hmem : '-' ∈ Nat.toDigits 10 k := by
    rw [h]
    exact List.mem_cons_self
  have hdigit := Nat.isDigit_of_mem_toDigits (by decide) (by decide) hmem
  revert hdigit
  decide

theorem numeral_injective {m n : Int} (h : numeral m = numeral n) : m = n := by
  rw [numeral_eq, numeral_eq] at h
  split at h <;> split at h
  · have h := toDigits_ten_inj h
    omega
  · exact absurd h (toDigits_ten_ne_minus_cons _ _)
  · exact absurd h.symm (toDigits_ten_ne_minus_cons _ _)
  · have h := toDigits_ten_inj (List.tail_eq_of_cons_eq h)
    omega

/-- **What follows a number does not belong to it.** -/
def StopsNumber (u : Text) : Prop :=
  ∀ c ∈ u.head?, isFigure c = false

theorem stopsNumber_cons {c : Char} (h : isFigure c = false) (u : Text) : StopsNumber (c :: u) := by
  intro d hd
  rw [← Option.some.inj hd]
  exact h

theorem takeWhile_isFigure_append (n : Int) (h : StopsNumber u) :
    (numeral n ++ u).takeWhile isFigure = numeral n := by
  rw [List.takeWhile_append_of_pos fun c hc => isFigure_of_mem_numeral hc]
  cases u with
  | nil => exact List.append_nil _
  | cons c u =>
    rw [List.takeWhile_cons_of_neg (by rw [h c rfl]; exact Bool.false_ne_true), List.append_nil]

/-- **A number can be told from what follows it.** -/
theorem numeral_append_inj {m n : Int} (hu : StopsNumber u) (hv : StopsNumber v)
    (h : numeral m ++ u = numeral n ++ v) : m = n ∧ u = v := by
  have hdigits := congrArg (List.takeWhile isFigure) h
  rw [takeWhile_isFigure_append m hu, takeWhile_isFigure_append n hv] at hdigits
  rw [hdigits] at h
  exact ⟨numeral_injective hdigits, List.append_cancel_left h⟩

/-! ## Entries -/

/-- **What plain lines show of an entry**: the delimiter, its line and its column. -/
def Entry.shown (e : Entry) : CodePoint × Int × Int :=
  (e.delimiter, e.line, e.column)

/-- **An entry fits on a line** if its delimiter is a character, and not a line feed. -/
structure Entry.OnLine (e : Entry) : Prop where
  delimiter_eq : e.delimiter = CodePoint.ofChar e.glyph
  glyph_ne : e.glyph ≠ '\n'

theorem toList_describe (e : Entry) :
    e.describe.toList
      = e.glyph :: ' ' :: 'a' :: 't' :: ' ' :: (numeral e.line ++ ' ' :: numeral e.column) := by
  unfold Entry.describe Entry.place numeral
  simp [String.toList_append]

/-- Nothing else of an entry is shown. -/
theorem describe_congr (h : e.shown = e'.shown) : e.describe = e'.describe := by
  obtain ⟨hdelimiter, hplace⟩ := Prod.mk.inj h
  obtain ⟨hline, hcolumn⟩ := Prod.mk.inj hplace
  unfold Entry.describe Entry.place Entry.glyph
  rw [hdelimiter, hline, hcolumn]

theorem map_describe_congr {es es' : List Entry} (h : es.map Entry.shown = es'.map Entry.shown) :
    es.map Entry.describe = es'.map Entry.describe := by
  have hmap := congrArg (List.map fun x => (Entry.mk x.1 x.2.1 x.2.2 0).describe) h
  rw [List.map_map, List.map_map] at hmap
  exact hmap

/-- **An entry can be told from what follows it.** -/
theorem describe_append_inj (he : e.OnLine) (he' : e'.OnLine) (hu : StopsNumber u)
    (hv : StopsNumber v) (h : e.describe.toList ++ u = e'.describe.toList ++ v) :
    e.shown = e'.shown ∧ u = v := by
  rw [toList_describe, toList_describe] at h
  simp only [List.cons_append, List.append_assoc, List.cons.injEq, true_and] at h
  obtain ⟨hglyph, hplace⟩ := h
  obtain ⟨hline, hrest⟩ := numeral_append_inj (stopsNumber_cons (by decide) _)
    (stopsNumber_cons (by decide) _) hplace
  obtain ⟨hcolumn, htail⟩ := numeral_append_inj hu hv (List.cons.inj hrest).2
  have hdelimiter : e.delimiter = e'.delimiter := by
    rw [he.delimiter_eq, he'.delimiter_eq, hglyph]
  exact ⟨Prod.ext hdelimiter (Prod.ext hline hcolumn), htail⟩

theorem newline_not_mem_numeral (n : Int) : '\n' ∉ numeral n := by
  intro h
  exact absurd (isFigure_of_mem_numeral h) (by decide)

theorem newline_not_mem_describe (he : e.OnLine) : '\n' ∉ e.describe.toList := by
  rw [toList_describe]
  have hline := newline_not_mem_numeral e.line
  have hcolumn := newline_not_mem_numeral e.column
  simp [he.glyph_ne.symm, hline, hcolumn]

/-! ## Lists of entries -/

/-- Entries as plain lines list them. -/
def listing (es : List Entry) : Text :=
  (", ".intercalate (es.map Entry.describe)).toList

theorem listing_singleton (e : Entry) : listing [e] = e.describe.toList := by
  unfold listing
  rw [String.toList_intercalate]
  exact List.intercalate_singleton

theorem listing_cons_cons (e e' : Entry) (es : List Entry) :
    listing (e :: e' :: es) = e.describe.toList ++ (',' :: ' ' :: listing (e' :: es)) := by
  unfold listing
  rw [String.toList_intercalate, String.toList_intercalate, List.map_cons, List.map_cons,
    List.map_cons, List.map_cons, List.intercalate_cons_cons, List.append_assoc]
  rfl

theorem newline_not_mem_listing {es : List Entry} (h : ∀ e ∈ es, e.OnLine) : '\n' ∉ listing es := by
  induction es with
  | nil => exact List.not_mem_nil
  | cons e es ih =>
    have he := newline_not_mem_describe (h e List.mem_cons_self)
    have ih := ih fun e he => h e (List.mem_cons_of_mem _ he)
    cases es with
    | nil =>
      rw [listing_singleton]
      exact he
    | cons e' es =>
      rw [listing_cons_cons]
      simp [he, ih]

/-- **A list of entries can be taken apart**, as long as there is one. -/
theorem listing_inj {es es' : List Entry} (h : ∀ e ∈ es, e.OnLine) (h' : ∀ e ∈ es', e.OnLine)
    (hne : es ≠ []) (hne' : es' ≠ []) (heq : listing es = listing es') :
    es.map Entry.shown = es'.map Entry.shown := by
  induction es generalizing es' with
  | nil => exact absurd rfl hne
  | cons e es ih =>
    cases es' with
    | nil => exact absurd rfl hne'
    | cons e' es' =>
      have he := h e List.mem_cons_self
      have he' := h' e' List.mem_cons_self
      -- a comma follows an entry that is not the last one, and nothing follows the last one
      have hcomma : ∀ u, StopsNumber (',' :: u) := stopsNumber_cons (by decide)
      have hnil : StopsNumber [] := nofun
      cases es with
      | nil =>
        rw [listing_singleton, ← List.append_nil e.describe.toList] at heq
        cases es' with
        | nil =>
          rw [listing_singleton, ← List.append_nil e'.describe.toList] at heq
          obtain ⟨hshown, -⟩ := describe_append_inj he he' hnil hnil heq
          rw [List.map_cons, List.map_cons, hshown]
        | cons f' es' =>
          rw [listing_cons_cons] at heq
          obtain ⟨-, hrest⟩ := describe_append_inj he he' hnil (hcomma _) heq
          cases hrest
      | cons f es =>
        rw [listing_cons_cons] at heq
        cases es' with
        | nil =>
          rw [listing_singleton, ← List.append_nil e'.describe.toList] at heq
          obtain ⟨-, hrest⟩ := describe_append_inj he he' (hcomma _) hnil heq
          cases hrest
        | cons f' es' =>
          rw [listing_cons_cons] at heq
          obtain ⟨hshown, hrest⟩ := describe_append_inj he he' (hcomma _) (hcomma _) heq
          have htail := ih (fun e he => h e (List.mem_cons_of_mem _ he))
            (fun e he => h' e (List.mem_cons_of_mem _ he)) (List.cons_ne_nil _ _)
            (List.cons_ne_nil _ _) (List.cons.inj (List.cons.inj hrest).2).2
          rw [List.map_cons, hshown, htail]
          rfl

/-! ## Reports -/

/-- The line that lists openers, if there are any to list. -/
def topLine (es : List Entry) : Text :=
  if es = [] then [] else "Top of stack ".toList ++ (listing es ++ ['\n'])

/-- **How a report reads**: the three forms of its plain lines. -/
inductive Report.ReadsAs (r : Report) : Text → Prop
  | unmatched {closer : Entry} : r.outcome = .unmatched → r.closer = some closer → closer.OnLine →
      ReadsAs r ("Unmatched closing ".toList ++ (closer.describe.toList
        ++ (" context: ".toList ++ (r.context.toList ++ ['\n']))))
  | mismatched {opener closer : Entry} : r.outcome = .mismatched → r.opener = some opener →
      r.closer = some closer → opener.OnLine → closer.OnLine →
      ReadsAs r ("Mismatched ".toList ++ (opener.describe.toList ++ (" with ".toList
        ++ (closer.describe.toList ++ (" context: ".toList ++ (r.context.toList ++ ['\n']))))))
  | balanced : r.outcome = .balanced → (∀ e ∈ r.top, e.OnLine) →
      ReadsAs r ("OK, stack size ".toList ++ (numeral r.depth ++ '\n' :: topLine r.top))

theorem Report.exists_readsAs_of_pieces {pieces : List String}
    (hwrite : r.write = Writing.each Writing.write pieces)
    (hreads : r.ReadsAs (pieces.flatMap String.toList)) :
    ∃ s, r.write.text = .ok s ∧ r.ReadsAs s.toList := by
  refine ⟨String.join pieces, ?_, ?_⟩
  · rw [hwrite, Writing.text_each_write]
  · rw [String.toList_join]
    exact hreads

/-- **A complete report has plain lines**, in one of the three forms. -/
theorem Report.Complete.exists_readsAs (h : r.Complete) (honline : ∀ e ∈ r.entries, e.OnLine) :
    ∃ s, r.write.text = .ok s ∧ r.ReadsAs s.toList := by
  cases h with
  | balanced ho _ =>
    refine exists_readsAs_of_pieces
      (Report.write_eq_leftoverLines (by rw [ho]; decide) (by rw [ho]; decide)) ?_
    have hlines : r.leftoverLines.flatMap String.toList
        = "OK, stack size ".toList ++ (numeral r.depth ++ '\n' :: topLine r.top) := by
      unfold Report.leftoverLines topLine listing numeral
      by_cases hempty : r.top = [] <;> simp [hempty]
    rw [hlines]
    exact .balanced ho fun e he => honline e (List.mem_append_right _ he)
  | @unmatched closer ho hc =>
    have hwrite : r.write = Writing.each Writing.write
        ["Unmatched closing " ++ closer.describe ++ " context: " ++ r.context ++ "\n"] := by
      unfold Report.write
      rw [ho, hc]
      exact (Writing.each_singleton _ _).symm
    refine exists_readsAs_of_pieces hwrite ?_
    have hreads := ReadsAs.unmatched ho hc (honline closer (by simp [Report.entries, hc]))
    simpa using hreads
  | @mismatched opener closer ho hop hc =>
    have hwrite : r.write = Writing.each Writing.write
        ["Mismatched " ++ opener.describe ++ " with " ++ closer.describe
          ++ " context: " ++ r.context ++ "\n"] := by
      unfold Report.write
      rw [ho, hop, hc]
      exact (Writing.each_singleton _ _).symm
    refine exists_readsAs_of_pieces hwrite ?_
    have hreads := ReadsAs.mismatched ho hop hc (honline opener (by simp [Report.entries, hop]))
      (honline closer (by simp [Report.entries, hc]))
    simpa using hreads

/-! ## Reading plain lines back -/

/-- **Two reports tell the same**: the same outcome, and of the entries that it is about the same
delimiters at the same places. -/
structure TellsTheSame (r r' : Report) : Prop where
  outcome : r.outcome = r'.outcome
  /-- If a closer is at fault, it is the same one in the same context. -/
  closer : r.outcome ≠ .balanced → ∃ e e', r.closer = some e ∧ r'.closer = some e' ∧
    e.shown = e'.shown ∧ r.context = r'.context
  /-- If it met an opener, it is the same one. -/
  opener : r.outcome = .mismatched → ∃ e e', r.opener = some e ∧ r'.opener = some e' ∧
    e.shown = e'.shown
  /-- If openers are left, they are as many, and the same ones are listed. -/
  leftover : r.outcome = .balanced →
    r.depth = r'.depth ∧ r.top.map Entry.shown = r'.top.map Entry.shown

theorem stopsNumber_append (h : StopsNumber u) (hne : u ≠ []) (v : Text) :
    StopsNumber (u ++ v) := by
  unfold StopsNumber
  rw [List.head?_append_of_ne_nil u hne]
  exact h

theorem stopsNumber_with (u : Text) : StopsNumber (" with ".toList ++ u) :=
  stopsNumber_append (by simp [StopsNumber, isFigure]) (by simp) u

theorem stopsNumber_context (u : Text) : StopsNumber (" context: ".toList ++ u) :=
  stopsNumber_append (by simp [StopsNumber, isFigure]) (by simp) u

theorem context_inj {s s' : String} (h : s.toList ++ ['\n'] = s'.toList ++ ['\n']) : s = s' :=
  String.toList_inj.mp (List.append_cancel_right h)

theorem topLine_inj {es es' : List Entry} (h : ∀ e ∈ es, e.OnLine) (h' : ∀ e ∈ es', e.OnLine)
    (heq : topLine es = topLine es') : es.map Entry.shown = es'.map Entry.shown := by
  unfold topLine at heq
  by_cases hempty : es = []
  · rw [if_pos hempty] at heq
    by_cases hempty' : es' = []
    · rw [hempty, hempty']
    · rw [if_neg hempty'] at heq
      cases heq
  · rw [if_neg hempty] at heq
    by_cases hempty' : es' = []
    · rw [if_pos hempty'] at heq
      cases heq
    · rw [if_neg hempty'] at heq
      exact listing_inj h h' hempty hempty'
        (List.append_cancel_right (List.append_cancel_left heq))

/-- **Plain lines can be read back.** The first letter gives the outcome, and from there on each
part is told from the next. -/
theorem Report.ReadsAs.tellsTheSame (h : r.ReadsAs u) (h' : r'.ReadsAs u) : TellsTheSame r r' := by
  generalize hu : u = v at h'
  cases h with
  | unmatched ho hc he =>
    cases h' with
    | unmatched ho' hc' he' =>
      obtain ⟨hcloser, hrest⟩ := describe_append_inj he he' (stopsNumber_context _)
        (stopsNumber_context _) (List.append_cancel_left hu)
      have hcontext := context_inj (List.append_cancel_left hrest)
      refine ⟨ho.trans ho'.symm, fun _ => ⟨_, _, hc, hc', hcloser, hcontext⟩, ?_, ?_⟩
      · rw [ho]; exact nofun
      · rw [ho]; exact nofun
    | mismatched => simp at hu
    | balanced => simp at hu
  | mismatched ho hop hc he hec =>
    cases h' with
    | unmatched => simp at hu
    | mismatched ho' hop' hc' he' hec' =>
      obtain ⟨hopener, hrest⟩ := describe_append_inj he he' (stopsNumber_with _)
        (stopsNumber_with _) (List.append_cancel_left hu)
      obtain ⟨hcloser, hrest⟩ := describe_append_inj hec hec' (stopsNumber_context _)
        (stopsNumber_context _) (List.append_cancel_left hrest)
      have hcontext := context_inj (List.append_cancel_left hrest)
      refine ⟨ho.trans ho'.symm, fun _ => ⟨_, _, hc, hc', hcloser, hcontext⟩,
        fun _ => ⟨_, _, hop, hop', hopener⟩, ?_⟩
      rw [ho]; exact nofun
    | balanced => simp at hu
  | balanced ho htop =>
    cases h' with
    | unmatched => simp at hu
    | mismatched => simp at hu
    | balanced ho' htop' =>
      obtain ⟨hdepth, hrest⟩ := numeral_append_inj (stopsNumber_cons (by decide) _)
        (stopsNumber_cons (by decide) _) (List.append_cancel_left hu)
      refine ⟨ho.trans ho'.symm, fun hne => absurd ho hne, ?_,
        fun _ => ⟨hdepth, topLine_inj htop htop' (List.cons.inj hrest).2⟩⟩
      rw [ho]; exact nofun

/-- Reports that tell the same read alike. -/
theorem Report.ReadsAs.eq_of_tellsTheSame (h : r.ReadsAs u) (h' : r'.ReadsAs v)
    (hsame : TellsTheSame r r') : u = v := by
  have houtcome := hsame.outcome
  cases h with
  | unmatched ho hc _ =>
    rw [ho] at houtcome
    cases h' with
    | unmatched ho' hc' _ =>
      obtain ⟨e, e', he, he', hshown, hcontext⟩ := hsame.closer (by rw [ho]; decide)
      obtain rfl := Option.some.inj (he.symm.trans hc)
      obtain rfl := Option.some.inj (he'.symm.trans hc')
      rw [describe_congr hshown, hcontext]
    | mismatched ho' => cases houtcome.trans ho'
    | balanced ho' => cases houtcome.trans ho'
  | mismatched ho hop hc _ _ =>
    rw [ho] at houtcome
    cases h' with
    | unmatched ho' => cases houtcome.trans ho'
    | mismatched ho' hop' hc' _ _ =>
      obtain ⟨e, e', he, he', hshown, hcontext⟩ := hsame.closer (by rw [ho]; decide)
      obtain rfl := Option.some.inj (he.symm.trans hc)
      obtain rfl := Option.some.inj (he'.symm.trans hc')
      obtain ⟨o, o', ho, ho', hshown'⟩ := hsame.opener ho
      obtain rfl := Option.some.inj (ho.symm.trans hop)
      obtain rfl := Option.some.inj (ho'.symm.trans hop')
      rw [describe_congr hshown, describe_congr hshown', hcontext]
    | balanced ho' => cases houtcome.trans ho'
  | balanced ho _ =>
    obtain ⟨hdepth, htop⟩ := hsame.leftover ho
    rw [ho] at houtcome
    cases h' with
    | unmatched ho' => cases houtcome.trans ho'
    | mismatched ho' => cases houtcome.trans ho'
    | balanced =>
      have hempty : r.top = [] ↔ r'.top = [] := by
        rw [← List.map_eq_nil_iff (f := Entry.shown), htop, List.map_eq_nil_iff]
      unfold topLine listing
      simp only [hdepth, hempty, map_describe_congr htop]

/-! ## Lines -/

/-- **Plain lines end by a line feed**, and have no other one but that between the two lines of a
report that lists openers. -/
structure LineOriented (r : Report) (u : Text) : Prop where
  ends : u.getLast? = some '\n'
  count : u.count '\n' = if r.outcome = .balanced ∧ r.top ≠ [] then 2 else 1

theorem getLast?_append_newline (u : Text) (h : v.getLast? = some '\n') :
    (u ++ v).getLast? = some '\n' := by
  rw [List.getLast?_append, h]
  rfl

theorem getLast?_context (s : String) : (s.toList ++ ['\n']).getLast? = some '\n' :=
  getLast?_append_newline _ rfl

theorem getLast?_topLine {es : List Entry} (h : es ≠ []) : (topLine es).getLast? = some '\n' := by
  unfold topLine
  rw [if_neg h]
  exact getLast?_append_newline _ (getLast?_append_newline _ rfl)

theorem count_newline_topLine {es : List Entry} (h : ∀ e ∈ es, e.OnLine) :
    (topLine es).count '\n' = if es = [] then 0 else 1 := by
  unfold topLine
  split
  · rfl
  · rw [List.count_append, List.count_append,
      List.count_eq_zero_of_not_mem (newline_not_mem_listing h),
      List.count_eq_zero_of_not_mem (by simp)]
    rfl

theorem Report.ReadsAs.lineOriented (h : r.ReadsAs u) (hcontext : '\n' ∉ r.context.toList) :
    LineOriented r u := by
  have hzero : ∀ {w : Text}, '\n' ∉ w → w.count '\n' = 0 := List.count_eq_zero_of_not_mem
  cases h with
  | unmatched ho hc he =>
    refine ⟨?_, ?_⟩
    · exact getLast?_append_newline _ (getLast?_append_newline _
        (getLast?_append_newline _ (getLast?_context _)))
    · rw [if_neg (by rw [ho]; exact fun h => nomatch h.1)]
      simp only [List.count_append]
      rw [hzero (newline_not_mem_describe he), hzero hcontext, hzero (by simp), hzero (by simp)]
      rfl
  | mismatched ho hop hc he hec =>
    refine ⟨?_, ?_⟩
    · exact getLast?_append_newline _ (getLast?_append_newline _ (getLast?_append_newline _
        (getLast?_append_newline _ (getLast?_append_newline _ (getLast?_context _)))))
    · rw [if_neg (by rw [ho]; exact fun h => nomatch h.1)]
      simp only [List.count_append]
      rw [hzero (newline_not_mem_describe he), hzero (newline_not_mem_describe hec), hzero hcontext,
        hzero (by simp), hzero (by simp), hzero (by simp)]
      rfl
  | balanced ho htop =>
    refine ⟨?_, ?_⟩
    · refine getLast?_append_newline _ (getLast?_append_newline _ ?_)
      by_cases hempty : r.top = []
      · rw [hempty]
        rfl
      · exact getLast?_append_newline ['\n'] (getLast?_topLine hempty)
    · rw [List.count_append, List.count_append, List.count_cons_self, count_newline_topLine htop,
        hzero (newline_not_mem_numeral _), hzero (by simp)]
      by_cases hempty : r.top = [] <;> simp [ho, hempty]

/-! ## Reports of scans -/

theorem Mark.StandsIn.onLine {m : Mark} {t : Text} (h : m.StandsIn t) : m.entry.OnLine := by
  obtain ⟨p, c, u, rfl, hc, rfl⟩ := h
  have hglyph : (Mark.behind p c).entry.glyph = c := CodePoint.glyph_ofChar c
  refine ⟨by rw [hglyph]; rfl, ?_⟩
  rw [hglyph]
  exact ne_newline_of_isDelimiter hc

theorem newline_not_mem_onOneLine (t : Text) : '\n' ∉ onOneLine t := by
  unfold onOneLine
  intro h
  obtain ⟨c, -, hc⟩ := List.mem_flatMap.mp h
  split at hc
  · simp at hc
  · rename_i hne
    exact hne (List.mem_singleton.mp hc).symm

/-- The context of a report is on one line. -/
theorem newline_not_mem_context (name : String) (options : Options) (t : Text) (halt : Scan.Halt) :
    '\n' ∉ (Report.ofHalt name options t halt).context.toList := by
  unfold Report.ofHalt
  cases halt.verdict with
  | balanced => exact List.not_mem_nil
  | unmatched closer =>
    show '\n' ∉ (String.ofList (onOneLine _)).toList
    rw [String.toList_ofList]
    exact newline_not_mem_onOneLine _
  | mismatched opener closer =>
    show '\n' ∉ (String.ofList (onOneLine _)).toList
    rw [String.toList_ofList]
    exact newline_not_mem_onOneLine _

/-- **The report of a scan reads in one of the three ways**, line by line. -/
theorem exists_readsAs_of_scan {name : String} {t : Text} {settings : List Setting}
    {scanner : Scanner} (h : Scanner.ofSettings name t settings = .ok scanner) :
    ∃ s, scanner.scan.1.write.text = .ok s ∧ scanner.scan.1.ReadsAs s.toList ∧
      LineOriented scanner.scan.1 s.toList := by
  rw [report_scan h]
  have hcontext := newline_not_mem_context name scanner.options t (Scan.scan t)
  have hcomplete := complete_ofHalt name scanner.options t (Scan.scan t)
  have honline : ∀ e ∈ (Report.ofHalt name scanner.options t (Scan.scan t)).entries, e.OnLine := by
    intro e he
    obtain ⟨m, hm, rfl⟩ := exists_mark_of_mem_entries (Scan.ends_scan t) he
    exact hm.onLine
  obtain ⟨s, htext, hreads⟩ := hcomplete.exists_readsAs honline
  exact ⟨s, htext, hreads, hreads.lineOriented hcontext⟩

/-- **Plain lines are unambiguous and line by line.** Two reports of scans, whatever was scanned
under whatever name and settings, have the same plain lines exactly if they tell the same. -/
theorem plain_lines_unambiguous {name name' : String} {t t' : Text}
    {settings settings' : List Setting} {scanner scanner' : Scanner}
    (h : Scanner.ofSettings name t settings = .ok scanner)
    (h' : Scanner.ofSettings name' t' settings' = .ok scanner') :
    ∃ s s', scanner.scan.1.write.text = .ok s ∧ scanner'.scan.1.write.text = .ok s' ∧
      (s = s' ↔ TellsTheSame scanner.scan.1 scanner'.scan.1) ∧
      LineOriented scanner.scan.1 s.toList ∧ LineOriented scanner'.scan.1 s'.toList := by
  obtain ⟨s, htext, hreads, hlines⟩ := exists_readsAs_of_scan h
  obtain ⟨s', htext', hreads', hlines'⟩ := exists_readsAs_of_scan h'
  refine ⟨s, s', htext, htext', ⟨?_, ?_⟩, hlines, hlines'⟩
  · rintro rfl
    exact hreads.tellsTheSame hreads'
  · intro hsame
    exact String.toList_inj.mp (hreads.eq_of_tellsTheSame hreads' hsame)

/-- Two texts that differ behind the closer only, out of sight of the context: the plain lines are
the same, and the line feed before the bracket does not break them. -/
theorem plain_lines_unambiguous_short_radius :
    let t := ['(', '\n', ']']
    let t' := ['(', '\n', ']', 'x']
    let scanner : Scanner := { name := "a", text := t, options := { contextRadius := 1 } }
    let scanner' : Scanner := { name := "b", text := t', options := { contextRadius := 1 } }
    Scanner.ofSettings "a" t [.contextRadius 1] = .ok scanner ∧
      Scanner.ofSettings "b" t' [.contextRadius 1] = .ok scanner' ∧
      scanner.scan.1.write.text = .ok "Mismatched ( at 1 1 with ] at 2 1 context: \\n]\n" ∧
      TellsTheSame scanner.scan.1 scanner'.scan.1 := by
  intro t t' scanner scanner'
  have h : Scanner.ofSettings "a" t [.contextRadius 1] = .ok scanner := rfl
  have h' : Scanner.ofSettings "b" t' [.contextRadius 1] = .ok scanner' := rfl
  have htext : scanner.scan.1.write.text
      = .ok "Mismatched ( at 1 1 with ] at 2 1 context: \\n]\n" := by decide +kernel
  have htext' : scanner'.scan.1.write.text
      = .ok "Mismatched ( at 1 1 with ] at 2 1 context: \\n]\n" := by decide +kernel
  obtain ⟨s, s', hs, hs', hiff, -⟩ := plain_lines_unambiguous h h'
  have heq : s = s' :=
    (Except.ok.inj (hs.symm.trans htext)).trans (Except.ok.inj (htext'.symm.trans hs'))
  exact ⟨h, h', htext, hiff.mp heq⟩

end Nesting
