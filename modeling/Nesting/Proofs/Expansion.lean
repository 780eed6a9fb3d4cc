import Nesting.Proofs.Configuration
import Mathlib.Data.List.Basic

/-!
# Where the environment enters a configuration file

Of the formats of configuration files only lines of assignments look at environment variables, and
only where a value has a dollar sign. Nothing on the way from the bytes of a file to the values in
it makes a dollar sign that was not there: lines are cut out of the text, values out of lines, and
what a backslash stands for is a line feed, a carriage return or the character behind it. So a file
without a dollar sign holds the same values in every environment (`load_eq_of_files`).
-/

namespace Nesting

namespace Dotenv

open Utf8 (Piece)
open Utf8.Piece (char)

/-! ## What is cut out of a line -/

theorem trimmedLine_subset (t : Line) : trimmedLine t ⊆ t := by
  intro c hc
  have hc : c ∈ (t.dropWhile (Piece.isCharWith isBlank)).reverse :=
    (List.dropWhile_suffix _).subset (List.mem_reverse.mp hc)
  exact (List.dropWhile_suffix _).subset (List.mem_reverse.mp hc)

theorem frontTo?_subset {quote : Piece} {t front : Line} (h : frontTo? quote t = some front) :
    front ⊆ t := by
  induction t generalizing front with
  | nil => cases h
  | cons c rest ih =>
    rw [frontTo?] at h
    cases hrest : frontTo? quote rest with
    | some behind =>
      rw [hrest] at h
      cases h
      exact List.cons_subset_cons c (ih hrest)
    | none =>
      rw [hrest] at h
      dsimp only at h
      split at h
      · cases h
        simp
      · cases h

theorem written?_subset {t v : Line} (h : written? t = some v) : v ⊆ t := by
  have hquoted : ∀ {quote : Piece} {rest front : Line},
      (frontTo? quote rest).map (quote :: ·) = some front → front ⊆ quote :: rest := by
    intro quote rest front hfront
    obtain ⟨behind, hbehind, rfl⟩ := Option.map_eq_some_iff.mp hfront
    exact List.cons_subset_cons quote (frontTo?_subset hbehind)
  unfold written? at h
  dsimp only at h
  split at h
  · rename_i front hfront
    cases h
    split at hfront
    · exact hquoted hfront
    · exact hquoted hfront
    · cases hfront
  · split at h
    · cases h
      exact (List.takeWhile_prefix _).subset
    · cases h

theorem subset_of_mem_valueStarts {t u : Line} (h : u ∈ valueStarts t) : u ⊆ t := by
  unfold valueStarts at h
  split at h
  · rename_i t _ _ rest heq
    cases List.mem_singleton.mp h
    have hrest : rest ⊆ t := by
      have hsub : char '=' :: rest ⊆ t := heq ▸ (List.dropWhile_suffix _).subset
      exact List.Subset.trans (List.subset_cons_self _ _) hsub
    exact List.Subset.trans (List.dropWhile_suffix _).subset hrest
  · obtain ⟨i, -, rfl⟩ := List.mem_map.mp h
    exact List.Subset.trans (List.drop_subset _ _) (List.subset_cons_self _ _)
  · cases h

theorem assignment?_subset {t v : Line} {name : String} (h : assignment? t = some (name, v)) :
    v ⊆ t := by
  unfold assignment? at h
  dsimp only at h
  split at h
  · cases h
  · obtain ⟨u, hu, heq⟩ := Option.map_eq_some_iff.mp h
    cases heq
    obtain ⟨start, hstart, hwritten⟩ := List.exists_of_findSome?_eq_some hu
    calc trimmedLine u
      _ ⊆ u := trimmedLine_subset u
      _ ⊆ start := written?_subset hwritten
      _ ⊆ t.drop _ := subset_of_mem_valueStarts hstart
      _ ⊆ t := List.drop_subset _ _

theorem line?_subset {t v : Line} {name : String} (h : line? t = some (name, v)) : v ⊆ t := by
  unfold line? at h
  cases hexport : (behindExport? t).bind assignment? with
  | none =>
    rw [hexport] at h
    exact assignment?_subset h
  | some found =>
    rw [hexport] at h
    cases h
    obtain ⟨behind, hbehind, hv⟩ := Option.bind_eq_some_iff.mp hexport
    refine List.Subset.trans (assignment?_subset hv) ?_
    unfold behindExport? at hbehind
    dsimp only at hbehind
    split at hbehind
    · cases hbehind
      exact List.Subset.trans (List.dropWhile_suffix _).subset (List.drop_subset _ _)
    · cases hbehind

/-! ## What backslashes stand for -/

theorem mem_of_mem_replaceEscape {letter meaning : Char} {c : Piece} {t : Line}
    (h : c ∈ replaceEscape letter meaning t) (hne : c ≠ char meaning) : c ∈ t := by
  fun_induction replaceEscape letter meaning t with
  | case1 rest ih =>
    cases List.mem_cons.mp h with
    | inl h => exact absurd h hne
    | inr h => exact List.mem_cons_of_mem _ (List.mem_cons_of_mem _ (ih h))
  | case2 d rest _ ih =>
    cases List.mem_cons.mp h with
    | inl h => exact h ▸ List.mem_cons_self
    | inr h => exact List.mem_cons_of_mem _ (ih h)
  | case3 d rest _ ih =>
    cases List.mem_cons.mp h with
    | inl h => exact h ▸ List.mem_cons_self
    | inr h => exact List.mem_cons_of_mem _ (ih h)
  | case4 => exact h

theorem unescape_subset (t : Line) : unescape t ⊆ t := by
  fun_induction unescape t with
  | case1 rest ih => exact List.cons_subset_cons _ (List.cons_subset_cons _ ih)
  | case2 c rest _ ih => exact List.subset_cons_of_subset _ (List.cons_subset_cons _ ih)
  | case3 c rest _ _ ih => exact List.cons_subset_cons _ ih
  | case4 => exact List.Subset.refl _

/-! ## Values without a dollar sign -/

/-- A text without a dollar sign calls for no variable. -/
theorem expand_eq_self {value : String → Line} {t : Line} (h : char '$' ∉ t) :
    expand value t = t := by
  fun_induction expand value t with
  | case1 rest => simp at h
  | case2 rest => simp at h
  | case3 rest => simp at h
  | case4 c rest _ _ ih => rw [ih fun hmem => h (List.mem_cons_of_mem c hmem)]
  | case5 => rfl

/-- **A value without a dollar sign means the same whatever variables are.** -/
theorem meaning_congr {value value' : String → Line} {t : Line} (h : char '$' ∉ t) :
    meaning value' t = meaning value t := by
  have hinner : char '$' ∉ unescape (replaceEscape 'r' '\r' (replaceEscape 'n' '\n'
      (t.drop 1).dropLast)) := by
    intro hmem
    have hmem := mem_of_mem_replaceEscape (unescape_subset _ hmem) (by decide)
    have hmem := mem_of_mem_replaceEscape hmem (by decide)
    exact h (List.drop_subset 1 t (List.dropLast_subset _ hmem))
  unfold meaning
  dsimp only
  rw [expand_eq_self hinner, expand_eq_self hinner, expand_eq_self h, expand_eq_self h]

/-! ## Files without a dollar sign -/

/-- The part that a line adds up to has no dollar sign if there is none in the line and in front of
it. -/
theorem not_mem_part {isOpen : Option (Piece × Line)} {line t : Line}
    (hopen : ∀ o ∈ isOpen, char '$' ∉ o.2) (hline : char '$' ∉ line)
    (h : part isOpen line = .complete t ∨ ∃ quote, part isOpen line = .opened quote t) :
    char '$' ∉ t := by
  unfold part at h
  cases isOpen with
  | some o =>
    have ht : t = o.2 ++ char '\n' :: line := by
      dsimp only at h
      split at h <;> simp_all
    rw [ht]
    simp [hopen o rfl, hline]
  | none =>
    have ht : t = trimmedLine line := by
      dsimp only at h
      split at h
      · simp at h
      · split at h <;> simp_all
    rw [ht]
    exact fun hmem => hline (trimmedLine_subset line hmem)

/-- **Lines without a dollar sign assign the same in every environment.** -/
theorem assignments_congr {environment environment' : List (String × String)}
    {done : List (String × Line)} {isOpen : Option (Piece × Line)} {lines : List Line}
    (hopen : ∀ o ∈ isOpen, char '$' ∉ o.2) (h : ∀ line ∈ lines, char '$' ∉ line) :
    assignments environment' done isOpen lines = assignments environment done isOpen lines := by
  -- what is assigned so far is the same on both sides, and what is open has no dollar sign
  induction lines generalizing done isOpen with
  | nil => rfl
  | cons line rest ih =>
    have hline := h line List.mem_cons_self
    have hrest := fun l hl => h l (List.mem_cons_of_mem line hl)
    rw [assignments, assignments]
    cases hpart : part isOpen line with
    | nothing => exact ih (by simp) hrest
    | opened quote t =>
      refine ih ?_ hrest
      intro o ho
      cases ho
      exact not_mem_part hopen hline (.inr ⟨quote, hpart⟩)
    | complete t =>
      dsimp only
      cases hfound : line? t with
      | none => rfl
      | some found =>
        have ht : char '$' ∉ t := not_mem_part hopen hline (.inl hpart)
        dsimp only
        rw [meaning_congr fun hmem => ht (line?_subset hfound hmem)]
        exact ih (by simp) hrest

theorem mem_of_mem_endLines {c : Piece} {t : Line} (h : c ∈ endLines t) (hne : c ≠ char '\n') :
    c ∈ t := by
  fun_induction endLines t with
  | case1 rest ih =>
    cases List.mem_cons.mp h with
    | inl h => exact absurd h hne
    | inr h => exact List.mem_cons_of_mem _ (List.mem_cons_of_mem _ (ih h))
  | case2 rest _ ih =>
    cases List.mem_cons.mp h with
    | inl h => exact absurd h hne
    | inr h => exact List.mem_cons_of_mem _ (ih h)
  | case3 d rest _ _ ih =>
    cases List.mem_cons.mp h with
    | inl h => exact h ▸ List.mem_cons_self
    | inr h => exact List.mem_cons_of_mem _ (ih h)
  | case4 => exact h

theorem subset_of_mem_splitOn {a : Piece} {t line : Line} (h : line ∈ t.splitOn a) : line ⊆ t := by
  induction t generalizing line with
  | nil =>
    rw [List.splitOn_nil, List.mem_singleton] at h
    exact h ▸ List.Subset.refl _
  | cons c rest ih =>
    rw [List.splitOn_cons_eq_if_modifyHead] at h
    split at h
    · cases List.mem_cons.mp h with
      | inl h => exact h ▸ List.nil_subset _
      | inr h => exact List.subset_cons_of_subset c (ih h)
    · cases hsplit : rest.splitOn a with
      | nil => exact absurd hsplit (List.splitOn_ne_nil a rest)
      | cons first others =>
        rw [hsplit] at h ih
        cases List.mem_cons.mp h with
        | inl h => exact h ▸ List.cons_subset_cons c (ih List.mem_cons_self)
        | inr h => exact List.subset_cons_of_subset c (ih (List.mem_cons_of_mem first h))

/-- **A file without a dollar sign holds the same in every environment.** -/
theorem document_congr {environment environment' : List (String × String)} {bytes : Bytes}
    (h : char '$' ∉ decoded bytes) : document environment' bytes = document environment bytes := by
  have hlines : ∀ line ∈ (endLines (decoded bytes)).splitOn (char '\n'), char '$' ∉ line := by
    intro line hline hmem
    exact h (mem_of_mem_endLines (subset_of_mem_splitOn hline hmem) (by decide))
  unfold document
  dsimp only
  rw [assignments_congr (by simp) hlines]

end Dotenv

namespace ConfigFile

variable {order : FieldOrder} {files : FileTree} {environment environment' : List (String × String)}
  {path : String}

/-- **A file that may call for variables**: assignments with a dollar sign among them. -/
def CallsForVariables (path : String) (bytes : Bytes) : Prop :=
  FileFormat.extensions.lookup (extension path) = some .dotenv ∧
    Utf8.Piece.char '$' ∈ Dotenv.decoded bytes

theorem read_eq_of_files
    (h : ∀ bytes, files.read path = .ok bytes → ¬ CallsForVariables path bytes) :
    read order files environment' path = read order files environment path := by
  unfold read
  cases hformat : FileFormat.extensions.lookup (extension path) with
  | none => rfl
  | some format =>
    cases hbytes : files.read path with
    | error e => rfl
    | ok bytes =>
      have hdocument : format.document environment' bytes = format.document environment bytes := by
        cases format with
        | dotenv =>
          refine Dotenv.document_congr fun hmem => h bytes hbytes ⟨hformat, hmem⟩
        | json => rfl
        | toml => rfl
        | yaml => rfl
        | unread => rfl
      dsimp only
      rw [hdocument]

/-- **The environment does not matter for a configuration file that calls for no variables.** -/
theorem load_eq_of_files
    (h : ∀ consulted bytes, Consulted files path consulted → files.read consulted = .ok bytes →
      ¬ CallsForVariables consulted bytes) :
    load order files environment' path = load order files environment path :=
  load_congr fun consulted hconsulted => read_eq_of_files fun bytes => h consulted bytes hconsulted

end ConfigFile

end Nesting
