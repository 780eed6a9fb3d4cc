import Mathlib.Data.List.Basic
import Nesting.Files

/-!
# Writing one file

A file is written in a directory that is there already, at a place that is not a directory. So
writing makes no directory and takes none away, and every path leads where it led before. What is at
that place afterwards is a file with the bytes that were taken, and what is at every other place is
what was there (`Rewrites`). A file that could not be opened is left alone, one that was opened has
lost what was in it, and all of the bytes are in it unless something failed (`write_cases`).

The path that a file is written to is taken apart in another way than a path that is read: empty
components are left out, and the last one is kept for the end. That the two ways come to the same
place is `leadsTo_of_target`.
-/

namespace Nesting.FileTree

variable {t t' : FileTree} {loc place : Location} {bytes : Bytes} {path : String}

/-! ## Directories -/

/-- Whether a node shows that there is a directory at a place. -/
def showsDirectory (loc : Location) (entry : Location × FileNode) : Bool :=
  if entry.1 = loc then entry.2 = .directory else loc.isPrefixOf entry.1

theorem isDirectory_iff :
    t.isDirectory loc = true ↔
      loc.isBase = true ∨ ∃ entry ∈ t.nodes, showsDirectory loc entry = true := by
  unfold isDirectory
  rw [Bool.or_eq_true, List.any_eq_true]
  rfl

theorem isBase_of_above (h : loc.isBase = true) (hp : place <+: loc) : place.isBase = true := by
  unfold Location.isBase at h ⊢
  rw [Bool.or_eq_true, decide_eq_true_eq, List.all_eq_true] at h ⊢
  obtain rfl | h := h
  · cases place with
    | nil => exact .inr (by simp)
    | cons name rest =>
      obtain ⟨rfl, hrest⟩ := List.cons_prefix_cons.mp hp
      rw [List.prefix_nil.mp hrest]
      exact .inl rfl
  · exact .inr fun name hname => h name (hp.mem hname)

/-- **What a directory lies in is a directory.** -/
theorem isDirectory_of_above (h : t.isDirectory loc = true) (hp : place <+: loc) :
    t.isDirectory place = true := by
  rw [isDirectory_iff] at h ⊢
  obtain h | ⟨entry, hmem, h⟩ := h
  · exact .inl (isBase_of_above h hp)
  · by_cases heq : place = loc
    · rw [heq]
      exact .inr ⟨entry, hmem, h⟩
    · -- the entry is at `loc` or below it, so that it is below `place`
      have hbelow : loc <+: entry.1 := by
        unfold showsDirectory at h
        split at h
        · rename_i hat
          exact ⟨[], (List.append_nil loc).trans hat.symm⟩
        · exact List.isPrefixOf_iff_prefix.mp h
      have hne : entry.1 ≠ place := by
        intro hat
        rw [hat] at hbelow
        exact heq (hp.eq_of_length_le hbelow.length_le)
      refine .inr ⟨entry, hmem, ?_⟩
      unfold showsDirectory
      rw [if_neg hne]
      exact List.isPrefixOf_iff_prefix.mpr (hp.trans hbelow)

theorem nodeAt_eq_directory_iff : t.nodeAt loc = some .directory ↔ t.isDirectory loc = true := by
  unfold nodeAt
  by_cases h : t.isDirectory loc = true
  · simp [h]
  · rw [if_neg h]
    refine ⟨fun hfind => ?_, fun hd => absurd hd h⟩
    obtain ⟨entry, hentry, hnode⟩ := Option.map_eq_some_iff.mp hfind
    have hat : entry.1 = loc := by simpa using List.find?_some hentry
    refine isDirectory_iff.mpr (.inr ⟨entry, List.mem_of_find?_eq_some hentry, ?_⟩)
    simp [showsDirectory, hat, hnode]

theorem requireDirectory_eq_ok_iff :
    t.requireDirectory loc = .ok () ↔ t.isDirectory loc = true := by
  rw [← nodeAt_eq_directory_iff]
  unfold requireDirectory
  split <;> simp_all

/-! ## Walks -/

theorem walk_cons_eq_ok_iff {component : String} {rest : List String} :
    t.walk loc (component :: rest) = .ok place
      ↔ t.isDirectory loc = true ∧ t.walk (loc.enter component) rest = .ok place := by
  rw [← requireDirectory_eq_ok_iff, walk]
  cases h : t.requireDirectory loc with
  | error e => simp [bind, Except.bind]
  | ok u => simp [bind, Except.bind]

theorem walk_append_eq_ok_iff {front rest : List String} :
    t.walk loc (front ++ rest) = .ok place
      ↔ ∃ middle, t.walk loc front = .ok middle ∧ t.walk middle rest = .ok place := by
  induction front generalizing loc with
  | nil => simp [walk]
  | cons component front ih =>
    rw [List.cons_append, walk_cons_eq_ok_iff, ih]
    simp only [walk_cons_eq_ok_iff, and_assoc, exists_and_left]

theorem isDirectory_of_walk {components : List String}
    (h : t.walk loc components = .ok place) (hplace : t.isDirectory place = true) :
    t.isDirectory loc = true := by
  cases components with
  | nil =>
    cases h
    exact hplace
  | cons => exact (walk_cons_eq_ok_iff.mp h).1

/-- **Empty components lead nowhere else.** -/
theorem walk_of_filter {components : List String}
    (h : t.walk loc (components.filter (· ≠ "")) = .ok place)
    (hplace : t.isDirectory place = true) : t.walk loc components = .ok place := by
  induction components generalizing loc with
  | nil => exact h
  | cons component rest ih =>
    by_cases hempty : component = ""
    · rw [hempty, List.filter_cons_of_neg (by simp)] at h
      rw [walk_cons_eq_ok_iff, hempty]
      exact ⟨isDirectory_of_walk h hplace, ih h⟩
    · rw [List.filter_cons_of_pos (by simpa using hempty), walk_cons_eq_ok_iff] at h
      rw [walk_cons_eq_ok_iff]
      exact ⟨h.1, ih h.2⟩

/-- **A path leads to a place.** -/
def LeadsTo (t : FileTree) (path : String) (place : Location) : Prop :=
  path ≠ "" ∧ t.walk (origin path) (components path) = .ok place

/-- **A path leads to a file that holds the given bytes.** -/
def Contains (t : FileTree) (path : String) (bytes : Bytes) : Prop :=
  ∃ place, t.LeadsTo path place ∧ t.nodeAt place = some (.file bytes)

theorem find_eq_ok_file_iff : t.find path = .ok (.file bytes) ↔ t.Contains path bytes := by
  unfold find Contains LeadsTo
  by_cases hpath : path = ""
  · simp [hpath]
  · cases hwalk : t.walk (origin path) (components path) with
    | error e => simp [hpath, bind, Except.bind]
    | ok place =>
      cases hnode : t.nodeAt place with
      | none => simp [hpath, hnode, bind, Except.bind]
      | some node => simp [hpath, hnode, bind, Except.bind]

/-- **The system lets a path be read**: it refuses neither to open the file nor to read it to its
end. -/
def LetsRead (t : FileTree) (path : String) : Prop :=
  t.refusals.openToRead path = none ∧ t.refusals.reading path = none

/-- **A file is read from the place that its path leads to**, if the system lets it be read. -/
theorem read_eq_ok_iff :
    t.read path = .ok bytes ↔ t.LetsRead path ∧ t.Contains path bytes := by
  rw [← find_eq_ok_file_iff]
  unfold read LetsRead
  cases t.refusals.openToRead path with
  | some fault => simp
  | none =>
    cases t.find path with
    | error fault => simp
    | ok node =>
      cases node with
      | directory => simp
      | file bytes =>
        cases t.refusals.reading path with
        | some fault => simp
        | none => simp

/-! ## The place that is written to -/

/-- A text that does not end in a slash has a last component. -/
theorem exists_splitOn_append (front : Text) {c : Char} (hc : c ≠ '/') :
    ∃ init last, (front ++ [c]).splitOn '/' = init ++ [last] ∧ last ≠ [] := by
  induction front with
  | nil =>
    refine ⟨[], [c], ?_, List.cons_ne_nil _ _⟩
    rw [List.nil_append, List.splitOn_cons_eq_if_modifyHead, if_neg (by simpa using hc)]
    rfl
  | cons d front ih =>
    obtain ⟨init, last, hsplit, hlast⟩ := ih
    rw [List.cons_append, List.splitOn_cons_eq_if_modifyHead, hsplit]
    split
    · exact ⟨[] :: init, last, rfl, hlast⟩
    · cases init with
      | nil => exact ⟨[], d :: last, rfl, List.cons_ne_nil _ _⟩
      | cons first init => exact ⟨(d :: first) :: init, last, rfl, hlast⟩

theorem exists_components_eq (hpath : path ≠ "") (hend : path.endsWith "/" = false) :
    ∃ init last, components path = init ++ [last] ∧ last ≠ "" := by
  obtain hnil | ⟨front, c, hpath'⟩ := List.eq_nil_or_concat path.toList
  · exact absurd (String.toList_eq_nil_iff.mp hnil) hpath
  · have hc : c ≠ '/' := by
      rintro rfl
      rw [← Bool.not_eq_true, String.endsWith_eq_endsWith_toSlice,
        String.Slice.endsWith_string_iff, String.copy_toSlice, hpath'] at hend
      exact hend ⟨front, (List.concat_eq_append ..).symm⟩
    obtain ⟨init, last, hsplit, hlast⟩ := exists_splitOn_append front hc
    refine ⟨init.map String.ofList, String.ofList last, ?_, ?_⟩
    · unfold components
      rw [hpath', List.concat_eq_append, hsplit, List.map_append]
      rfl
    · intro h
      exact hlast (by simpa using congrArg String.toList h)

/-- **The path that a file is written to leads to the place of the file**, in a directory that is
there; no directory is at that place. -/
theorem leadsTo_of_target (h : t.target path = .ok loc) :
    t.LeadsTo path loc ∧ t.isDirectory loc = false ∧
      ∃ parent last, loc = parent ++ [last] ∧ t.isDirectory parent = true := by
  unfold target at h
  split at h
  · cases h
  · rename_i hpath
    dsimp only at h
    split at h
    · cases h
    · rename_i last hlast
      cases hwalk : t.walk (origin path) ((components path).filter (· ≠ "")).dropLast with
      | error e =>
        rw [hwalk] at h
        cases h
      | ok parent =>
        cases hdir : t.requireDirectory parent with
        | error e =>
          rw [hwalk] at h
          simp only [bind, Except.bind, hdir] at h
          cases h
        | ok u =>
          rw [hwalk] at h
          simp only [bind, Except.bind, hdir] at h
          split at h
          · cases h
          · rename_i hok
            cases h
            simp only [Bool.or_eq_true, not_or, Bool.not_eq_true, decide_eq_false_iff_not] at hok
            obtain ⟨⟨⟨hend, hdot⟩, hdots⟩, hnot⟩ := hok
            have hparent := requireDirectory_eq_ok_iff.mp hdir
            refine ⟨⟨hpath, ?_⟩, hnot, parent, last, rfl, hparent⟩
            -- the last component is the one kept for the end
            obtain ⟨init, last', hcomponents, hne⟩ := exists_components_eq hpath hend
            have hnames : (components path).filter (· ≠ "") = init.filter (· ≠ "") ++ [last'] := by
              rw [hcomponents, List.filter_append, List.filter_cons_of_pos (by simpa using hne)]
              rfl
            rw [hnames] at hwalk hlast
            obtain rfl : last' = last := by simpa using hlast
            rw [List.dropLast_concat] at hwalk
            rw [hcomponents, walk_append_eq_ok_iff]
            refine ⟨parent, walk_of_filter hwalk hparent, ?_⟩
            rw [walk_cons_eq_ok_iff]
            refine ⟨hparent, ?_⟩
            unfold Location.enter
            simp [hne, hdot, hdots, walk]

/-! ## What is there afterwards -/

/-- **One tree is another one with a file written at a place.** Directories and paths stay as they
are, and so does what is at every other place and what the system refuses. -/
structure Rewrites (t t' : FileTree) (loc : Location) (bytes : Bytes) : Prop where
  self : t'.nodeAt loc = some (.file bytes)
  others : ∀ place, place ≠ loc → t'.nodeAt place = t.nodeAt place
  directories : ∀ place, t'.isDirectory place = t.isDirectory place
  refusals : t'.refusals = t.refusals

theorem isDirectory_put {parent : Location} {last : String} (hparent : t.isDirectory parent = true)
    (hnot : t.isDirectory (parent ++ [last]) = false) (bytes : Bytes) (place : Location) :
    (t.put (parent ++ [last]) bytes).isDirectory place = t.isDirectory place := by
  rw [Bool.eq_iff_iff]
  constructor
  · intro h
    obtain h | ⟨entry, hmem, h⟩ := isDirectory_iff.mp h
    · exact isDirectory_iff.mpr (.inl h)
    · obtain hmem | hmem := List.mem_append.mp hmem
      · exact isDirectory_iff.mpr (.inr ⟨entry, (List.mem_filter.mp hmem).1, h⟩)
      · -- the file written lies in a directory that was there
        obtain rfl := List.mem_singleton.mp hmem
        unfold showsDirectory at h
        split at h
        · cases h
        · rename_i hne
          obtain hself | hprefix := List.prefix_concat_iff.mp (List.isPrefixOf_iff_prefix.mp h)
          · exact absurd hself.symm hne
          · exact isDirectory_of_above hparent hprefix
  · intro h
    obtain h | ⟨entry, hmem, h⟩ := isDirectory_iff.mp h
    · exact isDirectory_iff.mpr (.inl h)
    · by_cases hat : entry.1 = parent ++ [last]
      · refine isDirectory_iff.mpr (.inr ⟨(parent ++ [last], .file bytes),
          List.mem_append_right _ List.mem_cons_self, ?_⟩)
        unfold showsDirectory at h ⊢
        rw [hat] at h
        by_cases hself : parent ++ [last] = place
        · -- then a directory would have been there
          have hdir : t.isDirectory (parent ++ [last]) = true := by
            refine isDirectory_iff.mpr (.inr ⟨entry, hmem, ?_⟩)
            rw [if_pos hself] at h
            unfold showsDirectory
            rw [if_pos hat]
            exact h
          rw [hnot] at hdir
          cases hdir
        · rw [if_neg hself] at h ⊢
          exact h
      · exact isDirectory_iff.mpr (.inr ⟨entry,
          List.mem_append_left _ (List.mem_filter.mpr ⟨hmem, by simpa using hat⟩), h⟩)

/-- What is listed for a place, after a file was put somewhere. -/
theorem find_put (t : FileTree) (loc place : Location) (bytes : Bytes) :
    (t.put loc bytes).nodes.find? (fun (entry, _) => entry = place)
      = if place = loc then some (loc, .file bytes)
        else t.nodes.find? fun (entry, _) => entry = place := by
  unfold put
  rw [List.find?_append, List.find?_filter]
  by_cases hat : place = loc
  · have hnone : t.nodes.find? (fun (entry, _) => decide (decide (entry ≠ loc) = true ∧
        decide (entry = place) = true)) = none := by
      rw [List.find?_eq_none]
      simp [hat]
    rw [hnone, Option.none_or, if_pos hat]
    simp [hat]
  · have hskip : (fun a : Location × FileNode => decide (decide (a.1 ≠ loc) = true ∧
        decide (a.1 = place) = true)) = fun a => decide (a.1 = place) := by
      funext a
      by_cases ha : a.1 = place <;> simp [ha, hat]
    rw [if_neg hat, List.find?_singleton, if_neg (by simpa using Ne.symm hat), Option.or_none]
    exact congrArg (fun p => t.nodes.find? p) hskip

theorem rewrites_put {parent : Location} {last : String} (hparent : t.isDirectory parent = true)
    (hnot : t.isDirectory (parent ++ [last]) = false) (bytes : Bytes) :
    Rewrites t (t.put (parent ++ [last]) bytes) (parent ++ [last]) bytes where
  directories := isDirectory_put hparent hnot bytes
  refusals := rfl
  self := by
    unfold nodeAt
    rw [isDirectory_put hparent hnot, hnot, find_put, if_pos rfl]
    rfl
  others := by
    intro place hne
    unfold nodeAt
    rw [isDirectory_put hparent hnot, find_put, if_neg hne]

namespace Rewrites

theorem walk_eq_ok_iff (h : Rewrites t t' loc bytes) {start : Location} {components : List String} :
    t'.walk start components = .ok place ↔ t.walk start components = .ok place := by
  induction components generalizing start with
  | nil => rfl
  | cons component rest ih => rw [walk_cons_eq_ok_iff, walk_cons_eq_ok_iff, h.directories, ih]

theorem leadsTo_iff (h : Rewrites t t' loc bytes) :
    t'.LeadsTo path place ↔ t.LeadsTo path place := by
  unfold LeadsTo
  rw [h.walk_eq_ok_iff]

theorem letsRead_iff (h : Rewrites t t' loc bytes) : t'.LetsRead path ↔ t.LetsRead path := by
  unfold LetsRead
  rw [h.refusals]

/-- The path of the place leads to the bytes written. -/
theorem contains (h : Rewrites t t' loc bytes) (hleads : t.LeadsTo path loc) :
    t'.Contains path bytes :=
  ⟨loc, h.leadsTo_iff.mpr hleads, h.self⟩

/-- A path that leads elsewhere leads to the same bytes as before. -/
theorem read_eq_ok_iff_of_ne {bytes' : Bytes} (h : Rewrites t t' loc bytes)
    (hne : ¬ t'.LeadsTo path loc) : t'.read path = .ok bytes' ↔ t.read path = .ok bytes' := by
  rw [read_eq_ok_iff, read_eq_ok_iff, h.letsRead_iff]
  refine and_congr_right fun _ => exists_congr fun place => ?_
  rw [← h.leadsTo_iff]
  refine and_congr_right fun hleads => ?_
  rw [h.others place]
  rintro rfl
  exact hne hleads

/-- Whether there is a file at another place is as before. -/
theorem isFile_of_ne (h : Rewrites t t' loc bytes) (hne : place ≠ loc) :
    t'.isFile place = t.isFile place := by
  unfold isFile
  rw [h.others place hne]

theorem isFile_self (h : Rewrites t t' loc bytes) : t'.isFile loc = true := by
  unfold isFile
  rw [h.self]

end Rewrites

/-- Of two files put at one place the second is there. -/
theorem put_put (t : FileTree) (loc : Location) (bytes bytes' : Bytes) :
    (t.put loc bytes).put loc bytes' = t.put loc bytes' := by
  unfold put
  simp

/-- A file that is opened to be written is at the place that its path leads to. -/
theorem create_eq_ok {opened : FileTree} (h : t.create path = .ok (loc, opened)) :
    t.target path = .ok loc ∧ opened = t.put loc [] := by
  unfold create at h
  split at h
  · cases h
  · split at h
    · cases h
    · rename_i htarget
      cases h
      exact ⟨htarget, rfl⟩

/-- **What writing a file can do**: nothing, where it cannot be opened; and otherwise it rewrites
the place that the path leads to with a beginning of the bytes, and with all of them if nothing
fails. -/
theorem write_cases (t : FileTree) (path : String) (bytes : Bytes) :
    (∃ e, t.write path bytes = (some e, t)) ∨
      ∃ loc taken, t.LeadsTo path loc ∧ Rewrites t (t.write path bytes).2 loc taken ∧
        taken <+: bytes ∧ ((t.write path bytes).1 = none → taken = bytes) := by
  unfold write
  cases hcreate : t.create path with
  | error e => exact .inl ⟨e, rfl⟩
  | ok created =>
    obtain ⟨loc, opened⟩ := created
    obtain ⟨htarget, rfl⟩ := create_eq_ok hcreate
    obtain ⟨hleads, hnot, parent, last, rfl, hparent⟩ := leadsTo_of_target htarget
    refine .inr ⟨parent ++ [last], ?_⟩
    cases t.refusals.writing path bytes with
    | some refusal =>
      dsimp only
      rw [put_put]
      exact ⟨_, hleads, rewrites_put hparent hnot _, List.take_prefix _ _, fun h => by cases h⟩
    | none =>
      dsimp only
      rw [put_put]
      exact ⟨_, hleads, rewrites_put hparent hnot _, List.prefix_rfl, fun _ => rfl⟩

/-- **A file that was written** holds the bytes, at the place that its path leads to. -/
theorem rewrites_of_write (h : t.write path bytes = (none, t')) :
    ∃ loc, Rewrites t t' loc bytes ∧ t.LeadsTo path loc := by
  obtain ⟨e, hfails⟩ | ⟨loc, taken, hleads, hrewrites, -, hall⟩ := write_cases t path bytes
  · rw [h] at hfails
    cases hfails
  · rw [h] at hrewrites hall
    rw [hall rfl] at hrewrites
    exact ⟨loc, hrewrites, hleads⟩

end Nesting.FileTree
