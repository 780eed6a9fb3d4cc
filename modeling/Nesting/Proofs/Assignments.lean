import Nesting.Config.Sources
import Mathlib.Data.List.Induction

/-!
# What the program sets itself

The program may set values before a configuration is loaded, one after the other. Each assignment
has a path that leads to a key or to a place inside one, and it changes nothing that is said about
any other key. So what the assignments say about a key is what the last one under it says: its
value, if it is to the key itself, and otherwise a table (`find?_ofAssignments`).
-/

namespace Nesting

namespace Table

theorem find?_cons (field : String × Value) (t : Table) (key : String) :
    find? (field :: t) key = if key = field.1 then some field.2 else find? t key := by
  unfold find?
  rw [List.lookup_cons]
  by_cases h : key = field.1
  · rw [if_pos h, beq_iff_eq.mpr h]
  · rw [if_neg h, beq_eq_false_iff_ne.mpr h]

theorem find?_insert (t : Table) (key other : String) (v : Value) :
    (t.insert key v).find? other = if other = key then some v else t.find? other := by
  induction t with
  | nil => exact find?_cons _ _ _
  | cons field rest ih =>
    unfold insert
    by_cases hsame : field.1 = key
    · rw [if_pos hsame, find?_cons, find?_cons, hsame]
      by_cases hother : other = key
      · rw [if_pos hother, if_pos hother]
      · rw [if_neg hother, if_neg hother, if_neg hother]
    · rw [if_neg hsame]
      by_cases hbefore : key < field.1
      · rw [if_pos hbefore, find?_cons]
      · rw [if_neg hbefore, find?_cons, find?_cons, ih]
        by_cases hfield : other = field.1
        · rw [if_pos hfield, if_pos hfield, if_neg (hfield ▸ hsame)]
        · rw [if_neg hfield, if_neg hfield]

variable {t : Table} {key : String} {v : Value} {path : List String}

theorem find?_insertAt_of_ne (h : path.head? ≠ some key) :
    (t.insertAt v path).find? key = t.find? key := by
  match path with
  | [] => rfl
  | [step] =>
    rw [insertAt, find?_insert, if_neg fun heq => h (by rw [heq]; rfl)]
  | step :: next :: rest =>
    rw [insertAt, find?_insert, if_neg fun heq => h (by rw [heq]; rfl)]
    · exact List.cons_ne_nil _ _

end Table

namespace Key

/-- **A path leads to a key** or to a place inside it. -/
def Covers (k : Key) (path : String) : Prop :=
  lowered path = k.name ∨ ∃ inside, lowered path = k.name ++ "." ++ inside

variable {j k : Key} {path : String}

theorem dot_not_mem_name (k : Key) : '.' ∉ k.name.toList := by
  cases k <;> decide

theorem steps_of_eq (h : lowered path = k.name) : Table.steps path = [k.name] := by
  unfold Table.steps
  rw [h, List.splitOn_eq_singleton k.dot_not_mem_name, List.map_singleton, String.ofList_toList]

theorem exists_steps_of_inside {inside : String} (h : lowered path = k.name ++ "." ++ inside) :
    ∃ next rest, Table.steps path = k.name :: next :: rest := by
  have hsplit : (lowered path).toList.splitOn '.'
      = k.name.toList :: inside.toList.splitOn '.' := by
    rw [h, String.toList_append, String.toList_append, List.append_assoc]
    exact List.splitOn_append_cons_self_of_not_mem k.dot_not_mem_name _
  unfold Table.steps
  cases hinside : inside.toList.splitOn '.' with
  | nil => exact absurd hinside (List.splitOn_ne_nil '.' _)
  | cons next rest =>
    rw [hsplit, hinside, List.map_cons, List.map_cons, String.ofList_toList]
    exact ⟨_, _, rfl⟩

/-- A path leads to a key or into it just when its first step is the key. -/
theorem covers_iff_head?_steps : k.Covers path ↔ (Table.steps path).head? = some k.name := by
  constructor
  · rintro (h | ⟨inside, h⟩)
    · rw [steps_of_eq h]
      rfl
    · obtain ⟨next, rest, hsteps⟩ := exists_steps_of_inside h
      rw [hsteps]
      rfl
  · intro h
    have hjoin : ['.'].intercalate ((lowered path).toList.splitOn '.') = (lowered path).toList :=
      List.intercalate_splitOn '.'
    unfold Table.steps at h
    generalize (lowered path).toList.splitOn '.' = steps at h hjoin
    match steps with
    | [first] =>
      rw [List.intercalate_singleton] at hjoin
      have hfirst : String.ofList first = k.name := Option.some.inj h
      exact .inl (by rw [← hfirst, hjoin, String.ofList_toList])
    | first :: next :: rest =>
      rw [List.intercalate_cons_cons] at hjoin
      have hfirst : String.ofList first = k.name := Option.some.inj h
      refine .inr ⟨String.ofList (['.'].intercalate (next :: rest)), ?_⟩
      rw [← hfirst, ← String.ofList_toList (s := lowered path), ← hjoin, String.ofList_append,
        String.ofList_append]

instance (k : Key) : DecidablePred k.Covers := fun _ =>
  decidable_of_iff _ covers_iff_head?_steps.symm

/-- No path leads to two keys. -/
theorem not_covers_of_ne (hne : k ≠ j) (h : j.Covers path) : ¬ k.Covers path := by
  intro h'
  rw [covers_iff_head?_steps] at h h'
  exact hne (name_injective (Option.some.inj (h'.symm.trans h)))

end Key

/-! ## Tables as values -/

namespace Value

/-- Whether a value is a table, of whatever keys. -/
def isTable : Value → Bool
  | table _ | mixed _ => true
  | _ => false

theorem lowerOuterKeys_of_not_isTable {v : Value} (h : v.isTable = false) (order : FieldOrder) :
    v.lowerOuterKeys order = v := by
  cases v <;> first | rfl | cases h

theorem exists_lowerOuterKeys_of_isTable {v : Value} (h : v.isTable = true) (order : FieldOrder) :
    ∃ fields, v.lowerOuterKeys order = .table fields := by
  cases v <;> first | exact ⟨_, by rw [lowerOuterKeys]⟩ | cases h

end Value

/-! ## What assignments say -/

/-- **What assignments say about a key**: what the last one that leads there says. An assignment to
the key itself gives it the value; one of a table, or to a place inside the key, makes it a
table. -/
def Assigns (assignments : List (String × Value)) (k : Key) (v : Value) : Prop :=
  ∃ a, (assignments.filter fun a => k.Covers a.1).getLast? = some a ∧
    ((lowered a.1 = k.name ∧ a.2.isTable = false ∧ v = a.2) ∨
      ((lowered a.1 = k.name → a.2.isTable = true) ∧ ∃ fields, v = .table fields))

/-- **Assignments under another key bear on nothing that is said about a key.** -/
theorem assigns_iff_of_filter {assignments assignments' : List (String × Value)} {j k : Key}
    {v : Value} (hne : k ≠ j)
    (h : (assignments'.filter fun a => ¬ j.Covers a.1)
      = assignments.filter fun a => ¬ j.Covers a.1) :
    Assigns assignments' k v ↔ Assigns assignments k v := by
  have hfilter : ∀ l : List (String × Value), (l.filter fun a => k.Covers a.1)
      = (l.filter fun a => ¬ j.Covers a.1).filter fun a => k.Covers a.1 := by
    intro l
    rw [List.filter_filter]
    refine List.filter_congr fun a _ => ?_
    by_cases hk : k.Covers a.1
    · simp [hk, Key.not_covers_of_ne hne.symm hk]
    · simp [hk]
  unfold Assigns
  rw [hfilter assignments', h, ← hfilter assignments]

namespace Table

variable {order : FieldOrder} {assignments : List (String × Value)} {a : String × Value} {k : Key}
  {v : Value}

theorem ofAssignments_concat (order : FieldOrder) (assignments : List (String × Value))
    (a : String × Value) :
    ofAssignments order (assignments ++ [a])
      = (ofAssignments order assignments).assign order a.1 a.2 := by
  unfold ofAssignments
  rw [List.foldl_append, List.foldl_cons, List.foldl_nil]

theorem find?_assign_of_not_covers {path : String} (t : Table) (v : Value) (h : ¬ k.Covers path) :
    (t.assign order path v).find? k.name = t.find? k.name :=
  find?_insertAt_of_ne fun hhead => h (Key.covers_iff_head?_steps.mpr hhead)

theorem find?_assign_of_eq {path : String} (t : Table) (v : Value) (h : lowered path = k.name) :
    (t.assign order path v).find? k.name = some (v.lowerOuterKeys order) := by
  unfold assign
  rw [Key.steps_of_eq h, insertAt, find?_insert, if_pos rfl]

theorem exists_find?_assign_of_inside {path inside : String} (t : Table) (v : Value)
    (h : lowered path = k.name ++ "." ++ inside) :
    ∃ fields, (t.assign order path v).find? k.name = some (.table fields) := by
  obtain ⟨next, rest, hsteps⟩ := Key.exists_steps_of_inside h
  unfold assign
  rw [hsteps, insertAt, find?_insert, if_pos rfl]
  · exact ⟨_, rfl⟩
  · exact List.cons_ne_nil _ _

/-- **The value of a key is what the assignments say about it**, if they say anything. -/
theorem find?_ofAssignments (order : FieldOrder) (assignments : List (String × Value)) (k : Key) :
    ((ofAssignments order assignments).find? k.name = none ∧ ∀ v, ¬ Assigns assignments k v) ∨
      ∃ v, (ofAssignments order assignments).find? k.name = some v ∧ Assigns assignments k v := by
  induction assignments using List.reverseRecOn with
  | nil => exact .inl ⟨rfl, fun v ⟨a, ha, _⟩ => by cases ha⟩
  | append_singleton before a ih =>
    rw [ofAssignments_concat]
    by_cases hcovers : k.Covers a.1
    · have hlast : ((before ++ [a]).filter fun a => k.Covers a.1).getLast? = some a := by
        simp [hcovers]
      rcases hcovers with heq | ⟨inside, hinside⟩
      · refine .inr ⟨_, find?_assign_of_eq _ _ heq, a, hlast, ?_⟩
        cases htable : a.2.isTable with
        | false => exact .inl ⟨heq, rfl, Value.lowerOuterKeys_of_not_isTable htable order⟩
        | true => exact .inr ⟨fun _ => rfl, Value.exists_lowerOuterKeys_of_isTable htable order⟩
      · obtain ⟨fields, hfields⟩ :=
          exists_find?_assign_of_inside (ofAssignments order before) a.2 hinside
        have hne : lowered a.1 ≠ k.name := by
          intro heq
          have hsteps := Key.steps_of_eq heq
          obtain ⟨next, rest, hsteps'⟩ := Key.exists_steps_of_inside hinside
          rw [hsteps] at hsteps'
          cases hsteps'
        exact .inr ⟨_, hfields, a, hlast, .inr ⟨fun heq => absurd heq hne, fields, rfl⟩⟩
    · have hfilter : (before ++ [a]).filter (fun a => k.Covers a.1)
          = before.filter fun a => k.Covers a.1 := by
        simp [hcovers]
      rw [find?_assign_of_not_covers _ _ hcovers]
      unfold Assigns
      rw [hfilter]
      exact ih

theorem assigns_of_find? (h : (ofAssignments order assignments).find? k.name = some v) :
    Assigns assignments k v := by
  obtain ⟨hnone, -⟩ | ⟨w, hw, hassigns⟩ := find?_ofAssignments order assignments k
  · rw [hnone] at h
    cases h
  · rw [hw] at h
    cases h
    exact hassigns

/-- **What assignments say is one value**, except that tables may have other fields. -/
theorem eq_of_assigns {w : Value} (h : Assigns assignments k v) (h' : Assigns assignments k w) :
    v = w ∨ ∃ fields fields', v = .table fields ∧ w = .table fields' := by
  obtain ⟨a, ha, hvalue⟩ := h
  obtain ⟨a', ha', hvalue'⟩ := h'
  cases ha.symm.trans ha'
  obtain ⟨heq, hnot, rfl⟩ | ⟨htable, fields, rfl⟩ := hvalue
  · obtain ⟨-, -, rfl⟩ | ⟨htable, -⟩ := hvalue'
    · exact .inl rfl
    · exact absurd (hnot.symm.trans (htable heq)) (by decide)
  · obtain ⟨heq, hnot, -⟩ | ⟨-, fields', rfl⟩ := hvalue'
    · exact absurd (hnot.symm.trans (htable heq)) (by decide)
    · exact .inr ⟨fields, fields', rfl, rfl⟩

/-- What assignments say about a key is its value, except that tables may have other fields. -/
theorem find?_of_assigns (h : Assigns assignments k v) :
    (ofAssignments order assignments).find? k.name = some v ∨
      ∃ fields fields', v = .table fields ∧
        (ofAssignments order assignments).find? k.name = some (.table fields') := by
  obtain ⟨-, hnone⟩ | ⟨w, hw, hassigns⟩ := find?_ofAssignments order assignments k
  · exact absurd h (hnone v)
  · rw [hw]
    obtain rfl | ⟨fields, fields', rfl, rfl⟩ := eq_of_assigns h hassigns
    · exact .inl rfl
    · exact .inr ⟨fields, fields', rfl, rfl⟩

end Table

end Nesting
