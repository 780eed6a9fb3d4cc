import Nesting.Proofs.Assignments
import Nesting.Proofs.Configuration
import Mathlib.Data.List.Nodup

/-!
# Keys that differ only in their case

When the keys of a table are put into lower case, keys that differ only in their case become one
key, and which of their values it gets depends on the order in which the fields are gone through. It
does get one of them (`exists_mem_of_find?_ofMixedCase`), and no key is lost.

In a table without such keys the order does not matter, since inserting under two different keys can
be done in either order (`insert_comm`). The same holds for whole values, through all the tables in
them (`Value.lowerKeys_eq`).
-/

namespace Nesting

namespace Table

variable {fields fields' : List (String × Value)} {key : String} {v : Value}

/-! ## Tables of fields -/

theorem ofFields_concat (fields : List (String × Value)) (field : String × Value) :
    ofFields (fields ++ [field]) = (ofFields fields).insert field.1 field.2 := by
  unfold ofFields
  rw [List.foldl_append, List.foldl_cons, List.foldl_nil]

/-- A table says about a key what one of its fields says. -/
theorem mem_of_find?_ofFields (h : (ofFields fields).find? key = some v) : (key, v) ∈ fields := by
  induction fields using List.reverseRecOn with
  | nil => cases h
  | append_singleton before field ih =>
    rw [ofFields_concat, find?_insert] at h
    split at h
    · rename_i heq
      cases h
      exact List.mem_append_right _ (heq ▸ List.mem_singleton_self _)
    · exact List.mem_append_left _ (ih h)

/-- No key is lost. -/
theorem exists_find?_ofFields (h : (key, v) ∈ fields) :
    ∃ w, (ofFields fields).find? key = some w := by
  induction fields using List.reverseRecOn with
  | nil => cases h
  | append_singleton before field ih =>
    rw [ofFields_concat, find?_insert]
    split
    · exact ⟨_, rfl⟩
    · rename_i hne
      obtain hmem | hmem := List.mem_append.mp h
      · exact ih hmem
      · exact absurd (congrArg Prod.fst (List.mem_singleton.mp hmem)) hne

/-- **Insertions under two keys commute**: the order of keys puts each field in its place. -/
theorem insert_comm (t : Table) {key key' : String} (v v' : Value) (h : key ≠ key') :
    (t.insert key v).insert key' v' = (t.insert key' v').insert key v := by
  induction t with
  | nil =>
    simp only [insert]
    grind
  | cons field rest ih =>
    simp only [insert]
    grind [insert]

/-- **The order of fields with different keys does not matter.** -/
theorem ofFields_eq_of_perm (h : fields.Perm fields') (hkeys : (fields.map Prod.fst).Nodup) :
    ofFields fields = ofFields fields' := by
  refine h.foldl_eq' (fun x hx y hy t => ?_) []
  by_cases hxy : x = y
  · rw [hxy]
  · refine insert_comm t x.2 y.2 fun heq => hxy ?_
    exact List.inj_on_of_nodup_map hkeys hx hy heq

/-! ## Keys in lower case -/

/-- A field with its key in lower case. -/
def lowerKey (field : String × Value) : String × Value :=
  (lowered field.1, field.2)

/-- The fields that `ofMixedCase` makes a table of are those given, with keys in lower case and in
some order. -/
theorem exists_ofMixedCase_eq (order : FieldOrder) (fields : List (String × Value)) :
    ∃ arranged, arranged.Perm (fields.map lowerKey) ∧
      ofMixedCase order fields = ofFields arranged := by
  let p : String × Value → Bool := fun field => lowered field.1 = field.1
  have hkept : ((order.arrange fields).filter p).map lowerKey
      = (order.arrange fields).filter p := by
    refine (List.map_congr_left fun field hfield => ?_).trans (List.map_id _)
    have heq : lowered field.1 = field.1 := of_decide_eq_true (List.mem_filter.mp hfield).2
    exact Prod.ext heq rfl
  refine ⟨(((order.arrange fields).filter p) ++ (order.arrange fields).filter (not ∘ p)).map
    lowerKey, ?_, ?_⟩
  · exact ((List.filter_append_perm p _).trans (order.perm fields)).map lowerKey
  · unfold ofMixedCase
    rw [List.partition_eq_filter_filter, List.map_append, hkept]
    rfl

variable {order : FieldOrder} {spelling : String}

/-- **A key has the value of one of its spellings.** -/
theorem exists_mem_of_find?_ofMixedCase (h : (ofMixedCase order fields).find? key = some v) :
    ∃ spelling, (spelling, v) ∈ fields ∧ lowered spelling = key := by
  obtain ⟨arranged, hperm, heq⟩ := exists_ofMixedCase_eq order fields
  rw [heq] at h
  obtain ⟨field, hfield, hkey⟩ := List.mem_map.mp (hperm.mem_iff.mp (mem_of_find?_ofFields h))
  cases hkey
  exact ⟨field.1, hfield, rfl⟩

/-- A key that is spelt in some way has a value. -/
theorem exists_find?_ofMixedCase (h : (spelling, v) ∈ fields) (order : FieldOrder) :
    ∃ w, (ofMixedCase order fields).find? (lowered spelling) = some w := by
  obtain ⟨arranged, hperm, heq⟩ := exists_ofMixedCase_eq order fields
  have hmem : lowerKey (spelling, v) ∈ fields.map lowerKey := List.mem_map_of_mem h
  rw [heq]
  exact exists_find?_ofFields (hperm.mem_iff.mpr hmem)

theorem nodup_keys (h : (fields.map fun field => lowered field.1).Nodup) :
    ((fields.map lowerKey).map Prod.fst).Nodup := by
  rw [List.map_map]
  exact h

/-- **Where no two keys differ only in their case, the order of fields does not matter.** -/
theorem ofMixedCase_eq (h : (fields.map fun field => lowered field.1).Nodup) (order : FieldOrder) :
    ofMixedCase order fields = ofFields (fields.map lowerKey) := by
  obtain ⟨arranged, hperm, heq⟩ := exists_ofMixedCase_eq order fields
  rw [heq, ofFields_eq_of_perm hperm.symm (nodup_keys h)]

theorem ofAnyCase_eq (h : (fields.map fun field => lowered field.1).Nodup) (order : FieldOrder) :
    ofAnyCase order fields = ofFields (fields.map lowerKey) :=
  (ofFields_eq_of_perm ((order.perm fields).symm.map lowerKey) (nodup_keys h)).symm

end Table

namespace Value

/-! ## Values without such keys -/

mutual

/-- **No table in a value has keys that differ only in their case.** -/
def Unambiguous : Value → Prop
  | list items => UnambiguousItems items
  | table fields => (fields.map fun field => lowered field.1).Nodup ∧ UnambiguousFields fields
  | mixed fields =>
    (fields.map fun field => lowered field.1.keyText).Nodup ∧ UnambiguousMixed fields
  | _ => True

def UnambiguousItems : List Value → Prop
  | [] => True
  | v :: rest => v.Unambiguous ∧ UnambiguousItems rest

def UnambiguousFields : List (String × Value) → Prop
  | [] => True
  | (_, v) :: rest => v.Unambiguous ∧ UnambiguousFields rest

def UnambiguousMixed : List (Value × Value) → Prop
  | [] => True
  | (_, v) :: rest => v.Unambiguous ∧ UnambiguousMixed rest

end

/-! Putting keys into lower case keeps the keys of a table as far as their case does not matter. -/

theorem map_lowerOuterFields (order : FieldOrder) (fields : List (String × Value)) :
    (lowerOuterFields order fields).map (fun field => lowered field.1)
      = fields.map fun field => lowered field.1 := by
  induction fields with
  | nil => rfl
  | cons field rest ih => rw [lowerOuterFields, List.map_cons, List.map_cons, ih]

theorem map_lowerMixed (order : FieldOrder) (fields : List (Value × Value)) :
    (lowerMixed order fields).map (fun field => lowered field.1)
      = fields.map fun field => lowered field.1.keyText := by
  induction fields with
  | nil => rfl
  | cons field rest ih => rw [lowerMixed, List.map_cons, List.map_cons, ih]

theorem lowerFields_eq_map (order : FieldOrder) (fields : List (String × Value)) :
    lowerFields order fields = fields.map fun field => (field.1, field.2.lowerKeys order) := by
  induction fields with
  | nil => rfl
  | cons field rest ih => rw [lowerFields, List.map_cons, ih]

theorem map_lowerFields (order : FieldOrder) (fields : List (String × Value)) :
    (lowerFields order fields).map (fun field => lowered field.1)
      = fields.map fun field => lowered field.1 := by
  rw [lowerFields_eq_map, List.map_map]
  rfl

section Order

variable (order order' : FieldOrder)

mutual

theorem lowerOuterKeys_eq : ∀ v : Value, v.Unambiguous →
    v.lowerOuterKeys order = v.lowerOuterKeys order'
  | table fields, h => by
    rw [lowerOuterKeys, lowerOuterKeys, Table.ofAnyCase_eq, Table.ofAnyCase_eq,
      lowerOuterFields_eq fields h.2]
    · rw [map_lowerOuterFields]
      exact h.1
    · rw [map_lowerOuterFields]
      exact h.1
  | mixed fields, h => by
    rw [lowerOuterKeys, lowerOuterKeys, Table.ofAnyCase_eq, Table.ofAnyCase_eq,
      lowerMixed_eq fields h.2]
    · rw [map_lowerMixed]
      exact h.1
    · rw [map_lowerMixed]
      exact h.1
  | null, _ | truth _, _ | integer _, _ | float _, _ | text _, _ | calendar _, _ | list _, _ => rfl

theorem lowerOuterFields_eq : ∀ fields : List (String × Value), UnambiguousFields fields →
    lowerOuterFields order fields = lowerOuterFields order' fields
  | [], _ => rfl
  | (_, v) :: rest, h => by
    rw [lowerOuterFields, lowerOuterFields, lowerOuterKeys_eq v h.1, lowerOuterFields_eq rest h.2]

theorem lowerMixed_eq : ∀ fields : List (Value × Value), UnambiguousMixed fields →
    lowerMixed order fields = lowerMixed order' fields
  | [], _ => rfl
  | (_, v) :: rest, h => by
    rw [lowerMixed, lowerMixed, lowerOuterKeys_eq v h.1, lowerMixed_eq rest h.2]

end

mutual

/-- **The keys of an unambiguous value are put into lower case in one way.** -/
theorem lowerKeys_eq : ∀ v : Value, v.Unambiguous → v.lowerKeys order = v.lowerKeys order'
  | list items, h => by rw [lowerKeys, lowerKeys, lowerItems_eq items h]
  | table fields, h => by
    rw [lowerKeys, lowerKeys, Table.ofMixedCase_eq, Table.ofMixedCase_eq, lowerFields_eq fields h.2]
    · rw [map_lowerFields]
      exact h.1
    · rw [map_lowerFields]
      exact h.1
  | mixed fields, h => by
    rw [lowerKeys, lowerKeys, Table.ofAnyCase_eq, Table.ofAnyCase_eq,
      lowerMixed_eq order order' fields h.2]
    · rw [map_lowerMixed]
      exact h.1
    · rw [map_lowerMixed]
      exact h.1
  | null, _ | truth _, _ | integer _, _ | float _, _ | text _, _ | calendar _, _ => rfl

theorem lowerItems_eq : ∀ items : List Value, UnambiguousItems items →
    lowerItems order items = lowerItems order' items
  | [], _ => rfl
  | v :: rest, h => by rw [lowerItems, lowerItems, lowerKeys_eq v h.1, lowerItems_eq rest h.2]

theorem lowerFields_eq : ∀ fields : List (String × Value), UnambiguousFields fields →
    lowerFields order fields = lowerFields order' fields
  | [], _ => rfl
  | (_, v) :: rest, h => by
    rw [lowerFields, lowerFields, lowerKeys_eq v h.1, lowerFields_eq rest h.2]

end

end Order

end Value

/-! ## Configuration files -/

namespace ConfigFile

variable {order order' : FieldOrder} {files : FileTree} {environment : List (String × String)}
  {path : String}

/-- **A configuration file has a value for a key** under one of the spellings of the key. -/
def Spells (files : FileTree) (environment : List (String × String)) (path key : String)
    (v : Value) : Prop :=
  ∃ consulted bytes fields spelling, Consulted files path consulted ∧
    files.read consulted = .ok bytes ∧ document? environment consulted bytes = some fields ∧
    (spelling, v) ∈ fields ∧ lowered spelling = key

/-- What is loaded comes from the document in the file that is consulted, if there is one. -/
theorem load_cases {table : Table} (h : load order files environment path = .ok table) :
    (table = [] ∧ ∀ consulted, ¬ Consulted files path consulted) ∨
      ∃ consulted bytes fields, Consulted files path consulted ∧
        files.read consulted = .ok bytes ∧ document? environment consulted bytes = some fields ∧
        table = Table.ofMixedCase order (Value.lowerFields order fields) := by
  unfold load at h
  unfold Consulted
  by_cases hpath : path = ""
  · simp only [if_pos hpath] at h ⊢
    cases herror : searchError? files with
    | some e =>
      rw [herror] at h
      cases h
    | none =>
      rw [herror] at h
      cases hsearch : search? files with
      | none =>
        rw [hsearch] at h
        cases h
        exact .inl ⟨rfl, by simp⟩
      | some found =>
        rw [hsearch] at h
        obtain ⟨bytes, fields, hread, hdocument, rfl⟩ := read_eq_ok_iff_document.mp h
        exact .inr ⟨found, bytes, fields, rfl, hread, hdocument, rfl⟩
  · simp only [if_neg hpath] at h ⊢
    obtain ⟨bytes, fields, hread, hdocument, rfl⟩ := read_eq_ok_iff_document.mp h
    exact .inr ⟨path, bytes, fields, rfl, hread, hdocument, rfl⟩

theorem Consulted.unique {consulted consulted' : String} (h : Consulted files path consulted)
    (h' : Consulted files path consulted') : consulted = consulted' := by
  unfold Consulted at h h'
  split at h
  · rename_i hpath
    rw [if_pos hpath] at h'
    exact Option.some.inj (h.symm.trans h')
  · rename_i hpath
    rw [if_neg hpath] at h'
    exact h.trans h'.symm

/-- **A key has a value just when the file spells it in some way**, and then it has the value of one
of the spellings. -/
theorem spells_of_load {table : Table} (h : load order files environment path = .ok table)
    (key : String) :
    (table.find? key = none ↔ ∀ w, ¬ Spells files environment path key w) ∧
      ∀ v, table.find? key = some v →
        ∃ w, Spells files environment path key w ∧ v = w.lowerKeys order := by
  obtain ⟨rfl, hnot⟩ | ⟨consulted, bytes, fields, hconsulted, hread, hdocument, rfl⟩ := load_cases h
  · refine ⟨iff_of_true rfl ?_, fun v hv => by cases hv⟩
    rintro w ⟨consulted, -, -, -, hconsulted, -⟩
    exact hnot consulted hconsulted
  · have hsome : ∀ v,
        (Table.ofMixedCase order (Value.lowerFields order fields)).find? key = some v →
        ∃ w, Spells files environment path key w ∧ v = w.lowerKeys order := by
      intro v hv
      obtain ⟨spelling, hmem, hkey⟩ := Table.exists_mem_of_find?_ofMixedCase hv
      rw [Value.lowerFields_eq_map] at hmem
      obtain ⟨field, hfield, heq⟩ := List.mem_map.mp hmem
      cases heq
      exact ⟨field.2,
        ⟨consulted, bytes, fields, field.1, hconsulted, hread, hdocument, hfield, hkey⟩, rfl⟩
    refine ⟨⟨?_, fun hnot => ?_⟩, hsome⟩
    · rintro hnone w
        ⟨consulted', bytes', fields', spelling, hconsulted', hread', hdocument', hmem, rfl⟩
      obtain rfl := hconsulted.unique hconsulted'
      obtain rfl := Except.ok.inj (hread.symm.trans hread')
      obtain rfl := Option.some.inj (hdocument.symm.trans hdocument')
      have hlowered : (spelling, w.lowerKeys order) ∈ Value.lowerFields order fields := by
        rw [Value.lowerFields_eq_map]
        exact List.mem_map_of_mem (f := fun field => (field.1, field.2.lowerKeys order)) hmem
      obtain ⟨v, hv⟩ := Table.exists_find?_ofMixedCase hlowered order
      rw [hnone] at hv
      cases hv
    · refine Option.eq_none_iff_forall_ne_some.mpr fun v hv => ?_
      obtain ⟨w, hspells, -⟩ := hsome v hv
      exact hnot w hspells

/-- **The order does not matter for a file in which no two keys of a table differ only in their
case.** -/
theorem load_eq_of_unambiguous
    (h : ∀ consulted bytes fields, Consulted files path consulted →
      files.read consulted = .ok bytes → document? environment consulted bytes = some fields →
      Value.Unambiguous (.table fields)) :
    load order' files environment path = load order files environment path := by
  refine load_congr fun consulted hconsulted => ?_
  unfold read
  cases hformat : FileFormat.extensions.lookup (extension consulted) with
  | none => rfl
  | some format =>
    cases hread : files.read consulted with
    | error e => rfl
    | ok bytes =>
      cases hfields : format.document environment bytes with
      | none => simp only [hfields]
      | some fields =>
        have hdocument : document? environment consulted bytes = some fields := by
          unfold document?
          rw [hformat]
          exact hfields
        have hunambiguous := h consulted bytes fields hconsulted hread hdocument
        simp only [hfields]
        rw [Value.table.inj (Value.lowerKeys_eq order' order _ hunambiguous)]

end ConfigFile

end Nesting
