import Mathlib.Data.List.Induction
import SchemaGraph.ForeignKey.Resolution

/-!
# Indexes keep up with their tables

A resolution changes one table at a time: the first one of an id, which it finds by the place of
that id. `indexTables_set_findIdx` says that the same change, made in the index, gives the index of
the changed tables, and `map_id_set_findIdx` that all ids stay where they are.
-/

namespace SchemaGraph

/-! ### Dictionaries -/

/-- Another value in the first entry of a key is another value of the key. -/
lemma Dictionary.ofFirst_set_findIdx {β : Type} (entries : List (String × β)) (key : String)
    (value : β) (h : (entries.lookup key).isSome) :
    ofFirst (entries.set (entries.findIdx (·.1 == key)) (key, value)) =
      (ofFirst entries).set key value := by
  induction entries using List.reverseRecOn with
  | nil => simp at h
  | append_singleton es e ih =>
    rw [List.findIdx_append]
    split_ifs with hlt
    · -- the first entry of the key stands among `es`, so the last entry stays as it is
      have hes : (es.lookup key).isSome := by
        obtain ⟨x, hx, hkey⟩ := List.findIdx_lt_length.mp hlt
        exact List.lookup_isSome_iff.mpr ⟨x, hx, by rwa [BEq.comm]⟩
      rw [List.set_append_left _ _ hlt, ofFirst_concat, ofFirst_concat, ih hes,
        set_setDefault value e.1 e.2 (by simpa using hes)]
    · -- no entry of `es` has the key, so the last one is its first
      have hes : es.lookup key = none := by
        refine List.lookup_eq_none_iff.mpr fun x hx => ?_
        have hall := List.findIdx_eq_length.mp
          (Nat.le_antisymm List.findIdx_le_length (Nat.not_lt.mp hlt)) x hx
        exact bne_iff_ne.mpr (Ne.symm (beq_eq_false_iff_ne.mp hall))
      have he : e.1 = key := by
        rw [List.lookup_append, hes, Option.none_or] at h
        obtain ⟨x, hx, hkey⟩ := List.lookup_isSome_iff.mp h
        rw [List.mem_singleton.mp hx] at hkey
        exact (beq_iff_eq.mp hkey).symm
      subst he
      have hset : (es ++ [e]).set (es.length + [e].findIdx (·.1 == e.1)) (e.1, value) =
          es ++ [(e.1, value)] := by
        simp [List.findIdx_singleton]
      rw [Nat.add_comm, hset, ofFirst_concat, ofFirst_concat,
        set_setDefault_self value e.2 (by simpa using hes)]

/-! ### Distinct ids -/

/-- Where ids are distinct, an item shares its id with no other one. -/
lemma ne_of_nodup_map {α : Type} {id : α → String} {items before after : List α} {a : α}
    (h : (items.map id).Nodup) (hsplit : items = before ++ a :: after) :
    (∀ b ∈ before, id b ≠ id a) ∧ ∀ b ∈ after, id b ≠ id a := by
  rw [hsplit, List.map_append, List.map_cons, List.nodup_append] at h
  obtain ⟨-, hcons, hapart⟩ := h
  constructor
  · intro b hb
    exact hapart (id b) (List.mem_map_of_mem hb) (id a) List.mem_cons_self
  · intro b hb hid
    exact (List.nodup_cons.mp hcons).1 (hid ▸ List.mem_map_of_mem hb)

/-- Where ids are distinct, every item is found by its own. -/
lemma find?_of_nodup_map {α : Type} {id : α → String} {items : List α} {a : α}
    (h : (items.map id).Nodup) (ha : a ∈ items) : items.find? (id · == id a) = some a := by
  obtain ⟨before, after, hsplit⟩ := List.append_of_mem ha
  have hbefore : before.find? (id · == id a) = none := by
    simpa [List.find?_eq_none] using (ne_of_nodup_map h hsplit).1
  rw [hsplit, List.find?_append, hbefore]
  simp

/-! ### Tables -/

variable {tables : List Table} {id : String}

/-- A change of the first table of an id leaves all ids where they are. -/
lemma map_id_set_findIdx {t : Table} (ht : t.id = id) :
    (tables.set (tables.findIdx (·.id == id)) t).map (·.id) = tables.map (·.id) := by
  induction tables with
  | nil => rfl
  | cons u us ih =>
    rw [List.findIdx_cons]
    by_cases hu : u.id = id
    · simp [hu, ht]
    · simp only [beq_eq_false_iff_ne.mpr hu, cond_false, List.set_cons_succ, List.map_cons, ih]

/-- The index follows a change of the first table of an id. -/
lemma indexTables_set_findIdx {t : Table} (h : (tables.find? (·.id == id)).isSome)
    (ht : t.id = id) :
    indexTables (tables.set (tables.findIdx (·.id == id)) t) = (indexTables tables).set id t := by
  have hlookup : ((tables.map fun u => (u.id, u)).lookup id).isSome := by
    rwa [← Dictionary.get?_ofFirst, ← indexTables, get?_indexTables]
  have hplace : (tables.map fun u => (u.id, u)).findIdx (·.1 == id) =
      tables.findIdx (·.id == id) := List.findIdx_map ..
  rw [indexTables, List.map_set, ht, ← hplace, Dictionary.ofFirst_set_findIdx _ _ _ hlookup,
    ← indexTables]

lemma lookup_zipIdx (ids : List String) (id : String) (k : Nat) :
    (ids.zipIdx k).lookup id = (ids.findIdx? (· == id)).map (· + k) := by
  induction ids generalizing k with
  | nil => rfl
  | cons i is ih =>
    rw [List.zipIdx_cons, Dictionary.lookup_entry, List.findIdx?_cons, ih]
    by_cases hi : i = id
    · simp [hi]
    · simp [hi, Function.comp_def, Nat.add_right_comm, Nat.add_assoc]

/-- The place of an id is the place of the first table that has it. -/
lemma get?_firstPlaces (tables : List Table) (id : String) :
    (firstPlaces (tables.map (·.id))).get? id = tables.findIdx? (·.id == id) := by
  rw [firstPlaces, Dictionary.get?_ofFirst, lookup_zipIdx, List.findIdx?_map]
  simp [Function.comp_def]

end SchemaGraph
