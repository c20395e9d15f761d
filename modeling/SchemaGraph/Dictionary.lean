/-!
# Dictionaries

Values under texts as keys, in the order in which the keys were first set. A value is either set
for good, or only where its key has none yet; the first way keeps the last value of each key, and
the second way the first one.
-/

namespace SchemaGraph

/-- Values under keys, in the order in which the keys were first set. -/
structure Dictionary (β : Type) where
  entries : List (String × β)
deriving DecidableEq, Repr

namespace Dictionary

variable {β : Type}

/-- The dictionary without keys. -/
def empty : Dictionary β := ⟨[]⟩

/-- The value under a key. -/
def get? (d : Dictionary β) (key : String) : Option β :=
  d.entries.lookup key

/-- Entries with another value under a key. -/
def replace (key : String) (value : β) (entries : List (String × β)) : List (String × β) :=
  entries.map fun e => if e.1 = key then (key, value) else e

/-- The dictionary with a value under a key; a key that was set before keeps its place. -/
def set (d : Dictionary β) (key : String) (value : β) : Dictionary β where
  entries :=
    if (d.get? key).isSome then replace key value d.entries else d.entries ++ [(key, value)]

/-- The dictionary with a value under a key, unless the key has one already. -/
def setDefault (d : Dictionary β) (key : String) (value : β) : Dictionary β where
  entries := if (d.get? key).isSome then d.entries else d.entries ++ [(key, value)]

/-- The dictionary of some entries; of several values under one key the first counts. -/
def ofFirst (entries : List (String × β)) : Dictionary β :=
  entries.foldl (fun d e => d.setDefault e.1 e.2) empty

/-- The dictionary of some entries; of several values under one key the last counts. -/
def ofLast (entries : List (String × β)) : Dictionary β :=
  entries.foldl (fun d e => d.set e.1 e.2) empty

@[simp] theorem get?_empty (key : String) : (empty : Dictionary β).get? key = none := rfl

theorem lookup_entry (key k : String) (value : β) (entries : List (String × β)) :
    ((key, value) :: entries).lookup k = if key = k then some value else entries.lookup k := by
  by_cases hk : key = k
  · simp [hk]
  · simp [List.lookup_cons, beq_eq_false_iff_ne.mpr (Ne.symm hk), hk]

/-- Under its key the first item that has the key is found. -/
theorem lookup_map_entry (id : β → String) (items : List β) (key : String) :
    (items.map fun a => (id a, a)).lookup key = items.find? (id · == key) := by
  induction items with
  | nil => rfl
  | cons a as ih =>
    rw [List.map_cons, lookup_entry, ih, List.find?_cons]
    by_cases h : id a = key
    · simp [h]
    · simp [h, beq_eq_false_iff_ne.mpr h]

/-! ### Setting defaults -/

theorem setDefault_of_isSome {d : Dictionary β} {key : String} (value : β)
    (h : (d.get? key).isSome) : d.setDefault key value = d := by
  simp [setDefault, h]

theorem setDefault_of_eq_none {d : Dictionary β} {key : String} (value : β)
    (h : d.get? key = none) : d.setDefault key value = ⟨d.entries ++ [(key, value)]⟩ := by
  simp [setDefault, h]

theorem get?_setDefault (d : Dictionary β) (key k : String) (value : β) :
    (d.setDefault key value).get? k = (d.get? k).or (if key = k then some value else none) := by
  cases h : d.get? key with
  | some v =>
    rw [setDefault_of_isSome value (by simp [h])]
    by_cases hk : key = k
    · subst hk
      simp [h]
    · simp [hk]
  | none =>
    rw [setDefault_of_eq_none value h]
    simp only [get?, List.lookup_append, lookup_entry, List.lookup_nil]

/-! ### Setting values -/

@[simp] theorem replace_append (key : String) (value : β) (es es' : List (String × β)) :
    replace key value (es ++ es') = replace key value es ++ replace key value es' :=
  List.map_append

theorem lookup_replace (key k : String) (value : β) (entries : List (String × β)) :
    (replace key value entries).lookup k =
      if key = k then (entries.lookup k).map fun _ => value else entries.lookup k := by
  induction entries with
  | nil => simp [replace]
  | cons e es ih =>
    obtain ⟨k', v'⟩ := e
    simp only [replace, List.map_cons] at ih ⊢
    by_cases he : k' = key
    · subst he
      simp only [if_true, lookup_entry, ih]
      split <;> rfl
    · simp only [he, if_false, lookup_entry, ih]
      by_cases hk : k' = k
      · subst hk
        simp [Ne.symm he]
      · simp [hk]

theorem replace_of_lookup_eq_none {key : String} (value : β) {entries : List (String × β)}
    (h : entries.lookup key = none) : replace key value entries = entries := by
  have hother : ∀ e ∈ entries, (if e.1 = key then (key, value) else e) = id e := by
    intro e he
    have hne := List.lookup_eq_none_iff.mp h e he
    simp only [id_eq, ite_eq_right_iff]
    intro heq
    simp [heq] at hne
  rw [replace, List.map_congr_left hother, List.map_id]

theorem set_of_isSome {d : Dictionary β} {key : String} (value : β) (h : (d.get? key).isSome) :
    d.set key value = ⟨replace key value d.entries⟩ := by
  simp [set, h]

theorem get?_set_of_isSome {d : Dictionary β} {key : String} (k : String) (value : β)
    (h : (d.get? key).isSome) :
    (d.set key value).get? k = if key = k then some value else d.get? k := by
  obtain ⟨v, hv⟩ := Option.isSome_iff_exists.mp h
  rw [set_of_isSome value h]
  simp only [get?, lookup_replace] at hv ⊢
  by_cases hk : key = k
  · subst hk
    simp [hv]
  · simp [hk]

/-- Setting a key that has a value and giving a default to any key can be done in either order. -/
theorem set_setDefault {d : Dictionary β} {key : String} (value : β) (k : String) (v : β)
    (h : (d.get? key).isSome) :
    (d.setDefault k v).set key value = (d.set key value).setDefault k v := by
  have hset : ((d.setDefault k v).get? key).isSome := by
    simp [get?_setDefault, h]
  rw [set_of_isSome value hset]
  cases hk : d.get? k with
  | some w =>
    have hk' : ((d.set key value).get? k).isSome := by
      rw [get?_set_of_isSome k value h]
      split <;> simp [hk]
    rw [setDefault_of_isSome v (by simp [hk]), setDefault_of_isSome v hk', set_of_isSome value h]
  | none =>
    have hne : key ≠ k := fun heq => by simp [heq, hk] at h
    have hk' : (d.set key value).get? k = none := by
      simp [get?_set_of_isSome k value h, hne, hk]
    rw [setDefault_of_eq_none v hk, setDefault_of_eq_none v hk', set_of_isSome value h]
    simp [replace, Ne.symm hne]

/-- A value that is set right after a default takes the place of the default. -/
theorem set_setDefault_self {d : Dictionary β} {key : String} (value v : β)
    (h : d.get? key = none) : (d.setDefault key v).set key value = d.setDefault key value := by
  have hset : ((d.setDefault key v).get? key).isSome := by
    simp [get?_setDefault]
  rw [set_of_isSome value hset, setDefault_of_eq_none v h, setDefault_of_eq_none value h,
    replace_append, replace_of_lookup_eq_none value h]
  simp [replace]

/-! ### First values -/

@[simp] theorem ofFirst_nil : ofFirst ([] : List (String × β)) = empty := rfl

theorem ofFirst_concat (entries : List (String × β)) (e : String × β) :
    ofFirst (entries ++ [e]) = (ofFirst entries).setDefault e.1 e.2 :=
  List.foldl_append

/-- Further entries count only for the keys that have no value yet. -/
theorem get?_foldl_setDefault (d : Dictionary β) (entries : List (String × β)) (key : String) :
    (entries.foldl (fun d e => d.setDefault e.1 e.2) d).get? key =
      (d.get? key).or (entries.lookup key) := by
  induction entries generalizing d with
  | nil => simp
  | cons e es ih =>
    rw [List.foldl_cons, ih, get?_setDefault, Option.or_assoc, lookup_entry]
    congr 1
    split <;> simp

@[simp] theorem get?_ofFirst (entries : List (String × β)) (key : String) :
    (ofFirst entries).get? key = entries.lookup key := by
  simp [ofFirst, get?_foldl_setDefault]

/-! ### Last values -/

theorem get?_set (d : Dictionary β) (key k : String) (value : β) :
    (d.set key value).get? k = if key = k then some value else d.get? k := by
  cases h : d.get? key with
  | some v => exact get?_set_of_isSome k value (by simp [h])
  | none =>
    -- the new entry stands behind all others, and none of them has its key
    have hnew : d.set key value = d.setDefault key value := by
      simp [set, setDefault, h]
    rw [hnew, get?_setDefault]
    by_cases hk : key = k
    · subst hk
      simp [h]
    · simp [hk]

/-- Further entries count before the values that were set already, and the last ones first. -/
theorem get?_foldl_set (d : Dictionary β) (entries : List (String × β)) (key : String) :
    (entries.foldl (fun d e => d.set e.1 e.2) d).get? key =
      (entries.reverse.lookup key).or (d.get? key) := by
  induction entries generalizing d with
  | nil => simp
  | cons e es ih =>
    rw [List.foldl_cons, ih, get?_set, List.reverse_cons, List.lookup_append, Option.or_assoc,
      lookup_entry, List.lookup_nil]
    congr 1
    split <;> simp

@[simp] theorem get?_ofLast (entries : List (String × β)) (key : String) :
    (ofLast entries).get? key = entries.reverse.lookup key := by
  simp [ofLast, get?_foldl_set]

end Dictionary

end SchemaGraph
