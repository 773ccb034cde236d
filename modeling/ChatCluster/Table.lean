/-!
# Tables

A finite map that remembers the order in which its keys came in. Everything the cluster looks up
by name is one: the slots of the shared store, the sessions of a directory, the topics of the bus,
the counters of the metrics. Tables are small, their order is visible wherever they are listed,
and every law that is needed speaks of single look-ups, so an association list does.

Each key stands once, which is part of the type. `insert` therefore keeps the place of a key that
is present and appends one that is not.

## Main definitions

* `Table`: The map.
* `Table.find?`, `Table.insert`, `Table.erase`: Its operations.
* `Table.update`: Changes a value that is present.
* `Table.filter`: Keeps the entries with a property.

## Theorems

* `find?_insert`, `find?_erase`, `find?_update`, `find?_filter`: What each operation does to
  every look-up.
* `mem_iff_find?`: The entries of a table are its look-ups.
-/

namespace ChatCluster

/-- A finite map in the order of first insertion. -/
structure Table (κ υ : Type) where
  /-- The entries, oldest key first. -/
  entries : List (κ × υ)
  /-- Each key stands once. -/
  nodup_keys : (entries.map Prod.fst).Nodup

namespace Table

variable {κ υ : Type}

/-- The table without entries. -/
def empty : Table κ υ :=
  ⟨[], List.nodup_nil⟩

instance : Inhabited (Table κ υ) := ⟨empty⟩

instance : EmptyCollection (Table κ υ) := ⟨empty⟩

@[ext] theorem ext {s t : Table κ υ} (h : s.entries = t.entries) : s = t := by
  cases s; cases t; simp_all

/-- The keys, oldest first. -/
def keys (t : Table κ υ) : List κ :=
  t.entries.map Prod.fst

/-- The values, in the order of their keys. -/
def values (t : Table κ υ) : List υ :=
  t.entries.map Prod.snd

/-- How many keys there are. -/
def size (t : Table κ υ) : Nat :=
  t.entries.length

/-- Keeps the entries with a property. -/
def filter (p : κ → υ → Bool) (t : Table κ υ) : Table κ υ where
  entries := t.entries.filter fun e => p e.1 e.2
  nodup_keys := (t.nodup_keys).sublist (List.filter_sublist.map _)

theorem map_fst_map (f : κ → υ → υ) (entries : List (κ × υ)) :
    (entries.map fun e => (e.1, f e.1 e.2)).map Prod.fst = entries.map Prod.fst := by
  simp [List.map_map, Function.comp_def]

/-- Replaces every value by one computed from it and its key. -/
def mapValues (f : κ → υ → υ) (t : Table κ υ) : Table κ υ where
  entries := t.entries.map fun e => (e.1, f e.1 e.2)
  nodup_keys := by rw [map_fst_map]; exact t.nodup_keys

variable [DecidableEq κ]

/-- The value at a key in a list of entries, taken from the first that has the key. -/
def lookup (k : κ) : List (κ × υ) → Option υ
  | [] => none
  | (k', v) :: es => if k' = k then some v else lookup k es

/-- The value at a key. -/
def find? (t : Table κ υ) (k : κ) : Option υ :=
  lookup k t.entries

/-- The key has a value. -/
def contains (t : Table κ υ) (k : κ) : Bool :=
  (t.find? k).isSome

theorem lookup_eq_none_iff {entries : List (κ × υ)} {k : κ} :
    lookup k entries = none ↔ k ∉ entries.map Prod.fst := by
  induction entries with
  | nil => simp [lookup]
  | cons e es ih =>
    obtain ⟨k', v⟩ := e
    by_cases h : k' = k
    · simp [lookup, h]
    · simp [lookup, h, Ne.symm h, ih]

/-- Changes the value at a key, if it has one. -/
def update (t : Table κ υ) (k : κ) (f : υ → υ) : Table κ υ :=
  t.mapValues fun k' v => if k' = k then f v else v

/-- Sets the value at a key. A key that is present keeps its place. -/
def insert (t : Table κ υ) (k : κ) (v : υ) : Table κ υ :=
  if h : t.find? k = none then
    { entries := t.entries ++ [(k, v)]
      nodup_keys := by
        have hk := lookup_eq_none_iff.1 h
        rw [List.map_append, List.nodup_append]
        refine ⟨t.nodup_keys, by simp, ?_⟩
        intro a ha b hb hab
        simp only [List.map_cons, List.map_nil, List.mem_singleton] at hb
        exact hk (hb ▸ hab ▸ ha) }
  else
    t.update k fun _ => v

/-- Takes a key out. -/
def erase (t : Table κ υ) (k : κ) : Table κ υ :=
  t.filter fun k' _ => k' ≠ k

@[simp] theorem find?_empty (k : κ) : (empty : Table κ υ).find? k = none := rfl

theorem lookup_map (f : κ → υ → υ) (entries : List (κ × υ)) (k : κ) :
    lookup k (entries.map fun e => (e.1, f e.1 e.2)) = (lookup k entries).map (f k) := by
  induction entries with
  | nil => rfl
  | cons e es ih =>
    obtain ⟨k', v⟩ := e
    by_cases h : k' = k
    · simp [lookup, h]
    · simp [lookup, h, ih]

theorem lookup_append (entries more : List (κ × υ)) (k : κ) :
    lookup k (entries ++ more) = (lookup k entries).or (lookup k more) := by
  induction entries with
  | nil => rfl
  | cons e es ih =>
    obtain ⟨k', v⟩ := e
    by_cases h : k' = k
    · simp [lookup, h]
    · simp [lookup, h, ih]

theorem find?_mapValues (t : Table κ υ) (f : κ → υ → υ) (k : κ) :
    (t.mapValues f).find? k = (t.find? k).map (f k) :=
  lookup_map f t.entries k

theorem find?_update (t : Table κ υ) (k j : κ) (f : υ → υ) :
    (t.update k f).find? j = if j = k then (t.find? j).map f else t.find? j := by
  rw [update, find?_mapValues]
  by_cases h : j = k
  · simp [h]
  · simp [h]

theorem update_eq_self {t : Table κ υ} {k : κ} (h : t.find? k = none) (f : υ → υ) :
    t.update k f = t := by
  have hk := lookup_eq_none_iff.1 h
  refine ext ((List.map_congr_left fun e he => ?_).trans (List.map_id t.entries))
  have hne : e.1 ≠ k := fun heq => hk (heq ▸ List.mem_map_of_mem he)
  simp [hne]

theorem find?_insert (t : Table κ υ) (k j : κ) (v : υ) :
    (t.insert k v).find? j = if j = k then some v else t.find? j := by
  unfold insert
  split
  · next h =>
    simp only [find?] at h ⊢
    rw [lookup_append]
    by_cases hj : j = k
    · subst hj; simp [h, lookup]
    · simp [hj, lookup, Ne.symm hj]
  · next h =>
    rw [find?_update]
    obtain ⟨w, hw⟩ := Option.ne_none_iff_exists'.1 h
    by_cases hj : j = k
    · subst hj; simp [hw]
    · simp [hj]

@[simp] theorem find?_insert_self (t : Table κ υ) (k : κ) (v : υ) :
    (t.insert k v).find? k = some v := by
  simp [find?_insert]

theorem find?_insert_of_ne (t : Table κ υ) {k j : κ} (v : υ) (h : j ≠ k) :
    (t.insert k v).find? j = t.find? j := by
  simp [find?_insert, h]

theorem lookup_filter (p : κ → υ → Bool) (entries : List (κ × υ))
    (hn : (entries.map Prod.fst).Nodup) (k : κ) :
    lookup k (entries.filter fun e => p e.1 e.2) = (lookup k entries).filter (p k) := by
  induction entries with
  | nil => rfl
  | cons e es ih =>
    rw [List.map_cons, List.nodup_cons] at hn
    obtain ⟨k', v⟩ := e
    rw [List.filter_cons]
    by_cases h : k' = k
    · subst h
      -- The key stands once, so dropping its entry leaves none.
      have hnone : lookup k' es = none := lookup_eq_none_iff.2 hn.1
      by_cases hp : p k' v <;> simp [lookup, hp, ih hn.2, hnone, Option.filter]
    · by_cases hp : p k' v <;> simp [lookup, hp, h, ih hn.2]

theorem find?_filter (t : Table κ υ) (p : κ → υ → Bool) (k : κ) :
    (t.filter p).find? k = (t.find? k).filter (p k) :=
  lookup_filter p t.entries t.nodup_keys k

theorem find?_erase (t : Table κ υ) (k j : κ) :
    (t.erase k).find? j = if j = k then none else t.find? j := by
  rw [erase, find?_filter]
  by_cases h : j = k
  · cases t.find? j <;> simp [h, Option.filter]
  · cases t.find? j <;> simp [h, Option.filter]

theorem lookup_eq_some_iff {entries : List (κ × υ)} (hn : (entries.map Prod.fst).Nodup)
    {k : κ} {v : υ} : lookup k entries = some v ↔ (k, v) ∈ entries := by
  induction entries with
  | nil => simp [lookup]
  | cons e es ih =>
    rw [List.map_cons, List.nodup_cons] at hn
    obtain ⟨k', v'⟩ := e
    by_cases h : k' = k
    · subst h
      have hmem : (k', v) ∉ es := fun hm => hn.1 (List.mem_map.2 ⟨(k', v), hm, rfl⟩)
      simp [lookup, hmem, eq_comm]
    · have h' : k ≠ k' := Ne.symm h
      simp [lookup, h, h', ih hn.2]

theorem mem_iff_find? (t : Table κ υ) (k : κ) (v : υ) :
    (k, v) ∈ t.entries ↔ t.find? k = some v :=
  (lookup_eq_some_iff t.nodup_keys).symm

theorem mem_keys_iff (t : Table κ υ) (k : κ) : k ∈ t.keys ↔ (t.find? k).isSome := by
  rw [keys, ← Option.ne_none_iff_isSome, find?, Ne, lookup_eq_none_iff, Classical.not_not]

theorem mem_values_of_find? {t : Table κ υ} {k : κ} {v : υ} (h : t.find? k = some v) :
    v ∈ t.values :=
  List.mem_map.2 ⟨(k, v), (t.mem_iff_find? k v).2 h, rfl⟩

end Table

end ChatCluster
