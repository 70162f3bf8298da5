/-!
# Finite tables

A table maps finitely many keys to values and keeps them in the order in which they were last
stored.  It is described by `get?` alone: each operation has one equation for it, and the size
changes by one exactly when a key comes or goes.
-/

namespace ScriptHost

/-- A finite map.  No key occurs twice. -/
structure Table (κ ν : Type) where
  entries : List (κ × ν)
  nodup_keys : (entries.map (·.1)).Nodup

namespace Table

variable {κ ν : Type}

/-- The table without keys. -/
def empty : Table κ ν := ⟨[], by simp⟩

instance : Inhabited (Table κ ν) := ⟨empty⟩

/-- The number of keys. -/
def size (t : Table κ ν) : Nat := t.entries.length

/-- Whether the table has no keys. -/
def isEmpty (t : Table κ ν) : Bool := t.entries.isEmpty

/-- The keys, in the order in which they were last stored. -/
def keys (t : Table κ ν) : List κ := t.entries.map (·.1)

/-- The values, in the order in which they were last stored. -/
def values (t : Table κ ν) : List ν := t.entries.map (·.2)

/-- Keep the entries that satisfy a test. -/
def filter (p : κ → ν → Bool) (t : Table κ ν) : Table κ ν :=
  ⟨t.entries.filter fun e => p e.1 e.2,
    List.Nodup.sublist (List.filter_sublist.map _) t.nodup_keys⟩

/-- Change values where they stand. -/
def mapValues (f : κ → ν → ν) (t : Table κ ν) : Table κ ν :=
  ⟨t.entries.map fun e => (e.1, f e.1 e.2), by
    have h : ((t.entries.map fun e => (e.1, f e.1 e.2)).map (·.1)) = t.entries.map (·.1) := by
      simp [List.map_map, Function.comp_def]
    rw [h]
    exact t.nodup_keys⟩

variable [DecidableEq κ]

/-- The value stored under a key. -/
def get? (t : Table κ ν) (k : κ) : Option ν := (t.entries.find? (·.1 = k)).map (·.2)

/-- Whether a key is in the table. -/
def contains (t : Table κ ν) (k : κ) : Bool := (t.get? k).isSome

/-- Take a key out. -/
def erase (t : Table κ ν) (k : κ) : Table κ ν := t.filter fun j _ => j ≠ k

/-- Store a value under a key, in place of the value it has. -/
def insert (t : Table κ ν) (k : κ) (v : ν) : Table κ ν :=
  ⟨(t.erase k).entries ++ [(k, v)], by
    rw [List.map_append, List.nodup_append]
    refine ⟨(t.erase k).nodup_keys, by simp, ?_⟩
    intro a ha b hb
    obtain ⟨e, he, rfl⟩ := List.mem_map.1 ha
    have hne : e.1 ≠ k := by simpa using (List.mem_filter.1 he).2
    have hb : b = k := by simpa using hb
    exact hb ▸ hne⟩

/-- Change the value of a key where it stands, if the key is in the table. -/
def modify (t : Table κ ν) (k : κ) (f : ν → ν) : Table κ ν :=
  t.mapValues fun j v => if j = k then f v else v

@[simp] theorem get?_empty (k : κ) : (empty : Table κ ν).get? k = none := rfl

theorem get?_eq_some_iff (t : Table κ ν) (k : κ) (v : ν) :
    t.get? k = some v ↔ (k, v) ∈ t.entries := by
  have h := t.nodup_keys
  simp only [get?]
  generalize t.entries = es at h ⊢
  induction es with
  | nil => simp
  | cons e rest ih =>
      have ⟨hnot, hrest⟩ := List.nodup_cons.1 h
      by_cases he : e.1 = k
      · subst he
        have hout : (e.1, v) ∉ rest := fun hm => hnot (List.mem_map.2 ⟨(e.1, v), hm, rfl⟩)
        simp [hout, Prod.ext_iff, eq_comm]
      · have hne : (k, v) ≠ e := fun h => he (by rw [← h])
        simp [he, hne, ih hrest]

theorem get?_eq_none_iff (t : Table κ ν) (k : κ) : t.get? k = none ↔ k ∉ t.keys := by
  simp only [get?, keys, Option.map_eq_none_iff, List.find?_eq_none, List.mem_map, not_exists,
    not_and, decide_eq_true_eq]

theorem contains_iff (t : Table κ ν) (k : κ) : t.contains k = true ↔ k ∈ t.keys := by
  rw [contains, ← Decidable.not_iff_not, ← get?_eq_none_iff]
  simp

theorem get?_filter (t : Table κ ν) (p : κ → ν → Bool) (k : κ) :
    (t.filter p).get? k = (t.get? k).filter (p k) := by
  apply Option.ext
  intro v
  rw [get?_eq_some_iff, Option.filter_eq_some_iff, get?_eq_some_iff]
  simp [filter]

@[simp] theorem get?_erase (t : Table κ ν) (k j : κ) :
    (t.erase k).get? j = if j = k then none else t.get? j := by
  rw [erase, get?_filter]
  by_cases h : j = k <;> cases t.get? j <;> simp [h, Option.filter]

@[simp] theorem get?_insert (t : Table κ ν) (k : κ) (v : ν) (j : κ) :
    (t.insert k v).get? j = if j = k then some v else t.get? j := by
  apply Option.ext
  intro w
  rw [get?_eq_some_iff]
  have h := get?_eq_some_iff (t.erase k) j w
  rw [get?_erase] at h
  by_cases hj : j = k
  · subst hj
    simp [insert, ← h, eq_comm]
  · simp [insert, ← h, hj]

theorem get?_mapValues (t : Table κ ν) (f : κ → ν → ν) (k : κ) :
    (t.mapValues f).get? k = (t.get? k).map (f k) := by
  apply Option.ext
  intro v
  rw [get?_eq_some_iff, Option.map_eq_some_iff]
  simp only [mapValues, List.mem_map, Prod.mk.injEq, get?_eq_some_iff]
  constructor
  · rintro ⟨e, he, rfl, rfl⟩
    exact ⟨e.2, he, rfl⟩
  · rintro ⟨w, hw, rfl⟩
    exact ⟨(k, w), hw, rfl, rfl⟩

theorem get?_modify (t : Table κ ν) (k : κ) (f : ν → ν) (j : κ) :
    (t.modify k f).get? j = if j = k then (t.get? j).map f else t.get? j := by
  rw [modify, get?_mapValues]
  by_cases h : j = k <;> cases t.get? j <;> simp [h]

end Table
end ScriptHost
