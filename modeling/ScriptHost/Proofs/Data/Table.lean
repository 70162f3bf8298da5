import Mathlib.Data.List.Perm.Basic
import ScriptHost.Data.Table

/-!
# Counting in tables

How the number of values that satisfy a test changes with each operation of a table.  Where a
statement is about one key, it is about the value that the key has, so that nothing needs to be said
about the order of the entries.
-/

namespace ScriptHost.Table

variable {κ ν : Type}

theorem countP_values (t : Table κ ν) (p : ν → Bool) :
    t.values.countP p = t.entries.countP fun e => p e.2 := by
  rw [values, List.countP_map]
  rfl

theorem countP_values_true (t : Table κ ν) : t.values.countP (fun _ => true) = t.size := by
  rw [List.countP_true, values, List.length_map, size]

/-- The keys whose values satisfy a test. -/
def keysWith (t : Table κ ν) (p : ν → Bool) : List κ := (t.entries.filter fun e => p e.2).map (·.1)

theorem length_keysWith (t : Table κ ν) (p : ν → Bool) :
    (t.keysWith p).length = t.values.countP p := by
  rw [keysWith, List.length_map, ← List.countP_eq_length_filter, countP_values]

theorem nodup_keysWith (t : Table κ ν) (p : ν → Bool) : (t.keysWith p).Nodup :=
  t.nodup_keys.sublist (List.filter_sublist.map _)

variable [DecidableEq κ]

theorem size_eq_zero_iff (t : Table κ ν) : t.size = 0 ↔ ∀ k, t.get? k = none := by
  rw [size, List.length_eq_zero_iff]
  constructor
  · intro h k
    rw [get?, h]
    rfl
  · intro h
    refine List.eq_nil_iff_forall_not_mem.2 ?_
    rintro ⟨k, v⟩ hmem
    have hsome := (get?_eq_some_iff t k v).2 hmem
    rw [h k] at hsome
    cases hsome

theorem countP_values_pos_iff (t : Table κ ν) (p : ν → Bool) :
    0 < t.values.countP p ↔ ∃ k v, t.get? k = some v ∧ p v = true := by
  rw [countP_values, List.countP_pos_iff]
  constructor
  · rintro ⟨⟨k, v⟩, hmem, hp⟩
    exact ⟨k, v, (get?_eq_some_iff t k v).2 hmem, hp⟩
  · rintro ⟨k, v, hget, hp⟩
    exact ⟨(k, v), (get?_eq_some_iff t k v).1 hget, hp⟩

/-- Taking a key out of a list of entries in which no key occurs twice. -/
theorem countP_filter_key (p : ν → Bool) {k : κ} {v : ν} :
    ∀ {entries : List (κ × ν)}, (entries.map (·.1)).Nodup → (k, v) ∈ entries →
      (entries.filter (·.1 ≠ k)).countP (fun e => p e.2) + (if p v then 1 else 0) =
        entries.countP fun e => p e.2
  | [], _, hmem => by cases hmem
  | e :: rest, hnodup, hmem => by
      have ⟨hnot, hrest⟩ := List.nodup_cons.1 hnodup
      rw [List.countP_cons]
      rcases List.mem_cons.1 hmem with rfl | hmem
      · -- The entry is the first one, and its key does not occur again.
        have hout : rest.filter (·.1 ≠ k) = rest := by
          refine List.filter_eq_self.2 ?_
          intro other hother
          simpa using fun heq => hnot (List.mem_map.2 ⟨other, hother, heq⟩)
        rw [List.filter_cons_of_neg (by simp), hout]
      · have hne : e.1 ≠ k := by
          rintro rfl
          exact hnot (List.mem_map.2 ⟨(e.1, v), hmem, rfl⟩)
        rw [List.filter_cons_of_pos (by simpa using hne), List.countP_cons,
          ← countP_filter_key p hrest hmem]
        omega

/-- The entries with one key are the one that the key has, if any. -/
theorem filter_entries_key (t : Table κ ν) (k : κ) :
    t.entries.filter (fun e => e.1 = k) = ((t.get? k).map (k, ·)).toList := by
  have h := t.nodup_keys
  simp only [get?]
  generalize t.entries = es at h ⊢
  induction es with
  | nil => rfl
  | cons e rest ih =>
      obtain ⟨hnot, hrest⟩ := List.nodup_cons.1 h
      by_cases he : e.1 = k
      · subst he
        have hnone : rest.filter (fun other => other.1 = e.1) = [] := by
          refine List.filter_eq_nil_iff.2 fun other hother hsame => hnot ?_
          exact List.mem_map.2 ⟨other, hother, of_decide_eq_true hsame⟩
        simp [hnone]
      · simp [he, ih hrest]

theorem countP_values_erase (t : Table κ ν) (p : ν → Bool) {k : κ} {v : ν}
    (h : t.get? k = some v) :
    (t.erase k).values.countP p + (if p v then 1 else 0) = t.values.countP p := by
  rw [countP_values, countP_values]
  exact countP_filter_key p t.nodup_keys ((get?_eq_some_iff t k v).1 h)

/-- Storing a value under a new key. -/
theorem countP_values_insert (t : Table κ ν) (p : ν → Bool) {k : κ} (v : ν)
    (h : t.get? k = none) :
    (t.insert k v).values.countP p = t.values.countP p + if p v then 1 else 0 := by
  have hsame : t.entries.filter (·.1 ≠ k) = t.entries := by
    refine List.filter_eq_self.2 ?_
    intro e he
    have hout := (get?_eq_none_iff t k).1 h
    simpa using fun heq => hout (List.mem_map.2 ⟨e, he, heq⟩)
  rw [countP_values, countP_values]
  show (t.entries.filter (·.1 ≠ k) ++ [(k, v)]).countP _ = _
  rw [hsame, List.countP_append, List.countP_singleton]

/-- Changing the value of one key in a list of entries in which no key occurs twice. -/
theorem countP_map_key (p : ν → Bool) (f : ν → ν) {k : κ} {v : ν} :
    ∀ {entries : List (κ × ν)}, (entries.map (·.1)).Nodup → (k, v) ∈ entries →
      (entries.map fun e => (e.1, if e.1 = k then f e.2 else e.2)).countP (fun e => p e.2) +
          (if p v then 1 else 0) =
        entries.countP (fun e => p e.2) + if p (f v) then 1 else 0
  | [], _, hmem => by cases hmem
  | e :: rest, hnodup, hmem => by
      have ⟨hnot, hrest⟩ := List.nodup_cons.1 hnodup
      rw [List.map_cons, List.countP_cons, List.countP_cons]
      rcases List.mem_cons.1 hmem with rfl | hmem
      · have hout : (rest.map fun e => (e.1, if e.1 = k then f e.2 else e.2)) = rest := by
          refine (List.map_congr_left ?_).trans (List.map_id rest)
          intro other hother
          have hne : other.1 ≠ k := fun heq => hnot (List.mem_map.2 ⟨other, hother, heq⟩)
          rw [if_neg hne]
          rfl
        rw [hout]
        show _ + (if p (if k = k then f v else v) then 1 else 0) + _ =
          _ + (if p v then 1 else 0) + _
        rw [if_pos rfl]
        omega
      · have hne : e.1 ≠ k := by
          rintro rfl
          exact hnot (List.mem_map.2 ⟨(e.1, v), hmem, rfl⟩)
        have ih := countP_map_key p f hrest hmem
        show _ + (if p (if e.1 = k then f e.2 else e.2) then 1 else 0) + _ = _
        rw [if_neg hne]
        omega

theorem countP_values_modify (t : Table κ ν) (p : ν → Bool) (f : ν → ν) {k : κ} {v : ν}
    (h : t.get? k = some v) :
    (t.modify k f).values.countP p + (if p v then 1 else 0) =
      t.values.countP p + if p (f v) then 1 else 0 := by
  rw [countP_values, countP_values]
  exact countP_map_key p f t.nodup_keys ((get?_eq_some_iff t k v).1 h)

/-! ## The size -/

theorem size_insert (t : Table κ ν) {k : κ} (v : ν) (h : t.get? k = none) :
    (t.insert k v).size = t.size + 1 := by
  have hcount := t.countP_values_insert (fun _ => true) v h
  simpa only [countP_values_true, if_true] using hcount

theorem size_erase (t : Table κ ν) {k : κ} {v : ν} (h : t.get? k = some v) :
    (t.erase k).size + 1 = t.size := by
  have hcount := t.countP_values_erase (fun _ => true) h
  simpa only [countP_values_true, if_true] using hcount

@[simp] theorem size_modify (t : Table κ ν) (k : κ) (f : ν → ν) : (t.modify k f).size = t.size := by
  simp [modify, mapValues, size]

/-! ## Counting by keys -/

theorem mem_keysWith (t : Table κ ν) (p : ν → Bool) (k : κ) :
    k ∈ t.keysWith p ↔ ∃ v, t.get? k = some v ∧ p v = true := by
  simp only [keysWith, List.mem_map, List.mem_filter, Prod.exists, exists_and_right, exists_eq_right,
    get?_eq_some_iff]

/-- A test that holds of the values of certain keys, each listed once, counts these keys. -/
theorem countP_values_eq_length (t : Table κ ν) (p : ν → Bool) {keys : List κ} (hkeys : keys.Nodup)
    (h : ∀ k, k ∈ keys ↔ ∃ v, t.get? k = some v ∧ p v = true) :
    t.values.countP p = keys.length := by
  rw [← length_keysWith]
  refine ((List.perm_ext_iff_of_nodup (t.nodup_keysWith p) hkeys).2 fun k => ?_).length_eq
  rw [mem_keysWith, h]

/-- A test that goes on holding where it has held counts no fewer values. -/
theorem countP_values_le {t t' : Table κ ν} {p p' : ν → Bool}
    (h : ∀ k v, t.get? k = some v → p v = true → t'.get? k = some v ∧ p' v = true) :
    t.values.countP p ≤ t'.values.countP p' := by
  rw [← length_keysWith, ← length_keysWith]
  refine (List.subperm_of_subset (t.nodup_keysWith p) fun k hk => ?_).length_le
  obtain ⟨v, hget, hp⟩ := (t.mem_keysWith p k).1 hk
  exact (t'.mem_keysWith p' k).2 ⟨v, h k v hget hp⟩

end ScriptHost.Table
