import ResolverTypes.Table
import Mathlib.Data.List.Basic

/-!
# Entries of a table

What a look-up finds is an entry, and an insertion adds or replaces one of them: a new key goes to
the end and a known one keeps its place.
-/

namespace ResolverTypes

namespace Table
variable {α : Type}

theorem lookupEntry_mem {key : String} {v : α} {es : List (String × α)}
    (h : lookupEntry key es = some v) : (key, v) ∈ es := by
  induction es with
  | nil => cases h
  | cons e es ih =>
    obtain ⟨k, w⟩ := e
    unfold lookupEntry at h
    split at h
    · next hk =>
      cases h
      rw [hk]
      exact List.mem_cons_self
    · exact List.mem_cons_of_mem _ (ih h)

theorem mem_values_of_get? {t : Table α} {key : String} {v : α} (h : t.get? key = some v) :
    v ∈ t.values :=
  List.mem_map.mpr ⟨(key, v), lookupEntry_mem h, rfl⟩

theorem mem_insertEntry {key : String} {value : α} {es : List (String × α)} {e : String × α}
    (h : e ∈ insertEntry key value es) : e = (key, value) ∨ e ∈ es := by
  induction es with
  | nil => exact .inl (List.mem_singleton.mp h)
  | cons e' es ih =>
    obtain ⟨k, w⟩ := e'
    unfold insertEntry at h
    split at h
    · next hk =>
      rcases List.mem_cons.mp h with rfl | h
      · exact .inl (by rw [hk])
      · exact .inr (List.mem_cons_of_mem _ h)
    · rcases List.mem_cons.mp h with rfl | h
      · exact .inr List.mem_cons_self
      · exact (ih h).imp id (List.mem_cons_of_mem _)

theorem mem_values_insert {t : Table α} {key : String} {value v : α}
    (h : v ∈ (t.insert key value).values) : v = value ∨ v ∈ t.values := by
  obtain ⟨e, he, rfl⟩ := List.mem_map.mp h
  rcases mem_insertEntry he with rfl | he
  · exact .inl rfl
  · exact .inr (List.mem_map.mpr ⟨e, he, rfl⟩)

/-- a new key goes to the end, a known one keeps its place -/
theorem keys_insert (t : Table α) (key : String) (value : α) :
    (t.insert key value).keys = if key ∈ t.keys then t.keys else t.keys ++ [key] := by
  obtain ⟨es⟩ := t
  show (insertEntry key value es).map Prod.fst = _
  induction es with
  | nil => rfl
  | cons e es ih =>
    obtain ⟨k, w⟩ := e
    show (insertEntry key value ((k, w) :: es)).map Prod.fst =
      if key ∈ k :: es.map Prod.fst then k :: es.map Prod.fst else k :: es.map Prod.fst ++ [key]
    unfold insertEntry
    by_cases hk : k = key
    · simp [hk]
    · simp only [hk, if_false, List.map_cons, ih, List.mem_cons, Ne.symm hk, false_or]
      show k :: (if key ∈ es.map Prod.fst then _ else _) = _
      split <;> rfl

theorem entries_insert_of_notMem {t : Table α} {key : String} (h : key ∉ t.keys) (value : α) :
    (t.insert key value).entries = t.entries ++ [(key, value)] := by
  obtain ⟨es⟩ := t
  show insertEntry key value es = es ++ [(key, value)]
  induction es with
  | nil => rfl
  | cons e es ih =>
    obtain ⟨k, w⟩ := e
    obtain ⟨hk, hes⟩ := List.ne_and_not_mem_of_not_mem_cons h
    unfold insertEntry
    rw [if_neg (Ne.symm hk), ih hes]
    rfl

/-- with distinct keys, every entry is found -/
theorem get?_of_mem_entries {t : Table α} (h : t.keys.Nodup) {e : String × α}
    (he : e ∈ t.entries) : t.get? e.1 = some e.2 := by
  obtain ⟨es⟩ := t
  show lookupEntry e.1 es = some e.2
  induction es with
  | nil => cases he
  | cons e' es ih =>
    obtain ⟨hfirst, hrest⟩ := List.nodup_cons.mp h
    unfold lookupEntry
    rcases List.mem_cons.mp he with rfl | he
    · rw [if_pos rfl]
    · have hne : e'.1 ≠ e.1 := by
        intro heq
        rw [heq] at hfirst
        exact hfirst (List.mem_map_of_mem he)
      rw [if_neg hne]
      exact ih hrest he

end Table

end ResolverTypes
