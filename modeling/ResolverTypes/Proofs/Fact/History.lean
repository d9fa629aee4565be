import ResolverTypes.Proofs.Fact.Recording
import ResolverTypes.Proofs.Text.Split
import Mathlib.Data.Finset.Card
import Mathlib.Data.Finset.Image

/-!
# Field facts after any recordings

A store under `Type.field` texts stands for a store under pairs of names as long as no name of a type
has a dot: the first dot of a key is then the one between the two names, whatever dots the name of
the field has (`fieldKey_inj`).  What is found for a pair is then decided by the facts recorded for
it.  The provenance needs one fact more than the last one: a GraphQL fact is marked if the fact right
before it came from the database.  That fact may have been stored over others, but this changes
neither whether it counts as a database fact nor its shape (`reconcile_reconcile`), so nothing earlier
matters.

* `find?_recordAll`: the found fact is the fold of `reconcile` over the facts of the pair;
* `recordAll_remembers`: what this comes to, with the order and the number of the stored facts.
-/

namespace ResolverTypes
open Text

/-! ## keys -/

theorem splitOnce_fieldKey {typeName : String} (h : '.' ∉ typeName.toList) (fieldName : String) :
    splitOnce '.' (fieldKey typeName fieldName).toList =
      some (typeName.toList, fieldName.toList) := by
  rw [splitOnce_eq_some_iff]
  exact ⟨toList_fieldKey typeName fieldName, h⟩

theorem fieldKey_inj {t u f g : String} (ht : '.' ∉ t.toList) (hu : '.' ∉ u.toList) :
    fieldKey t f = fieldKey u g ↔ t = u ∧ f = g := by
  constructor
  · intro heq
    have hsplit := splitOnce_fieldKey ht f
    rw [heq, splitOnce_fieldKey hu g] at hsplit
    obtain ⟨htype, hfield⟩ := Prod.mk.inj (Option.some.inj hsplit)
    exact ⟨(String.toList_inj.mp htype).symm, (String.toList_inj.mp hfield).symm⟩
  · rintro ⟨rfl, rfl⟩
    rfl

-- with a dot in the name of a type, two pairs may share a key
example : fieldKey "A.b" "c" = fieldKey "A" "b.c" := by decide

/-- the names of the type and of the field a fact is about -/
def FieldFact.pair (f : FieldFact) : String × String := (f.typeName, f.fieldName)

/-! ## first occurrences -/

section
variable {α : Type} [DecidableEq α]

theorem eraseDups_concat (l : List α) (a : α) :
    (l ++ [a]).eraseDups = if a ∈ l then l.eraseDups else l.eraseDups ++ [a] := by
  rw [List.eraseDups_append, List.cons_removeAll]
  by_cases h : a ∈ l
  · simp [h, List.removeAll]
  · simp [h, List.removeAll, List.eraseDups_cons]

theorem nodup_eraseDups (l : List α) : l.eraseDups.Nodup := by
  induction l using List.reverseRecOn with
  | nil => exact List.nodup_nil
  | append_singleton l a ih =>
    rw [eraseDups_concat]
    split
    · exact ih
    · next h =>
      rw [← List.mem_eraseDups] at h
      rw [List.nodup_append]
      refine ⟨ih, List.nodup_singleton a, fun b hb c hc heq => h ?_⟩
      rw [List.mem_singleton] at hc
      rwa [heq, hc] at hb

theorem length_eraseDups (l : List α) : l.eraseDups.length = l.toFinset.card := by
  rw [← List.toFinset_card_of_nodup (nodup_eraseDups l)]
  congr 1
  exact List.toFinset.ext fun a => List.mem_eraseDups

end

namespace FieldFacts

/-! ## the facts of a pair -/

/-- the facts recorded for a field of a type, in order -/
def recordedFor (history : List FieldFact) (typeName fieldName : String) : List FieldFact :=
  history.filter fun f => f.typeName = typeName ∧ f.fieldName = fieldName

theorem recordedFor_eq_nil_iff {history : List FieldFact} {typeName fieldName : String} :
    recordedFor history typeName fieldName = [] ↔
      ∀ f ∈ history, ¬(f.typeName = typeName ∧ f.fieldName = fieldName) := by
  unfold recordedFor
  rw [List.filter_eq_nil_iff]
  simp

theorem find?_recordAll {history : List FieldFact} (h : ∀ f ∈ history, '.' ∉ f.typeName.toList)
    {typeName : String} (ht : '.' ∉ typeName.toList) (fieldName : String) :
    (recordAll .empty history).find? typeName fieldName =
      (recordedFor history typeName fieldName).foldl (fun old f => some (reconcile old f)) none := by
  have hfilter : history.filter (·.key = fieldKey typeName fieldName) =
      recordedFor history typeName fieldName := by
    refine List.filter_congr fun f hf => ?_
    show decide (fieldKey f.typeName f.fieldName = fieldKey typeName fieldName) = _
    rw [decide_eq_decide]
    exact fieldKey_inj (h f hf) ht
  unfold find?
  rw [get?_recordAll, hfilter, Table.get?_empty]

/-- only the shape of a stored fact and whether it is a database fact matter to the next one, and
both are as they were recorded -/
theorem reconcile_reconcile (older : Option FieldFact) (old f : FieldFact) :
    reconcile (some (reconcile older old)) f = reconcile (some old) f := by
  have hshape := reconcile_eq older old
  have hsource := provenance_reconcile_iff older old
  generalize reconcile older old = stored at hshape hsource
  have hnullable : stored.nullable = old.nullable := by rw [hshape]
  have hlist : stored.list = old.list := by rw [hshape]
  unfold reconcile
  simp only [hsource, hnullable, hlist]

/-- the last two facts of a pair decide what is stored -/
theorem foldl_reconcile_concat (older : Option FieldFact) (before : List FieldFact)
    (old f : FieldFact) :
    (before ++ [old, f]).foldl (fun old f => some (reconcile old f)) older =
      some (reconcile (some old) f) := by
  rw [List.foldl_append]
  generalize before.foldl (fun old f => some (reconcile old f)) older = stored
  show some (reconcile (some (reconcile stored old)) f) = _
  rw [reconcile_reconcile]

/-! ## all stored facts -/

theorem keys_recordAll_empty (history : List FieldFact) :
    (recordAll .empty history).keys = (history.map FieldFact.key).eraseDups := by
  rw [keys_recordAll]
  show [] ++ ((history.map FieldFact.key).removeAll []).eraseDups = _
  rw [List.nil_append, List.removeAll_nil]

theorem get?_of_mem_recordAll {history : List FieldFact} {e : String × FieldFact}
    (he : e ∈ (recordAll .empty history).entries) :
    (recordAll .empty history).get? e.1 = some e.2 := by
  refine Table.get?_of_mem_entries ?_ he
  rw [keys_recordAll_empty]
  exact nodup_eraseDups _

/-- every entry stands under the key of its fact -/
theorem key_of_mem_recordAll {history : List FieldFact} {e : String × FieldFact}
    (he : e ∈ (recordAll .empty history).entries) : e.2.key = e.1 :=
  isKeyed_empty.recordAll history e.1 e.2 (get?_of_mem_recordAll he)

theorem values_map_key (history : List FieldFact) :
    (recordAll .empty history).values.map FieldFact.key =
      (history.map FieldFact.key).eraseDups := by
  rw [← keys_recordAll_empty]
  unfold Table.values Table.keys
  rw [List.map_map]
  exact List.map_congr_left fun e he => key_of_mem_recordAll he

theorem find?_of_mem_values {history : List FieldFact} {f : FieldFact}
    (hf : f ∈ (recordAll .empty history).values) :
    (recordAll .empty history).find? f.typeName f.fieldName = some f := by
  obtain ⟨e, he, rfl⟩ := List.mem_map.mp hf
  have hget := get?_of_mem_recordAll he
  rw [← key_of_mem_recordAll he] at hget
  exact hget

/-- without dots in the names of types, there are as many keys as pairs -/
theorem card_keys {history : List FieldFact} (h : ∀ f ∈ history, '.' ∉ f.typeName.toList) :
    (history.map FieldFact.key).toFinset.card = (history.map FieldFact.pair).toFinset.card := by
  have hkeys : history.map FieldFact.key =
      (history.map FieldFact.pair).map fun p => fieldKey p.1 p.2 := by
    rw [List.map_map]
    rfl
  have himage : ((history.map FieldFact.pair).map fun p => fieldKey p.1 p.2).toFinset =
      (history.map FieldFact.pair).toFinset.image fun p => fieldKey p.1 p.2 := by
    ext k
    simp only [List.mem_toFinset, List.mem_map, Finset.mem_image]
  rw [hkeys, himage]
  refine Finset.card_image_of_injOn ?_
  intro p hp q hq heq
  obtain ⟨f, hf, rfl⟩ := List.mem_map.mp (List.mem_toFinset.mp hp)
  obtain ⟨g, hg, rfl⟩ := List.mem_map.mp (List.mem_toFinset.mp hq)
  obtain ⟨htype, hfield⟩ := (fieldKey_inj (h f hf) (h g hg)).mp heq
  exact Prod.ext htype hfield

/-! ## what is remembered -/

/-- what a store holds after a history of recordings -/
structure Remembers (history : List FieldFact) (facts : FieldFacts) : Prop where
  /-- nothing was recorded for the pair -/
  unknown {t f : String} : '.' ∉ t.toList →
    (∀ g ∈ history, ¬(g.typeName = t ∧ g.fieldName = f)) → facts.find? t f = none
  /-- one fact was recorded for the pair -/
  only {t f : String} {g : FieldFact} : '.' ∉ t.toList →
    recordedFor history t f = [g] → facts.find? t f = some g
  /-- the last fact of the pair is a GraphQL fact right after a database fact -/
  reconciled {t f : String} {before : List FieldFact} {old g : FieldFact} : '.' ∉ t.toList →
    recordedFor history t f = before ++ [old, g] →
      old.provenance = .dbSchema → g.provenance = .graphql →
        facts.find? t f = some { g with
          provenance := .reconciled (old.nullable == g.nullable) (old.list == g.list) }
  /-- the last fact of the pair follows another one in any other way -/
  last {t f : String} {before : List FieldFact} {old g : FieldFact} : '.' ∉ t.toList →
    recordedFor history t f = before ++ [old, g] →
      ¬(old.provenance = .dbSchema ∧ g.provenance = .graphql) → facts.find? t f = some g
  /-- the stored facts are those that are found, in order of the first recording of their keys -/
  order : facts.values.map FieldFact.key = (history.map FieldFact.key).eraseDups
  stored {g : FieldFact} : g ∈ facts.values → facts.find? g.typeName g.fieldName = some g
  /-- there are as many as pairs were recorded -/
  size : facts.size = (history.map FieldFact.pair).toFinset.card

/-- **facts remember their history**: whatever is recorded, under type names without dots, each pair of a
type and a field has one fact, which the last of its recordings and the one before it decide -/
theorem recordAll_remembers (history : List FieldFact)
    (h : ∀ f ∈ history, '.' ∉ f.typeName.toList) : Remembers history (recordAll .empty history) where
  unknown ht hnone := by
    rw [find?_recordAll h ht, recordedFor_eq_nil_iff.mpr hnone]
    rfl
  only ht hone := by
    rw [find?_recordAll h ht, hone]
    rfl
  reconciled {t f before old g} ht hlast hold hg := by
    rw [find?_recordAll h ht, hlast, foldl_reconcile_concat]
    exact congrArg some (if_pos ⟨hold, hg⟩)
  last {t f before old g} ht hlast hother := by
    rw [find?_recordAll h ht, hlast, foldl_reconcile_concat]
    exact congrArg some (if_neg hother)
  order := values_map_key history
  stored := find?_of_mem_values
  size := by
    have hsize : (recordAll .empty history).size = (recordAll .empty history).keys.length := by
      simp [Table.size, Table.keys]
    rw [hsize, keys_recordAll_empty, length_eraseDups, card_keys h]

def textFact (t f : String) (nullable : Bool) (provenance : Provenance) : FieldFact :=
  ⟨t, f, .string, .string, nullable, false, [], provenance⟩

/-- one field of `A` is named as another one with a dot after it -/
def dottedHistory : List FieldFact :=
  [textFact "A" "b.c" false .graphql, textFact "A" "b" true .dbSchema,
    textFact "A" "b.c" false .dbSchema, textFact "B" "b" true .graphql,
    textFact "A" "b.c" true .graphql, textFact "A" "b" true .dbSchema]

theorem recordAll_remembers_dotted :
    (∀ f ∈ dottedHistory, '.' ∉ f.typeName.toList) ∧
      Remembers dottedHistory (recordAll .empty dottedHistory) ∧
      ((recordAll .empty dottedHistory).find? "A" "b.c").map (·.provenance) =
        some (.reconciled false true) ∧
      (recordAll .empty dottedHistory).size = 3 := by
  have h : ∀ f ∈ dottedHistory, '.' ∉ f.typeName.toList := by decide +kernel
  have hstore := recordAll_remembers dottedHistory h
  refine ⟨h, hstore, ?_, ?_⟩
  · have hlast : recordedFor dottedHistory "A" "b.c" = [dottedHistory[0]] ++
        [dottedHistory[2], dottedHistory[4]] := by decide +kernel
    rw [hstore.reconciled (by decide) hlast rfl rfl]
    rfl
  · rw [hstore.size]
    decide +kernel

end FieldFacts

end ResolverTypes
