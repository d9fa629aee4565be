import ResolverTypes.Fact.Field
import ResolverTypes.Proofs.Table

/-!
# Recording facts one after the other

A store of facts is a table under `Type.field`.  Recording touches one key, so what stands under a
key is the fold of `reconcile` over the facts recorded there (`get?_recordAll`), and the keys are
those of the recorded facts in the order in which they first came (`keys_recordAll`).
-/

namespace ResolverTypes

/-! ## facts -/

theorem toList_fieldKey (typeName fieldName : String) :
    (fieldKey typeName fieldName).toList = typeName.toList ++ '.' :: fieldName.toList := by
  simp [fieldKey, String.toList_append]

/-- the key of a fact -/
def FieldFact.key (f : FieldFact) : String := fieldKey f.typeName f.fieldName

namespace FieldFacts

/-- a fact over another one differs from itself in its provenance at most -/
theorem reconcile_eq (old : Option FieldFact) (f : FieldFact) :
    reconcile old f = { f with provenance := (reconcile old f).provenance } := by
  unfold reconcile
  split
  · rfl
  · split <;> rfl

theorem key_reconcile (old : Option FieldFact) (f : FieldFact) : (reconcile old f).key = f.key := by
  rw [reconcile_eq]
  rfl

/-- what is stored is a database fact if it was recorded as one -/
theorem provenance_reconcile_iff (old : Option FieldFact) (f : FieldFact) :
    (reconcile old f).provenance = .dbSchema ↔ f.provenance = .dbSchema := by
  unfold reconcile
  split
  · exact Iff.rfl
  · split
    · next hboth => simp [hboth.2]
    · exact Iff.rfl

theorem get?_record (facts : FieldFacts) (f : FieldFact) (k : String) :
    (facts.record f).get? k = if f.key = k then some (reconcile (facts.get? k) f) else facts.get? k := by
  show (facts.insert f.key (reconcile (facts.get? f.key) f)).get? k = _
  rw [Table.get?_insert]
  split
  · next h => rw [h]
  · rfl

/-- what stands under a key depends on the facts recorded there only -/
theorem get?_recordAll (facts : FieldFacts) (new : List FieldFact) (k : String) :
    (facts.recordAll new).get? k =
      (new.filter (·.key = k)).foldl (fun old f => some (reconcile old f)) (facts.get? k) := by
  induction new generalizing facts with
  | nil => rfl
  | cons f fs ih =>
    show ((facts.record f).recordAll fs).get? k = _
    rw [ih, get?_record]
    by_cases h : f.key = k
    · simp [h]
    · simp [h]

/-- every fact stands under its own key -/
def IsKeyed (facts : FieldFacts) : Prop := ∀ k f, facts.get? k = some f → f.key = k

theorem isKeyed_empty : IsKeyed .empty := nofun

theorem IsKeyed.recordAll {facts : FieldFacts} (h : facts.IsKeyed) (new : List FieldFact) :
    (facts.recordAll new).IsKeyed := by
  induction new generalizing facts with
  | nil => exact h
  | cons g new ih =>
    refine ih fun k f hget => ?_
    rw [get?_record] at hget
    split at hget
    · next hkey =>
      cases hget
      rw [key_reconcile, hkey]
    · exact h k f hget

/-- a fact is found under its own names -/
theorem IsKeyed.find?_eq {facts : FieldFacts} (h : facts.IsKeyed) {typeName fieldName : String}
    {f : FieldFact} (hfind : facts.find? typeName fieldName = some f) :
    facts.find? f.typeName f.fieldName = some f := by
  have hkey : fieldKey f.typeName f.fieldName = fieldKey typeName fieldName := h _ _ hfind
  rw [find?, hkey]
  exact hfind

theorem keys_recordAll (facts : FieldFacts) (new : List FieldFact) :
    (facts.recordAll new).keys =
      facts.keys ++ ((new.map FieldFact.key).removeAll facts.keys).eraseDups := by
  induction new generalizing facts with
  | nil => simp [recordAll]
  | cons f fs ih =>
    show ((facts.record f).recordAll fs).keys = _
    have hrec : (facts.record f).keys =
        if f.key ∈ facts.keys then facts.keys else facts.keys ++ [f.key] := Table.keys_insert ..
    rw [ih, hrec, List.map_cons, List.cons_removeAll]
    by_cases h : f.key ∈ facts.keys
    · simp [h]
    · have hrest : (fs.map FieldFact.key).removeAll (facts.keys ++ [f.key]) =
          ((fs.map FieldFact.key).removeAll facts.keys).filter fun b => !b == f.key := by
        simp [List.removeAll, List.filter_filter, beq_eq_decide, Bool.and_comm]
      simp [h, hrest, List.eraseDups_cons]

/-- what holds of the facts that are there and of the new ones holds of all facts after recording,
if the provenance does not matter to it -/
theorem forall_recordAll {P : FieldFact → Prop} (hP : ∀ f p, P f → P { f with provenance := p })
    {facts : FieldFacts} {new : List FieldFact} (hold : ∀ f ∈ facts.values, P f)
    (hnew : ∀ f ∈ new, P f) : ∀ f ∈ (facts.recordAll new).values, P f := by
  induction new generalizing facts with
  | nil => exact hold
  | cons f fs ih =>
    show ∀ g ∈ ((facts.record f).recordAll fs).values, P g
    refine ih ?_ fun g hg => hnew g (List.mem_cons_of_mem _ hg)
    intro g hg
    rcases Table.mem_values_insert hg with rfl | hg
    · rw [reconcile_eq]
      exact hP f _ (hnew f List.mem_cons_self)
    · exact hold g hg

end FieldFacts

end ResolverTypes
