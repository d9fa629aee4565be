/-!
# Tables in insertion order

A table maps text keys to values.  It is listed in the order in which its keys first came in;
inserting at a known key replaces the value and keeps the place.
-/

namespace ResolverTypes

/-- a map from texts, listed in order of first insertion -/
structure Table (α : Type) where
  entries : List (String × α)
deriving Repr

namespace Table
variable {α : Type}

def empty : Table α := ⟨[]⟩

/-- the entries after an insertion: in place if the key is known, at the end otherwise -/
def insertEntry (key : String) (value : α) : List (String × α) → List (String × α)
  | [] => [(key, value)]
  | (k, v) :: rest =>
    if k = key then (k, value) :: rest else (k, v) :: insertEntry key value rest

def insert (t : Table α) (key : String) (value : α) : Table α :=
  ⟨insertEntry key value t.entries⟩

def lookupEntry (key : String) : List (String × α) → Option α
  | [] => none
  | (k, v) :: rest => if k = key then some v else lookupEntry key rest

def get? (t : Table α) (key : String) : Option α := lookupEntry key t.entries

def contains (t : Table α) (key : String) : Bool := (t.get? key).isSome

def keys (t : Table α) : List String := t.entries.map Prod.fst

def values (t : Table α) : List α := t.entries.map Prod.snd

def size (t : Table α) : Nat := t.entries.length

/-- the table of a list of entries, a later entry replacing an earlier one with its key -/
def ofList (entries : List (String × α)) : Table α :=
  entries.foldl (fun t e => t.insert e.1 e.2) empty

@[simp] theorem get?_empty (key : String) : (empty : Table α).get? key = none := rfl

theorem lookupEntry_insertEntry (key k : String) (value : α) (es : List (String × α)) :
    lookupEntry k (insertEntry key value es) =
      if key = k then some value else lookupEntry k es := by
  induction es with
  | nil => simp [insertEntry, lookupEntry]
  | cons e es ih =>
    obtain ⟨k', v⟩ := e
    unfold insertEntry
    by_cases h : k' = key
    · simp only [h, if_true, lookupEntry]
      split <;> simp_all
    · simp only [h, if_false, lookupEntry, ih]
      split
      · next hk => simp [← hk, Ne.symm h]
      · rfl

/-- an insertion is seen at its own key and nowhere else -/
theorem get?_insert (t : Table α) (key k : String) (value : α) :
    (t.insert key value).get? k = if key = k then some value else t.get? k :=
  lookupEntry_insertEntry key k value t.entries

end Table

end ResolverTypes
