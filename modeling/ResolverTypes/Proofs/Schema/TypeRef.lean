import ResolverTypes.Proofs.Text.Name
import ResolverTypes.Schema.Sdl.Document

/-!
# Printed references

A reference is printed with its name, brackets and marks and nothing else, so that the text says of
every level whether it may be null.  `TypeRef.Spells` is the grammar of such texts: a name or a
bracketed reference, each with an optional mark.  The printed text is the only text that spells a
reference (`spells_iff`), and the reader takes exactly this text from the start of any other
(`readTypeRefIn_append`, `chars_of_readTypeRefIn`).  Each proof goes level by level, with the rest of
the text left open.
-/

namespace ResolverTypes.Schema
open Text

/-- a text that goes on neither a name nor a mark -/
def IsApart (rest : List Char) : Prop := ∀ c ∈ rest.head?, isNameChar c = false ∧ c ≠ '!'

theorem isApart_nil : IsApart [] := by
  rintro c ⟨⟩

theorem isApart_bracket (rest : List Char) : IsApart (']' :: rest) := by
  rintro c ⟨⟩
  decide

namespace TypeRef

/-! ## the grammar -/

/-- a text that spells a reference: `Name` or `[Type]`, where `!` marks a level that may not be null -/
inductive Spells : TypeRef → List Char → Prop where
  | named {name} : isIdentifier name.toList = true → Spells (.named name true) name.toList
  | namedRequired {name} : isIdentifier name.toList = true → Spells (.named name false) (name.toList ++ ['!'])
  | list {item cs} : Spells item cs → Spells (.list item true) ('[' :: (cs ++ [']']))
  | listRequired {item cs} : Spells item cs → Spells (.list item false) ('[' :: (cs ++ [']', '!']))

theorem spells_chars {t : TypeRef} (h : isIdentifier t.baseName.toList = true) : Spells t t.chars := by
  induction t with
  | named name nullable =>
    cases nullable with
    | true =>
      rw [chars, show mark true = [] from rfl, List.append_nil]
      exact .named h
    | false => exact .namedRequired h
  | list item nullable ih =>
    cases nullable with
    | true => exact .list (ih h)
    | false => exact .listRequired (ih h)

/-- the printed text is the only one that spells a reference -/
theorem spells_iff {t : TypeRef} {cs : List Char} :
    Spells t cs ↔ cs = t.chars ∧ isIdentifier t.baseName.toList = true := by
  constructor
  · intro h
    induction h with
    | named hname => exact ⟨(List.append_nil _).symm, hname⟩
    | namedRequired hname => exact ⟨rfl, hname⟩
    | list _ ih => exact ⟨by rw [ih.1]; rfl, ih.2⟩
    | listRequired _ ih => exact ⟨by rw [ih.1]; rfl, ih.2⟩
  · rintro ⟨rfl, h⟩
    exact spells_chars h

end TypeRef

/-! ## the reader -/

theorem readName_append {name : String} (h : isIdentifier name.toList = true) {rest : List Char}
    (hrest : ∀ c ∈ rest.head?, isNameChar c = false) :
    readName (name.toList ++ rest) = some (name, rest) := by
  rw [readName, takeName?_append h hrest, Option.map_some, String.ofList_toList]

theorem name_of_readName {cs rest : List Char} {name : String} (h : readName cs = some (name, rest)) :
    cs = name.toList ++ rest ∧ isIdentifier name.toList = true := by
  obtain ⟨⟨text, rest'⟩, htake, h⟩ := Option.map_eq_some_iff.mp h
  cases h
  rw [String.toList_ofList]
  exact takeName?_eq_some htake

theorem readMark_append {nullable : Bool} {rest : List Char} (hrest : ∀ c ∈ rest.head?, c ≠ '!') :
    readMark (TypeRef.mark nullable ++ rest) = (nullable, rest) := by
  cases nullable with
  | false => rfl
  | true =>
    show readMark rest = (true, rest)
    unfold readMark
    split
    · exact absurd rfl (hrest '!' rfl)
    · rfl

theorem mark_readMark (cs : List Char) : TypeRef.mark (readMark cs).1 ++ (readMark cs).2 = cs := by
  unfold readMark
  split <;> rfl

theorem ne_bracket_of_isIdentifier {c : Char} {cs : List Char} (h : isIdentifier (c :: cs) = true) : c ≠ '[' := by
  rintro rfl
  rw [isIdentifier, Bool.and_eq_true] at h
  exact absurd h.1 (by decide)

/-- what the reader does with a text that starts with no bracket -/
theorem readTypeRefIn_name (depth : Nat) {c : Char} {cs : List Char} (hc : c ≠ '[') :
    readTypeRefIn (depth + 1) (c :: cs) =
      (readName (c :: cs)).map fun r => (.named r.1 (readMark r.2).1, (readMark r.2).2) := by
  rw [readTypeRefIn]
  · cases readName (c :: cs) <;> rfl
  · rintro cs' ⟨⟩
    exact hc rfl

theorem readTypeRefIn_bracket_iff {depth : Nat} {cs rest : List Char} {t : TypeRef} :
    readTypeRefIn (depth + 1) ('[' :: cs) = some (t, rest) ↔
      ∃ item rest', readTypeRefIn depth cs = some (item, ']' :: rest') ∧
        t = .list item (readMark rest').1 ∧ rest = (readMark rest').2 := by
  rw [readTypeRefIn]
  cases readTypeRefIn depth cs with
  | none => simp
  | some r =>
    obtain ⟨item, after⟩ := r
    dsimp only [bind, Option.bind]
    constructor
    · intro h
      split at h
      · next rest' =>
        cases h
        exact ⟨item, rest', rfl, rfl, rfl⟩
      · cases h
    · rintro ⟨item', rest', heq, rfl, rfl⟩
      cases heq
      rfl

/-- the reader takes a printed reference, whatever stands behind it -/
theorem readTypeRefIn_append {t : TypeRef} (h : isIdentifier t.baseName.toList = true) {depth : Nat}
    (hdepth : t.chars.length ≤ depth) {rest : List Char} (hrest : IsApart rest) :
    readTypeRefIn depth (t.chars ++ rest) = some (t, rest) := by
  induction t generalizing depth rest with
  | named name nullable =>
    have hafter : ∀ c ∈ (TypeRef.mark nullable ++ rest).head?, isNameChar c = false := by
      cases nullable with
      | true => exact fun c hc => (hrest c hc).1
      | false =>
        rintro c ⟨⟩
        decide
    have hread : readName (name.toList ++ (TypeRef.mark nullable ++ rest)) =
        some (name, TypeRef.mark nullable ++ rest) := readName_append h hafter
    rw [TypeRef.chars, List.length_append] at hdepth
    rw [TypeRef.chars, List.append_assoc]
    cases hname : name.toList with
    | nil =>
      rw [TypeRef.baseName, hname] at h
      cases h
    | cons c cs =>
      rw [TypeRef.baseName, hname] at h
      rw [hname] at hread hdepth
      obtain ⟨depth, rfl⟩ : ∃ d, depth = d + 1 := ⟨depth - 1, by simp at hdepth; omega⟩
      rw [List.cons_append] at hread ⊢
      rw [readTypeRefIn_name depth (ne_bracket_of_isIdentifier h), hread, Option.map_some]
      dsimp only
      rw [readMark_append fun c hc => (hrest c hc).2]
  | list item nullable ih =>
    rw [TypeRef.chars, List.length_cons, List.length_append] at hdepth
    obtain ⟨depth, rfl⟩ : ∃ d, depth = d + 1 := ⟨depth - 1, by omega⟩
    have hitem : readTypeRefIn depth (item.chars ++ ']' :: (TypeRef.mark nullable ++ rest)) =
        some (item, ']' :: (TypeRef.mark nullable ++ rest)) :=
      ih h (by omega) (isApart_bracket _)
    rw [TypeRef.chars, List.cons_append, List.append_assoc, List.cons_append, readTypeRefIn_bracket_iff]
    refine ⟨item, _, hitem, ?_⟩
    rw [readMark_append fun c hc => (hrest c hc).2]
    exact ⟨rfl, rfl⟩

/-- what the reader takes is a printed reference -/
theorem chars_of_readTypeRefIn {depth : Nat} {cs rest : List Char} {t : TypeRef}
    (h : readTypeRefIn depth cs = some (t, rest)) :
    cs = t.chars ++ rest ∧ isIdentifier t.baseName.toList = true := by
  induction depth generalizing cs rest t with
  | zero => cases h
  | succ depth ih =>
    by_cases hbracket : ∃ inner, cs = '[' :: inner
    · obtain ⟨inner, rfl⟩ := hbracket
      obtain ⟨item, after, hitem, rfl, rfl⟩ := readTypeRefIn_bracket_iff.mp h
      obtain ⟨hinner, hname⟩ := ih hitem
      refine ⟨?_, hname⟩
      rw [TypeRef.chars, List.cons_append, List.append_assoc, List.cons_append, mark_readMark, hinner]
    · cases cs with
      | nil => cases h
      | cons c cs =>
        rw [readTypeRefIn_name depth fun hc => hbracket ⟨cs, by rw [hc]⟩] at h
        obtain ⟨⟨name, after⟩, hread, heq⟩ := Option.map_eq_some_iff.mp h
        obtain ⟨hcs, hname⟩ := name_of_readName hread
        cases heq
        refine ⟨?_, hname⟩
        rw [TypeRef.chars, List.append_assoc, mark_readMark, hcs]

theorem readTypeRef_append {t : TypeRef} (h : isIdentifier t.baseName.toList = true) {rest : List Char}
    (hrest : IsApart rest) : readTypeRef (t.chars ++ rest) = some (t, rest) := by
  have hdepth : t.chars.length ≤ (t.chars ++ rest).length := by
    rw [List.length_append]
    exact Nat.le_add_right _ _
  exact readTypeRefIn_append h hdepth hrest

/-- a text is read as a reference and nothing else just if it spells the reference -/
theorem readTypeRef_eq_iff {cs : List Char} {t : TypeRef} :
    readTypeRef cs = some (t, []) ↔ t.Spells cs := by
  rw [TypeRef.spells_iff]
  constructor
  · intro h
    obtain ⟨hcs, hname⟩ := chars_of_readTypeRefIn h
    exact ⟨by rw [hcs, List.append_nil], hname⟩
  · rintro ⟨rfl, hname⟩
    have hread := readTypeRef_append hname isApart_nil
    rwa [List.append_nil] at hread

/-- a character that a reference can start with -/
def isTypeStart (c : Char) : Bool := isNameStart c || c == '['

theorem head_chars {t : TypeRef} (h : isIdentifier t.baseName.toList = true) :
    ∃ c cs, t.chars = c :: cs ∧ isTypeStart c = true := by
  cases t with
  | list item nullable => exact ⟨'[', _, rfl, by decide⟩
  | named name nullable =>
    rw [TypeRef.chars]
    cases hname : name.toList with
    | nil =>
      rw [TypeRef.baseName, hname] at h
      cases h
    | cons c cs =>
      rw [TypeRef.baseName, hname, isIdentifier, Bool.and_eq_true] at h
      exact ⟨c, _, rfl, by rw [isTypeStart, h.1, Bool.true_or]⟩

theorem skipIgnored_of_isTypeStart {c : Char} (hc : isTypeStart c = true) (cs : List Char) :
    Sdl.skipIgnored false (c :: cs) = c :: cs := by
  have hne : ∀ d, isTypeStart d = false → c ≠ d := fun d hd => ne_of_test hc hd
  have hignored : Sdl.isIgnored c = false := by
    simp [Sdl.isIgnored, hne ' ' (by decide), hne ',' (by decide), hne '\t' (by decide),
      hne '\ufeff' (by decide), hne '\r' (by decide), hne '\n' (by decide)]
  simp [Sdl.skipIgnored, hne '#' (by decide), hignored]

theorem typeRef_append {t : TypeRef} (h : isIdentifier t.baseName.toList = true) {rest : List Char}
    (hrest : IsApart rest) : Sdl.typeRef (t.chars ++ rest) = some (t, rest) := by
  have hskip : Sdl.skipIgnored false (t.chars ++ rest) = t.chars ++ rest := by
    obtain ⟨c, cs, hcs, hstart⟩ := head_chars h
    rw [hcs]
    exact skipIgnored_of_isTypeStart hstart _
  show readTypeRef (Sdl.skipIgnored false (t.chars ++ rest)) = _
  rw [hskip, readTypeRef_append h hrest]

/-! ## reading back -/

/-- how a reference is read back from its printed text -/
structure TypeRef.ReadsBack (t : TypeRef) : Prop where
  /-- by the grammar, the text spells the reference and no other one -/
  spelled (u : TypeRef) : u.Spells t.toText.toList ↔ u = t
  read : readTypeRef t.toText.toList = some (t, [])
  /-- in a document, the text ends where something else starts -/
  followed {rest : List Char} : IsApart rest → Sdl.typeRef (t.chars ++ rest) = some (t, rest)
  /-- no two references are printed alike -/
  distinct (u : TypeRef) : isIdentifier u.baseName.toList = true → u.toText = t.toText → u = t

/-- **type references survive printing**: a reference of any depth is the only one that its text spells,
and it is read back, also with more text behind it -/
theorem TypeRef.readsBack (t : TypeRef) (h : isIdentifier t.baseName.toList = true) : t.ReadsBack := by
  have htext : ∀ u : TypeRef, u.toText.toList = u.chars := fun u => String.toList_ofList
  have hread : readTypeRef t.toText.toList = some (t, []) := by
    rw [htext]
    exact readTypeRef_eq_iff.mpr (spells_chars h)
  have hspelled : ∀ u : TypeRef, u.Spells t.toText.toList ↔ u = t := by
    intro u
    rw [← readTypeRef_eq_iff, hread]
    simp [eq_comm]
  refine ⟨hspelled, hread, typeRef_append h, fun u hu heq => ?_⟩
  rw [← hspelled, ← heq, htext]
  exact spells_chars hu

/-- a list that may be null, of lists that may not, of names that may -/
theorem TypeRef.readsBack_nested :
    isIdentifier "Post".toList = true ∧ (TypeRef.list (.list (.named "Post" true) false) true).ReadsBack :=
  ⟨by decide, readsBack (.list (.list (.named "Post" true) false) true) (by decide)⟩

example : (TypeRef.list (.list (.named "Post" true) false) true).toText = "[[Post]!]" := by decide

end ResolverTypes.Schema
