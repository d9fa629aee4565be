import ResolverTypes.Proofs.Rendering
import ResolverTypes.Script.Exports

/-!
# Property keys say which name they stand for

The key of a property is its name, or the name between quotes (`propertyKey_reads_back`).  A quoted key is
taken apart in two steps, as a reader of the declaration does it:

* `splitAtQuote`   where a literal ends: at the first quote that no backslash escapes;
* `unescape`       what the text before that quote stands for.

Both follow `escape`, one character of the name at a time.  Only backslashes and quotes are escaped, so
every other character stands in the key as it stands in the name.  For a line break this is one character
too many: a name may have one, as the text of a computed key that goes over several lines
(`computedKey_breaks_line`), and then the literal has it too.
-/

namespace ResolverTypes

namespace TypeExpr

/-! ## reading a literal -/

/-- a text up to the first quote that no backslash escapes, and what stands behind that quote -/
def splitAtQuote : List Char → Option (List Char × List Char)
  | [] => none
  | '"' :: cs => some ([], cs)
  | '\\' :: c :: cs => (splitAtQuote cs).map fun (a, b) => ('\\' :: c :: a, b)
  | c :: cs => (splitAtQuote cs).map fun (a, b) => (c :: a, b)

/-- what an escaped text stands for; nothing but backslashes and quotes can be escaped -/
def unescape : List Char → Option (List Char)
  | [] => some []
  | '\\' :: '\\' :: cs => (unescape cs).map ('\\' :: ·)
  | '\\' :: '"' :: cs => (unescape cs).map ('"' :: ·)
  | '\\' :: _ => none
  | c :: cs => (unescape cs).map (c :: ·)

theorem escape_cases (c : Char) :
    (c = '\\' ∧ escape c = ['\\', '\\']) ∨ (c = '"' ∧ escape c = ['\\', '"']) ∨
      (c ≠ '\\' ∧ c ≠ '"' ∧ escape c = [c]) := by
  unfold escape
  by_cases hslash : c = '\\'
  · simp [hslash]
  · by_cases hquote : c = '"'
    · simp [hquote]
    · simp [hslash, hquote]

theorem splitAtQuote_escape (c : Char) {cs a b : List Char} (h : splitAtQuote cs = some (a, b)) :
    splitAtQuote (escape c ++ cs) = some (escape c ++ a, b) := by
  rcases escape_cases c with ⟨-, he⟩ | ⟨-, he⟩ | ⟨hslash, hquote, he⟩
  · simp [he, splitAtQuote, h]
  · simp [he, splitAtQuote, h]
  · simp [he, splitAtQuote, hslash, h]

theorem unescape_escape (c : Char) {cs name : List Char} (h : unescape cs = some name) :
    unescape (escape c ++ cs) = some (c :: name) := by
  rcases escape_cases c with ⟨rfl, he⟩ | ⟨rfl, he⟩ | ⟨hslash, -, he⟩
  · simp [he, unescape, h]
  · simp [he, unescape, h]
  · simp [he, unescape, hslash, h]

/-- an escaped text ends at the quote behind it -/
theorem splitAtQuote_escaped (name rest : List Char) :
    splitAtQuote (name.flatMap escape ++ '"' :: rest) = some (name.flatMap escape, rest) := by
  induction name with
  | nil => rfl
  | cons c name ih =>
    rw [List.flatMap_cons, List.append_assoc]
    exact splitAtQuote_escape c ih

/-- an escaped text stands for the text -/
theorem unescape_escaped (name : List Char) : unescape (name.flatMap escape) = some name := by
  induction name with
  | nil => rfl
  | cons c name ih => exact unescape_escape c ih

/-! ## characters that are not escaped -/

theorem mem_escape_iff {c : Char} (hslash : c ≠ '\\') (hquote : c ≠ '"') (d : Char) :
    c ∈ escape d ↔ c = d := by
  rcases escape_cases d with ⟨rfl, he⟩ | ⟨rfl, he⟩ | ⟨-, -, he⟩
  · simp [he, hslash]
  · simp [he, hslash, hquote]
  · simp [he]

theorem mem_quoted_iff {c : Char} (hslash : c ≠ '\\') (hquote : c ≠ '"') (name : List Char) :
    c ∈ quoted name ↔ c ∈ name := by
  rw [quoted_eq, List.mem_cons, List.mem_append, List.mem_flatMap, List.mem_singleton]
  simp [hquote, mem_escape_iff hslash hquote]

end TypeExpr

/-! ## keys -/

/-- a key is the name itself, which is an ASCII identifier, or one literal that stands for it -/
inductive IsKeyOf (name key : String) : Prop where
  | plain (identifier : TypeExpr.isPlainKey name.toList = true) (same : key = name)
  | literal (body : List Char) (between : key.toList = '"' :: (body ++ ['"']))
      (closed : TypeExpr.splitAtQuote (body ++ ['"']) = some (body, []))
      (stands : TypeExpr.unescape body = some name.toList)

theorem isKeyOf_propertyKey (name : String) : IsKeyOf name (propertyKey name) := by
  by_cases hplain : TypeExpr.isPlainKey name.toList = true
  · refine .plain hplain ?_
    rw [propertyKey, TypeExpr.keyChars, if_pos hplain, String.ofList_toList]
  · refine .literal (name.toList.flatMap TypeExpr.escape) ?_ (TypeExpr.splitAtQuote_escaped _ [])
      (TypeExpr.unescape_escaped _)
    rw [propertyKey, String.toList_ofList, TypeExpr.keyChars, if_neg hplain, TypeExpr.quoted_eq]

/-- **property keys are faithful**: the key of every name is the name itself, being an ASCII identifier,
or a literal that ends at its first quote that is not escaped and stands for the name; and it has exactly
the line breaks of the name -/
theorem propertyKey_reads_back (name : String) :
    IsKeyOf name (propertyKey name) ∧
      ∀ c, Script.isLineEnd c = true → (c ∈ (propertyKey name).toList ↔ c ∈ name.toList) := by
  refine ⟨isKeyOf_propertyKey name, ?_⟩
  intro c hc
  have hslash : c ≠ '\\' := Text.ne_of_test hc (by decide)
  have hquote : c ≠ '"' := Text.ne_of_test hc (by decide)
  rw [propertyKey, String.toList_ofList, TypeExpr.keyChars]
  split
  · exact Iff.rfl
  · exact TypeExpr.mem_quoted_iff hslash hquote name.toList

example : IsKeyOf "a\"b\\" (String.ofList ['"', 'a', '\\', '"', 'b', '\\', '\\', '"']) :=
  .literal ['a', '\\', '"', 'b', '\\', '\\'] (by decide) (by decide) (by decide)

/-- an object whose member has a computed key on two lines -/
def spreadScript : String := "export const B = \x7b [\n0]() \x7b\x7d \x7d"

/-- the key of such a member is a literal with a line break in it -/
theorem computedKey_breaks_line :
    (Script.Exports.read false spreadScript).toOption.map
        (fun es => es.objects.map fun o => (o.name, o.members.map (·.name))) =
      some [("B", ["[\n0]"])] ∧
    TypeExpr.isPlainKey "[\n0]".toList = false ∧
    ¬∀ c ∈ (propertyKey "[\n0]").toList, Script.isLineEnd c = false := by
  refine ⟨by decide +kernel, by decide, ?_⟩
  intro h
  have hbreak : '\n' ∈ (propertyKey "[\n0]").toList := by decide
  exact absurd (h '\n' hbreak) (by decide)

end ResolverTypes
