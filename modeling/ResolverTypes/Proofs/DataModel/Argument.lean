import ResolverTypes.Proofs.DataModel.Value

/-!
# Arguments of attributes

An argument is `"text"` or `key: value`, with blanks at its ends and around the colon
(`WrittenArgument`).  Arguments with commas between them are looked up by their keys, whatever the values
and quoted texts hold (`named?_written`), and those without a key by their position
(`positional?_written`).
-/

namespace ResolverTypes.DataModel
open Text

/-! ## keys and values -/

theorem splitOnce_trim {sep : Char} (hsep : isBlank sep = false) (cs : List Char) :
    (splitOnce sep (trim cs)).map (Prod.map trim trim) = (splitOnce sep cs).map (Prod.map trim trim) := by
  obtain ⟨ws, ws', hws, hws', hcs⟩ := exists_eq_trim cs
  have hno : ∀ ws : List Char, (∀ c ∈ ws, isBlank c = true) → sep ∉ ws :=
    fun ws hws => notMem_of_test hws hsep
  generalize trim cs = t at hcs ⊢
  rw [hcs, splitOnce_append (hno ws hws)]
  cases hsplit : splitOnce sep t with
  | none =>
    have hnone : splitOnce sep (t ++ ws') = none := by
      rw [splitOnce_eq_none_iff, List.mem_append, not_or]
      exact ⟨splitOnce_eq_none_iff.mp hsplit, hno ws' hws'⟩
    rw [hnone]
    rfl
  | some p =>
    obtain ⟨ht, hbefore⟩ := splitOnce_eq_some_iff.mp hsplit
    have hsome : splitOnce sep (t ++ ws') = some (p.1, p.2 ++ ws') := by
      rw [splitOnce_eq_some_iff, ht, List.append_assoc]
      exact ⟨rfl, hbefore⟩
    rw [hsome]
    show some (trim p.1, trim p.2) = some (trim (ws ++ p.1), trim (p.2 ++ ws'))
    rw [trim_blanks_append hws, trim_append_blanks hws']

theorem namedValue?_eq (key cs : List Char) :
    namedValue? key cs = ((splitOnce ':' cs).map (Prod.map trim trim)).bind fun p =>
      if p.1 = key then some p.2 else none := by
  unfold namedValue?
  cases splitOnce ':' cs <;> rfl

theorem isNamedArgument_eq (cs : List Char) :
    isNamedArgument cs = ((splitOnce ':' cs).map (Prod.map trim trim)).any fun p =>
      !p.1.isEmpty && p.1.all fun c => isAlphanumeric c || c == '_' := by
  unfold isNamedArgument
  cases splitOnce ':' cs <;> rfl

theorem namedValue?_trim (key cs : List Char) : namedValue? key (trim cs) = namedValue? key cs := by
  rw [namedValue?_eq, namedValue?_eq, splitOnce_trim (by decide)]

theorem isNamedArgument_trim (cs : List Char) : isNamedArgument (trim cs) = isNamedArgument cs := by
  rw [isNamedArgument_eq, isNamedArgument_eq, splitOnce_trim (by decide)]

section
variable {parts : List (List Char)} (h : ∀ part ∈ parts, IsWhole part) (name : String)

include h

theorem arguments_join :
    (Attribute.mk name (some (String.ofList (trim (join [','] parts))))).arguments =
      parts.flatMap nonBlank := by
  unfold Attribute.arguments
  dsimp only
  rw [String.toList_ofList, splitArguments_trim, splitArguments_join h]

theorem named?_join (key : String) :
    (Attribute.mk name (some (String.ofList (trim (join [','] parts))))).named? key =
      parts.findSome? (namedValue? key.toList) := by
  unfold Attribute.named?
  rw [arguments_join h]
  clear h
  induction parts with
  | nil => rfl
  | cons part parts ih =>
    rw [List.flatMap_cons, List.findSome?_append, ih, List.findSome?_cons, ← namedValue?_trim]
    unfold nonBlank
    by_cases hempty : trim part = []
    · rw [hempty]
      rfl
    · dsimp only
      rw [if_neg (by simpa using hempty)]
      cases hvalue : namedValue? key.toList (trim part) <;> simp [hvalue]

theorem positional?_join (hne : ∀ part ∈ parts, trim part ≠ []) :
    (Attribute.mk name (some (String.ofList (trim (join [','] parts))))).positional? 0 =
      (parts.find? fun part => !isNamedArgument part).map trim := by
  have htrim : parts.flatMap nonBlank = parts.map trim := by
    rw [← List.flatMap_singleton' (parts.map trim), List.flatMap_map]
    refine List.flatMap_congr fun part hpart => ?_
    exact if_neg (by simpa using hne part hpart)
  unfold Attribute.positional?
  rw [arguments_join h, htrim, ← List.head?_eq_getElem?, List.head?_filter, List.find?_map]
  simp only [Function.comp_def, isNamedArgument_trim]

end

/-! ## written arguments -/

structure Gap where
  chars : List Char
  blank : ∀ c ∈ chars, isBlank c = true

structure Identifier where
  chars : List Char
  valid : isIdentifier chars = true

structure Value where
  chars : List Char
  closed : isValue chars = true
  commentFree : isCommentFree .outside chars = true

/-- a text between quotes -/
structure QuotedText where
  text : List Char
  noQuote : '"' ∉ text
  noEscape : '\\' ∉ text

def QuotedText.chars (n : QuotedText) : List Char := '"' :: (n.text ++ ['"'])

inductive ArgumentBody where
  /-- `"text"` -/
  | quoted (n : QuotedText)
  /-- `key: value` -/
  | keyed (key : Identifier) (before after : Gap) (value : Value)

def ArgumentBody.chars : ArgumentBody → List Char
  | .quoted n => n.chars
  | .keyed key before after value => key.chars ++ (before.chars ++ ':' :: (after.chars ++ value.chars))

structure WrittenArgument where
  left : Gap
  body : ArgumentBody
  right : Gap

namespace WrittenArgument

def chars (w : WrittenArgument) : List Char := w.left.chars ++ (w.body.chars ++ w.right.chars)

def quoted? (w : WrittenArgument) : Option QuotedText :=
  match w.body with
  | .quoted n => some n
  | .keyed .. => none

def valueOf? (key : List Char) (w : WrittenArgument) : Option (List Char) :=
  match w.body with
  | .quoted _ => none
  | .keyed k _ _ value => if k.chars = key then some value.chars else none

end WrittenArgument

theorem Gap.isPlain (g : Gap) : ∀ c ∈ g.chars, isPlain c = true :=
  fun c hc => isPlain_of_isBlank (g.blank c hc)

theorem Identifier.isPlain (i : Identifier) : ∀ c ∈ i.chars, isPlain c = true :=
  fun _ hc => isPlain_of_isNameChar (isNameChar_of_mem i.valid hc)

theorem Value.isWhole (v : Value) : IsWhole v.chars := .of_isValue v.closed v.commentFree

theorem isValueFrom_inside {cs : List Char} (hquote : '"' ∉ cs) (hescape : '\\' ∉ cs)
    (pending rest : List Char) :
    isValueFrom .inside pending (cs ++ '"' :: rest) = isValueFrom .outside pending rest := by
  induction cs with
  | nil => rfl
  | cons c cs ih =>
    obtain ⟨hquote, hquotes⟩ := List.ne_and_not_mem_of_not_mem_cons hquote
    obtain ⟨hescape, hescapes⟩ := List.ne_and_not_mem_of_not_mem_cons hescape
    have hnext : Quoting.inside.next c = .inside := by
      rw [Quoting.next, if_neg hquote.symm, if_neg hescape.symm]
    rw [List.cons_append, isValueFrom, if_neg (by decide), hnext, ih hquotes hescapes]

/-- a quoted text is a value, whatever it holds -/
def QuotedText.value (n : QuotedText) : Value where
  chars := n.chars
  closed := by
    show isValueFrom .inside [] (n.text ++ ['"']) = true
    rw [isValueFrom_inside n.noQuote n.noEscape]
    rfl
  commentFree := by
    obtain ⟨hafter, hfree⟩ := Quoting.inside_of_notMem n.noQuote n.noEscape
    show isCommentFree .inside (n.text ++ ['"']) = true
    rw [isCommentFree_append (by simp), hafter, hfree]
    rfl

theorem ArgumentBody.isWhole (b : ArgumentBody) : IsWhole b.chars := by
  cases b with
  | quoted n => exact n.value.isWhole
  | keyed key before after value =>
    have hcolon : IsWhole ([':'] ++ (after.chars ++ value.chars)) :=
      (value.isWhole.plain_append after.isPlain).plain_append (List.forall_mem_singleton.mpr (by decide))
    exact (hcolon.plain_append before.isPlain).plain_append key.isPlain

theorem WrittenArgument.isWhole (w : WrittenArgument) : IsWhole w.chars :=
  (w.body.isWhole.append_plain w.right.isPlain).plain_append w.left.isPlain

/-! ## looking arguments up -/

theorem Gap.notMem (g : Gap) {c : Char} (hc : isBlank c = false) : c ∉ g.chars := notMem_of_test g.blank hc

theorem QuotedText.trim_chars (n : QuotedText) : trim n.chars = n.chars :=
  trim_of_isTrimmed ⟨.cons (by decide) _, .concat (by decide) ('"' :: n.text)⟩

theorem toNat_of_isAlphanum {c : Char} (h : c.isAlphanum = true) : c.toNat < 0x80 := by
  delta Char.isAlphanum Char.isAlpha Char.isUpper Char.isLower Char.isDigit at h
  simp only [Bool.or_eq_true, Bool.and_eq_true, decide_eq_true_eq, ge_iff_le,
    UInt32.le_iff_toNat_le, Char.reduceVal, UInt32.reduceToNat] at h
  have hn : c.toNat = c.val.toNat := rfl
  omega

/-- the letters and digits of names are letters and digits of keys -/
theorem isAlphanumeric_of_isAlphanum {c : Char} (h : c.isAlphanum = true) : isAlphanumeric c = true := by
  rwa [isAlphanumeric_of_ascii (toNat_of_isAlphanum h)]

namespace WrittenArgument

theorem trim_ne_nil (w : WrittenArgument) : trim w.chars ≠ [] := by
  have hmark : ':' ∈ w.chars ∨ '"' ∈ w.chars := by
    unfold chars
    cases w.body <;> simp [ArgumentBody.chars, QuotedText.chars]
  rcases hmark with hmark | hmark <;> exact List.ne_nil_of_mem (mem_trim hmark (by decide))

/-- the key of an argument without its blanks, as far as it has one -/
theorem splitOnce_chars {w : WrittenArgument} {key : Identifier} {before after : Gap} {value : Value}
    (hw : w.body = .keyed key before after value) :
    (splitOnce ':' w.chars).map (Prod.map trim trim) = some (key.chars, trim value.chars) := by
  have hkey : ':' ∉ w.left.chars ++ (key.chars ++ before.chars) := by
    rw [List.mem_append, List.mem_append, not_or, not_or]
    exact ⟨w.left.notMem (by decide), notMem_of_isIdentifier key.valid (by decide),
      before.notMem (by decide)⟩
  have hchars : w.chars = w.left.chars ++ (key.chars ++ before.chars) ++
      ':' :: (after.chars ++ (value.chars ++ w.right.chars)) := by
    rw [chars, hw, ArgumentBody.chars]
    simp only [List.append_assoc, List.cons_append]
  rw [splitOnce_eq_some_iff.mpr ⟨hchars, hkey⟩]
  show some (trim _, trim _) = _
  rw [trim_blanks_append w.left.blank, trim_append_blanks before.blank,
    trim_of_isTrimmed (isTrimmed_of_isIdentifier key.valid), trim_blanks_append after.blank,
    trim_append_blanks w.right.blank]

theorem quote_mem_key {w : WrittenArgument} {n : QuotedText} (hw : w.body = .quoted n)
    {p : List Char × List Char} (hp : (splitOnce ':' w.chars).map (Prod.map trim trim) = some p) :
    '"' ∈ p.1 := by
  have hchars : w.chars = (w.left.chars ++ ['"']) ++ (n.text ++ ['"'] ++ w.right.chars) := by
    rw [chars, hw, ArgumentBody.chars, QuotedText.chars]
    simp
  have hno : ':' ∉ w.left.chars ++ ['"'] := by
    rw [List.mem_append, not_or]
    exact ⟨w.left.notMem (by decide), by decide⟩
  rw [hchars, splitOnce_append hno, Option.map_map, Option.map_eq_some_iff] at hp
  obtain ⟨⟨before, after⟩, -, rfl⟩ := hp
  refine mem_trim ?_ (by decide)
  simp

theorem namedValue?_chars (w : WrittenArgument) {key : List Char} (hkey : '"' ∉ key) :
    namedValue? key w.chars = (w.valueOf? key).map trim := by
  rw [namedValue?_eq, valueOf?]
  cases hw : w.body with
  | keyed k before after value =>
    rw [splitOnce_chars hw]
    dsimp only [Option.bind]
    split <;> rfl
  | quoted n =>
    cases hsplit : (splitOnce ':' w.chars).map (Prod.map trim trim) with
    | none => rfl
    | some p =>
      refine if_neg ?_
      rintro rfl
      exact hkey (quote_mem_key hw hsplit)

theorem isNamedArgument_chars (w : WrittenArgument) : isNamedArgument w.chars = w.quoted?.isNone := by
  rw [isNamedArgument_eq, quoted?]
  cases hw : w.body with
  | keyed k before after value =>
    have hall : k.chars.all (fun c => isAlphanumeric c || c == '_') = true := by
      rw [List.all_eq_true]
      intro c hc
      rcases Bool.or_eq_true_iff.mp (isNameChar_of_mem k.valid hc) with h | h
      · rw [isAlphanumeric_of_isAlphanum h, Bool.true_or]
      · rw [h, Bool.or_true]
    have hne : k.chars.isEmpty = false := by
      simpa using ne_nil_of_isIdentifier k.valid
    rw [splitOnce_chars hw, Option.any_some, hall, hne]
    rfl
  | quoted n =>
    cases hsplit : (splitOnce ':' w.chars).map (Prod.map trim trim) with
    | none => rfl
    | some p =>
      have hquote := quote_mem_key hw hsplit
      have hall : (p.1.all fun c => isAlphanumeric c || c == '_') = false :=
        List.all_eq_false.mpr ⟨'"', hquote, by decide +kernel⟩
      rw [Option.any_some, hall, Bool.and_false]
      rfl

end WrittenArgument

/-- an attribute with written arguments, as it is read -/
def writtenAttribute (name : String) (ws : List WrittenArgument) : Attribute :=
  ⟨name, some (String.ofList (trim (join [','] (ws.map WrittenArgument.chars))))⟩

section
variable (name : String) (ws : List WrittenArgument)

theorem isWhole_of_mem_map : ∀ part ∈ ws.map WrittenArgument.chars, IsWhole part := by
  intro part hpart
  obtain ⟨w, -, rfl⟩ := List.mem_map.mp hpart
  exact w.isWhole

theorem named?_written {key : String} (hkey : '"' ∉ key.toList) :
    (writtenAttribute name ws).named? key =
      (ws.filterMap (WrittenArgument.valueOf? key.toList)).head?.map trim := by
  have hvalue : namedValue? key.toList ∘ WrittenArgument.chars =
      fun w => (w.valueOf? key.toList).map trim := funext fun w => w.namedValue?_chars hkey
  rw [writtenAttribute, named?_join (isWhole_of_mem_map ws), List.findSome?_map, hvalue,
    List.head?_filterMap, List.map_findSome?]
  rfl

theorem positional?_written :
    (writtenAttribute name ws).positional? 0 =
      (ws.filterMap WrittenArgument.quoted?).head?.map QuotedText.chars := by
  have hne : ∀ part ∈ ws.map WrittenArgument.chars, trim part ≠ [] := by
    intro part hpart
    obtain ⟨w, -, rfl⟩ := List.mem_map.mp hpart
    exact w.trim_ne_nil
  rw [writtenAttribute, positional?_join (isWhole_of_mem_map ws) name hne, List.find?_map,
    List.head?_filterMap]
  simp only [Function.comp_def, WrittenArgument.isNamedArgument_chars]
  induction ws with
  | nil => rfl
  | cons w ws ih =>
    have hrest := ih fun part hpart => hne part (List.mem_cons_of_mem _ hpart)
    rw [List.find?_cons, List.findSome?_cons]
    cases hw : w.body with
    | keyed key before after value =>
      have hnone : w.quoted? = none := by rw [WrittenArgument.quoted?, hw]
      rw [hnone]
      exact hrest
    | quoted n =>
      have hsome : w.quoted? = some n := by rw [WrittenArgument.quoted?, hw]
      rw [hsome]
      show some (trim w.chars) = some n.chars
      rw [WrittenArgument.chars, hw, trim_blanks_append w.left.blank, trim_append_blanks w.right.blank]
      exact congrArg some n.trim_chars

end

end ResolverTypes.DataModel
