import ResolverTypes.Proofs.DataModel.Exchange

/-!
# Relations as they are written

A field of a model type may have an attribute `@relation("name", fields: [a], references: [b])`.  The name
may be left out or be given by its key, the arguments stand in any order, and others may stand between
them.  `RelationText` is such a list of arguments, and `RelationAttributes` are the attributes of a line
with one such attribute among them.

What is written is what the catalog has (`relation_read`).
-/

namespace ResolverTypes.DataModel
open Text

/-! ## texts between brackets -/

theorem dropWhile_of_notMem {c : Char} {cs : List Char} (h : c ∉ cs) : cs.dropWhile (· == c) = cs := by
  cases cs with
  | nil => rfl
  | cons d cs =>
    have hd : (d == c) = false := beq_eq_false_iff_ne.mpr fun heq => h (heq ▸ List.mem_cons_self)
    rw [List.dropWhile_cons, hd, if_neg Bool.false_ne_true]

/-- a text without brackets is what is left of it when brackets are put around it and dropped -/
theorem dropWhile_between {o c : Char} {cs : List Char} (ho : o ∉ cs) (hc : c ∉ cs) :
    (((o :: (cs ++ [c])).dropWhile (· == o)).reverse.dropWhile (· == c)).reverse = cs := by
  have hopen : (o :: (cs ++ [c])).dropWhile (· == o) = (cs ++ [c]).dropWhile (· == o) := by
    rw [List.dropWhile_cons, beq_self_eq_true, if_pos rfl]
  have hclose : (c :: cs.reverse).dropWhile (· == c) = cs.reverse := by
    rw [List.dropWhile_cons, beq_self_eq_true, if_pos rfl]
    exact dropWhile_of_notMem (by simpa using hc)
  rw [hopen]
  by_cases hsame : o = c ∧ cs = []
  · -- two quotes next to each other are dropped together
    obtain ⟨rfl, rfl⟩ := hsame
    simp
  · have hhead : ∀ d ∈ (cs ++ [c]).head?, (d == o) = false := by
      intro d hd
      rw [beq_eq_false_iff_ne]
      rintro rfl
      cases cs with
      | nil =>
        cases hd
        exact hsame ⟨rfl, rfl⟩
      | cons e cs =>
        cases hd
        exact ho List.mem_cons_self
    have hstay : (cs ++ [c]).dropWhile (· == o) = cs ++ [c] :=
      (takeWhile_append_of_head (List.forall_mem_nil _) hhead).2
    rw [hstay, List.reverse_append, List.reverse_singleton, List.singleton_append, hclose,
      List.reverse_reverse]

theorem unquote_chars (n : QuotedText) : unquote n.chars = n.text := by
  unfold unquote
  rw [n.trim_chars]
  exact dropWhile_between n.noQuote n.noQuote

/-! ## lists of names -/

theorem mem_join {sep : List Char} {parts : List (List Char)} {c : Char} (h : c ∈ join sep parts) :
    c ∈ sep ∨ ∃ part ∈ parts, c ∈ part := by
  fun_induction join sep parts with
  | case1 => cases h
  | case2 x => exact .inr ⟨x, List.mem_cons_self, h⟩
  | case3 x y xs ih =>
    rw [List.mem_append, List.mem_append] at h
    rcases h with (h | h) | h
    · exact .inr ⟨x, List.mem_cons_self, h⟩
    · exact .inl h
    · rcases ih h with h | ⟨part, hpart, h⟩
      · exact .inl h
      · exact .inr ⟨part, List.mem_cons_of_mem x hpart, h⟩

structure ListEntry where
  left : Gap
  name : Identifier
  right : Gap

def ListEntry.chars (e : ListEntry) : List Char := e.left.chars ++ (e.name.chars ++ e.right.chars)

theorem ListEntry.trim_chars (e : ListEntry) : trim e.chars = e.name.chars := by
  rw [chars, trim_blanks_append e.left.blank, trim_append_blanks e.right.blank]
  exact trim_of_isTrimmed (isTrimmed_of_isIdentifier e.name.valid)

theorem ListEntry.isPlain (e : ListEntry) : ∀ c ∈ e.chars, isPlain c = true := by
  intro c hc
  rw [chars, List.mem_append, List.mem_append] at hc
  rcases hc with hc | hc | hc
  · exact e.left.isPlain c hc
  · exact e.name.isPlain c hc
  · exact e.right.isPlain c hc

/-- `[a, b]`, with blanks before the bracket that closes it -/
structure NameList where
  entries : List ListEntry
  last : Gap

namespace NameList

def inner (l : NameList) : List Char := join [','] (l.entries.map ListEntry.chars) ++ l.last.chars

def chars (l : NameList) : List Char := '[' :: (l.inner ++ [']'])

def names (l : NameList) : List String := l.entries.map fun e => String.ofList e.name.chars

theorem mem_inner {l : NameList} {c : Char} (hc : c ∈ l.inner) : isPlain c = true ∨ c = ',' := by
  rw [inner, List.mem_append] at hc
  rcases hc with hc | hc
  · rcases mem_join hc with hc | ⟨part, hpart, hc⟩
    · exact .inr (List.mem_singleton.mp hc)
    · obtain ⟨e, -, rfl⟩ := List.mem_map.mp hpart
      exact .inl (e.isPlain c hc)
  · exact .inl (l.last.isPlain c hc)

theorem notMem_inner (l : NameList) {c : Char} (hplain : isPlain c = false) (hcomma : c ≠ ',') :
    c ∉ l.inner := by
  intro hc
  rcases mem_inner hc with h | h
  · rw [hplain] at h
    cases h
  · exact hcomma h

theorem filter_splitOn_inner (l : NameList) :
    ((splitOn ',' l.inner).map trim).filter (fun e => !e.isEmpty) = l.entries.map fun e => e.name.chars := by
  have hlast : ',' ∉ l.last.chars := l.last.notMem (by decide)
  obtain ⟨parts, part, hjoin, hinner⟩ :=
    splitOn_append_of_notMem (join [','] (l.entries.map ListEntry.chars)) hlast
  -- blanks at the end go to the last entry, and are trimmed there
  have htrim : (splitOn ',' l.inner).map trim =
      (splitOn ',' (join [','] (l.entries.map ListEntry.chars))).map trim := by
    rw [inner, hinner, hjoin]
    simp [trim_append_blanks l.last.blank]
  rw [htrim]
  cases hentries : l.entries with
  | nil => rfl
  | cons e es =>
    have hcommas : ∀ part ∈ (e :: es).map ListEntry.chars, ',' ∉ part := by
      intro part hpart
      obtain ⟨e', -, rfl⟩ := List.mem_map.mp hpart
      exact notMem_of_test e'.isPlain (by decide)
    have hnames : ((e :: es).map ListEntry.chars).map trim = (e :: es).map fun e => e.name.chars := by
      rw [List.map_map]
      exact List.map_congr_left fun e' _ => e'.trim_chars
    rw [splitOn_join (by simp) hcommas, hnames, List.filter_eq_self]
    intro name hname
    obtain ⟨e', -, rfl⟩ := List.mem_map.mp hname
    simpa using ne_nil_of_isIdentifier e'.name.valid

theorem trim_chars (l : NameList) : trim l.chars = l.chars :=
  trim_of_isTrimmed ⟨.cons (by decide) _, .concat (by decide) ('[' :: l.inner)⟩

theorem listEntries_chars (l : NameList) : listEntries l.chars = l.names := by
  have hinner := dropWhile_between (l.notMem_inner (c := '[') (by decide) (by decide))
    (l.notMem_inner (c := ']') (by decide) (by decide))
  have hfilter : ∀ xs : List (List Char),
      (xs.filterMap fun e => if e.isEmpty then none else some (String.ofList e)) =
        (xs.filter fun e => !e.isEmpty).map String.ofList := by
    intro xs
    induction xs with
    | nil => rfl
    | cons x xs ih =>
      cases x with
      | nil => exact ih
      | cons c x => exact congrArg (String.ofList (c :: x) :: ·) ih
  unfold listEntries
  rw [l.trim_chars]
  dsimp only
  rw [chars, hinner, hfilter, filter_splitOn_inner, List.map_map]
  rfl

theorem isValueFrom_inner {cs : List Char} (h : ∀ c ∈ cs, isPlain c = true ∨ c = ',') :
    isValueFrom .outside [']'] (cs ++ [']']) = true := by
  induction cs with
  | nil => rfl
  | cons c cs ih =>
    obtain ⟨hc, hcs⟩ := List.forall_mem_cons.mp h
    rw [List.cons_append]
    rcases hc with hc | rfl
    · rw [isValueFrom_plain hc]
      exact ih hcs
    · exact ih hcs

/-- a list of names is a value -/
def value (l : NameList) : Value where
  chars := l.chars
  closed := isValueFrom_inner fun _ hc => mem_inner hc
  commentFree := by
    refine isCommentFree_of_notMem ?_ _
    intro hmem
    rcases List.mem_cons.mp hmem with h | h
    · exact absurd h (by decide)
    · rcases List.mem_append.mp h with h | h
      · exact l.notMem_inner (by decide) (by decide) h
      · exact absurd (List.mem_singleton.mp h) (by decide)

end NameList

/-! ## arguments of a relation -/

def nameKey : Identifier := ⟨"name".toList, by decide⟩

def fieldsKey : Identifier := ⟨"fields".toList, by decide⟩

def referencesKey : Identifier := ⟨"references".toList, by decide⟩

inductive RelationArgument where
  | name (n : QuotedText)
  | keyedName (before after : Gap) (n : QuotedText)
  | fields (before after : Gap) (l : NameList)
  | references (before after : Gap) (l : NameList)
  | other (key : Identifier) (before after : Gap) (value : Value) (notName : key.chars ≠ nameKey.chars)
      (notFields : key.chars ≠ fieldsKey.chars) (notReferences : key.chars ≠ referencesKey.chars)

namespace RelationArgument

def body : RelationArgument → ArgumentBody
  | .name n => .quoted n
  | .keyedName before after n => .keyed nameKey before after n.value
  | .fields before after l => .keyed fieldsKey before after l.value
  | .references before after l => .keyed referencesKey before after l.value
  | .other key before after value _ _ _ => .keyed key before after value

def plainName? : RelationArgument → Option QuotedText
  | .name n => some n
  | _ => none

def keyedName? : RelationArgument → Option QuotedText
  | .keyedName _ _ n => some n
  | _ => none

def fields? : RelationArgument → Option NameList
  | .fields _ _ l => some l
  | _ => none

def references? : RelationArgument → Option NameList
  | .references _ _ l => some l
  | _ => none

end RelationArgument

/-- an argument with the blanks around it -/
structure RelationPart where
  left : Gap
  argument : RelationArgument
  right : Gap

namespace RelationPart

def written (p : RelationPart) : WrittenArgument := ⟨p.left, p.argument.body, p.right⟩

/-- the name, with or without its key -/
def name? (p : RelationPart) : Option QuotedText := p.argument.keyedName? <|> p.argument.plainName?

variable (p : RelationPart)

theorem quoted?_written : p.written.quoted? = p.argument.plainName? := by
  unfold written WrittenArgument.quoted?
  cases p.argument <;> rfl

theorem valueOf?_name : p.written.valueOf? "name".toList = p.argument.keyedName?.map QuotedText.chars := by
  unfold written WrittenArgument.valueOf?
  cases p.argument with
  | other key before after value notName notFields notReferences => exact if_neg notName
  | _ => rfl

theorem valueOf?_fields : p.written.valueOf? "fields".toList = p.argument.fields?.map NameList.chars := by
  unfold written WrittenArgument.valueOf?
  cases p.argument with
  | other key before after value notName notFields notReferences => exact if_neg notFields
  | _ => rfl

theorem valueOf?_references :
    p.written.valueOf? "references".toList = p.argument.references?.map NameList.chars := by
  unfold written WrittenArgument.valueOf?
  cases p.argument with
  | other key before after value notName notFields notReferences => exact if_neg notReferences
  | _ => rfl

end RelationPart

/-- of two kinds of values, of which there is at most one, the first of each kind are enough -/
theorem head?_filterMap_or {α β : Type} {g h : α → Option β} {xs : List α} {o : Option β}
    (hxs : (xs.filterMap fun x => g x <|> h x) = o.toList) :
    ((xs.filterMap g).head? <|> (xs.filterMap h).head?) = o := by
  cases hhead : (xs.filterMap g).head? with
  | some z =>
    obtain ⟨x, hx, hg⟩ := List.mem_filterMap.mp (List.mem_of_head? hhead)
    have hz : z ∈ o.toList := by
      rw [← hxs, List.mem_filterMap]
      exact ⟨x, hx, by rw [hg]; rfl⟩
    exact (Option.mem_toList.mp hz).symm
  | none =>
    have hnone : ∀ x ∈ xs, g x = none := List.filterMap_eq_nil_iff.mp (List.head?_eq_none_iff.mp hhead)
    have hsame : xs.filterMap h = o.toList := by
      rw [← hxs]
      exact List.filterMap_congr fun x hx => by rw [hnone x hx]; rfl
    rw [hsame]
    cases o <;> rfl

/-- arguments of a relation: perhaps a name, and each list once -/
structure RelationText where
  parts : List RelationPart
  name : Option QuotedText
  fields : NameList
  references : NameList
  name_eq : parts.filterMap RelationPart.name? = name.toList
  fields_eq : parts.filterMap (·.argument.fields?) = [fields]
  references_eq : parts.filterMap (·.argument.references?) = [references]

namespace RelationText

def chars (r : RelationText) : List Char :=
  join [','] ((r.parts.map RelationPart.written).map WrittenArgument.chars)

/-- what a relation to a model says with these arguments -/
def relation (r : RelationText) (model : String) (array : Bool) : Relation where
  model := model
  kind := if array then .oneToMany else .oneToOne
  name := r.name.map fun n => String.ofList n.text
  fields := r.fields.names
  references := r.references.names

variable (r : RelationText)

/-- the attribute as it is read -/
def toAttribute : Attribute := writtenAttribute "relation" (r.parts.map RelationPart.written)

theorem named?_eq {β : Type} {g : RelationPart → Option β} {text : β → List Char} {key : String}
    (hkey : '"' ∉ key.toList) (hvalue : ∀ p, p.written.valueOf? key.toList = (g p).map text)
    (htrim : ∀ x, trim (text x) = text x) :
    r.toAttribute.named? key = (r.parts.filterMap g).head?.map text := by
  have hvalues : (r.parts.map RelationPart.written).filterMap (WrittenArgument.valueOf? key.toList) =
      (r.parts.filterMap g).map text := by
    rw [List.filterMap_map, List.map_filterMap]
    exact List.filterMap_congr fun p _ => hvalue p
  rw [toAttribute, named?_written _ _ hkey, hvalues, List.head?_map, Option.map_map]
  exact congrArg (Option.map · _) (funext htrim)

theorem named?_fields : r.toAttribute.named? "fields" = some r.fields.chars := by
  rw [r.named?_eq (by decide) RelationPart.valueOf?_fields NameList.trim_chars, r.fields_eq]
  rfl

theorem named?_references : r.toAttribute.named? "references" = some r.references.chars := by
  rw [r.named?_eq (by decide) RelationPart.valueOf?_references NameList.trim_chars, r.references_eq]
  rfl

theorem named?_name : r.toAttribute.named? "name" =
    (r.parts.filterMap (·.argument.keyedName?)).head?.map QuotedText.chars :=
  r.named?_eq (by decide) RelationPart.valueOf?_name QuotedText.trim_chars

theorem positional?_name : r.toAttribute.positional? 0 =
    (r.parts.filterMap (·.argument.plainName?)).head?.map QuotedText.chars := by
  have hvalues : (r.parts.map RelationPart.written).filterMap WrittenArgument.quoted? =
      r.parts.filterMap (·.argument.plainName?) := by
    rw [List.filterMap_map]
    exact List.filterMap_congr fun p _ => p.quoted?_written
  rw [toAttribute, positional?_written, hvalues]

theorem name_read : ((r.toAttribute.named? "name") <|> (r.toAttribute.positional? 0)).map
    (fun n => String.ofList (unquote n)) = r.name.map fun n => String.ofList n.text := by
  have hname := head?_filterMap_or r.name_eq
  have htext : ∀ n : QuotedText, String.ofList (unquote n.chars) = String.ofList n.text :=
    fun n => congrArg String.ofList (unquote_chars n)
  rw [r.named?_name, r.positional?_name, ← hname]
  generalize (r.parts.filterMap (·.argument.keyedName?)).head? = keyed
  generalize (r.parts.filterMap (·.argument.plainName?)).head? = plain
  cases keyed with
  | some n => exact congrArg some (htext n)
  | none =>
    cases plain with
    | none => rfl
    | some n => exact congrArg some (htext n)

/-- the attribute as it is written, with the blanks before it -/
def written (left : Gap) : WrittenAttribute where
  left := left
  name := "relation".toList
  args := some r.chars
  name_ne := by decide
  nameChars := List.all_eq_true.mp (by decide +kernel)
  balanced := by
    rintro t ⟨⟩
    exact isBalanced_join (isWhole_of_mem_map _)
  commentFree := by
    rintro t ⟨⟩
    exact isCommentFree_join (isWhole_of_mem_map _)

theorem toAttribute_written (left : Gap) : (r.written left).toAttribute = r.toAttribute := by
  have hname : String.ofList (r.written left).name = "relation" := String.ofList_toList
  rw [WrittenAttribute.toAttribute, hname]
  rfl

end RelationText

/-! ## the attributes of a line -/

/-- attributes with one relation among them -/
structure RelationAttributes where
  before : List WrittenAttribute
  left : Gap
  relation : RelationText
  after : List WrittenAttribute
  others : ∀ a ∈ before ++ after, a.name ≠ "relation".toList
  spaced : ∀ a ∈ (before ++ relation.written left :: after).head?, a.left.chars ≠ []

namespace RelationAttributes
variable (r : RelationAttributes) (f : FieldText) (docs : Option String) (line : Nat)

def list : AttributeList := ⟨r.before ++ r.relation.written r.left :: r.after, r.spaced⟩

theorem attribute?_decl :
    (f.decl r.list docs line).attribute? "relation" = some r.relation.toAttribute := by
  have hattributes : r.list.attributes = r.before.map WrittenAttribute.toAttribute ++
      r.relation.toAttribute :: r.after.map WrittenAttribute.toAttribute := by
    rw [AttributeList.attributes, list, List.map_append, List.map_cons, RelationText.toAttribute_written]
  have hbefore : (r.before.map WrittenAttribute.toAttribute).find? (fun a => a.name == "relation") = none := by
    rw [List.find?_eq_none]
    intro a ha hname
    obtain ⟨w, hw, rfl⟩ := List.mem_map.mp ha
    have hw' : String.ofList w.name = "relation" := beq_iff_eq.mp hname
    refine r.others w (List.mem_append_left _ hw) ?_
    rw [← hw', String.toList_ofList]
  have hrelation : (r.relation.toAttribute.name == "relation") = true := beq_self_eq_true "relation"
  show r.list.attributes.find? (fun a => a.name == "relation") = _
  rw [hattributes, List.find?_append, hbefore, Option.none_or, List.find?_cons, hrelation]

theorem relation_decl : (f.decl r.list docs line).relation =
    r.relation.relation (String.ofList f.type.chars) f.array := by
  unfold FieldDecl.relation
  rw [r.attribute?_decl]
  simp only [Option.bind_some, r.relation.name_read, r.relation.named?_fields,
    r.relation.named?_references, Option.map_some, Option.getD_some, NameList.listEntries_chars]
  rfl

end RelationAttributes

/-! ## the catalog -/

/-- the field of a catalog that was read from a line of a text -/
structure Catalog.HasFieldAt (c : Catalog) (source : String) (line : Nat) (m : Model) (field : Field) :
    Prop where
  model? : c.model? m.name = some m
  field? : m.field? field.name = some field
  place : ∃ blocks, parse source = .ok blocks ∧ ∃ b ∈ blocks, b.name = some m.name ∧
    ∃ d ∈ b.fields, d.line = line ∧ d.name = field.name

/-- **relations are read as they are written**: the line of such a field is accepted where it is with any
other attributes, and if its type is a model the field has the relation that the arguments say -/
theorem relation_read (f : FieldText) (r : RelationAttributes) {source : String}
    {above below : List (List Char)} (hsource : lines source.toList = above ++ f.chars r.list :: below) :
    (∀ (as : AttributeList) (text : String), lines text.toList = above ++ f.chars as :: below →
      ((∃ c, (parse source >>= Catalog.ofBlocks) = .ok c) ↔
        ∃ c, (parse text >>= Catalog.ofBlocks) = .ok c)) ∧
    ∀ c, (parse source >>= Catalog.ofBlocks) = .ok c →
      (c.model? (String.ofList f.type.chars)).isSome = true →
      ∃ m field, c.HasFieldAt source (1 + above.length) m field ∧
        field.name = String.ofList f.name.chars ∧
        field.relation = some (r.relation.relation (String.ofList f.type.chars) f.array) := by
  refine ⟨fun as text htext => exists_catalog_exchange hsource htext, fun c hc htype => ?_⟩
  obtain ⟨blocks, hparse, hblocks⟩ := ok_of_bind hc
  obtain ⟨b, hb, hmodel, docs, hd⟩ := field_of_parse hsource hparse
  obtain ⟨m, hm⟩ : ∃ m, b.model? (modelNames blocks) (enumNames blocks) = some m :=
    Block.exists_model? hmodel ((Catalog.ofBlocks_eq_ok_iff.mp hblocks).1.named b hb)
  obtain ⟨-, hname, -, hfields⟩ := Block.model?_eq_some_iff.mp hm
  have hmem : m ∈ c.models := by
    rw [Catalog.ofBlocks_models hblocks]
    exact List.mem_filterMap.mpr ⟨b, hb, hm⟩
  have hfield : (f.decl r.list docs (1 + above.length)).resolved (modelNames blocks) (enumNames blocks) ∈
      m.fields := by
    rw [hfields]
    exact List.mem_map_of_mem hd
  have htypes : (modelNames blocks).contains (String.ofList f.type.chars) = true := by
    rw [Catalog.model?_isSome_iff, Catalog.ofBlocks_models hblocks, filterMap_model?_names] at htype
    exact List.contains_iff_mem.mpr htype
  refine ⟨m, _, ⟨?_, find?_name_of_mem (Catalog.ofBlocks_fields_nodup hblocks hmem) hfield,
    blocks, hparse, b, hb, hname, _, hd, rfl, rfl⟩, rfl, ?_⟩
  · exact find?_name_of_mem (Catalog.ofBlocks_models_nodup hblocks) hmem
  · show (if (modelNames blocks).contains (String.ofList f.type.chars) then
      some (f.decl r.list docs (1 + above.length)).relation else none) = _
    rw [if_pos htypes, r.relation_decl]

/-! Commas, a colon, brackets and a comment mark in a name, which stands between the lists. -/

def noGap : Gap := ⟨[], nofun⟩

def space : Gap := ⟨[' '], List.forall_mem_singleton.mpr (by decide)⟩

def crowdedField : FieldText :=
  ⟨space, ⟨"b".toList, by decide⟩, space, ⟨"A".toList, by decide⟩, true, false, space, "// c".toList,
    by decide, .inr (by decide)⟩

def crowdedName : QuotedText := ⟨"x, [y: (// z".toList, by decide, by decide⟩

def crowdedRelation : RelationText where
  parts := [
    ⟨noGap, .references space space ⟨[⟨space, ⟨"id".toList, by decide⟩, noGap⟩], space⟩, space⟩,
    ⟨space, .name crowdedName, noGap⟩,
    ⟨noGap, .other ⟨"onDelete".toList, by decide⟩ noGap noGap
      ⟨"f(\",]\", [1, 2])".toList, by decide, by decide⟩ (by decide) (by decide) (by decide), noGap⟩,
    ⟨space, .fields noGap noGap ⟨[⟨noGap, ⟨"u".toList, by decide⟩, space⟩,
      ⟨space, ⟨"v".toList, by decide⟩, noGap⟩], noGap⟩, noGap⟩]
  name := some crowdedName
  fields := ⟨[⟨noGap, ⟨"u".toList, by decide⟩, space⟩, ⟨space, ⟨"v".toList, by decide⟩, noGap⟩], noGap⟩
  references := ⟨[⟨space, ⟨"id".toList, by decide⟩, noGap⟩], space⟩
  name_eq := rfl
  fields_eq := rfl
  references_eq := rfl

def crowdedAttributes : RelationAttributes where
  before := [⟨space, "map".toList, some "\"//)\"".toList, by decide, List.all_eq_true.mp (by decide +kernel),
    by rintro t ⟨⟩; decide, by rintro t ⟨⟩; decide⟩]
  left := noGap
  relation := crowdedRelation
  after := []
  others := by
    intro a ha
    rw [List.mem_singleton.mp ha]
    decide
  spaced := by
    rintro a ⟨⟩
    decide

def crowdedText : String :=
  "model A \x7b\n b A[] @map(\"//)\")@relation(references : [ id ] , \"x, [y: (// z\"," ++
    "onDelete:f(\",]\", [1, 2]), fields:[u , v]) // c\n\x7d\n"

/-- the same line without attributes -/
def bareText : String := "model A \x7b\n b A[] // c\n\x7d\n"

theorem relation_read_crowded :
    lines crowdedText.toList =
      ["model A \x7b".toList] ++ crowdedField.chars crowdedAttributes.list :: [['\x7d']] ∧
    (∃ c, (parse bareText >>= Catalog.ofBlocks) = .ok c) ∧
    ∃ c, (parse crowdedText >>= Catalog.ofBlocks) = .ok c ∧
      ∃ m field, c.HasFieldAt crowdedText 2 m field ∧ field.name = "b" ∧
        field.relation = some ⟨"A", .oneToMany, some "x, [y: (// z", ["u", "v"], ["id"]⟩ := by
  have hsource : lines crowdedText.toList =
      ["model A \x7b".toList] ++ crowdedField.chars crowdedAttributes.list :: [['\x7d']] := by
    decide +kernel
  have hbare : lines bareText.toList =
      ["model A \x7b".toList] ++ crowdedField.chars ⟨[], nofun⟩ :: [['\x7d']] := by
    decide +kernel
  have haccepted : ((parse crowdedText >>= Catalog.ofBlocks).toOption.any fun c =>
      (c.model? "A").isSome) = true := by
    decide +kernel
  obtain ⟨hexchange, hread⟩ := relation_read crowdedField crowdedAttributes hsource
  cases hc : parse crowdedText >>= Catalog.ofBlocks with
  | error e =>
    rw [hc] at haccepted
    cases haccepted
  | ok c =>
    rw [hc] at haccepted
    exact ⟨hsource, (hexchange _ bareText hbare).mp ⟨c, hc⟩, c, rfl, hread c hc haccepted⟩

end ResolverTypes.DataModel
