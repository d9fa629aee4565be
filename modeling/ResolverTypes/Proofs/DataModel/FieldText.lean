import ResolverTypes.Proofs.DataModel.Argument
import ResolverTypes.Proofs.DataModel.Catalog
import ResolverTypes.Proofs.DataModel.RoundTrip

/-!
# Written field lines

A field line is a name, a type with its marks, attributes and perhaps a comment, with blanks between
them.  `FieldText` is such a line without its attributes, and `AttributeList` is what may stand there.

Whatever the attributes are, the line is a field in the block of a model and is refused everywhere else
(`FieldText.step_chars`).
-/

namespace ResolverTypes.DataModel
open Text

/-! ## attributes -/

/-- an attribute with the blanks before it -/
structure WrittenAttribute where
  left : Gap
  name : List Char
  args : Option (List Char)
  name_ne : name ≠ []
  nameChars : ∀ c ∈ name, isAttributeChar c = true
  balanced : ∀ t ∈ args, isBalanced .outside 0 t = true
  commentFree : ∀ t ∈ args, isCommentFree .outside t = true

def WrittenAttribute.chars (a : WrittenAttribute) : List Char :=
  a.left.chars ++ '@' :: (a.name ++ parenthesized a.args)

/-- the attribute as it is read -/
def WrittenAttribute.toAttribute (a : WrittenAttribute) : Attribute :=
  ⟨String.ofList a.name, a.args.map fun t => String.ofList (trim t)⟩

def attributesText (as : List WrittenAttribute) : List Char := as.flatMap WrittenAttribute.chars

theorem attributesText_cons (a : WrittenAttribute) (as : List WrittenAttribute) :
    attributesText (a :: as) =
      a.left.chars ++ '@' :: (a.name ++ (parenthesized a.args ++ attributesText as)) := by
  simp [attributesText, WrittenAttribute.chars]

theorem trimStart_attributesText (a : WrittenAttribute) (as : List WrittenAttribute) :
    trimStart (attributesText (a :: as)) = '@' :: (a.name ++ (parenthesized a.args ++ attributesText as)) := by
  rw [attributesText_cons, trimStart_append a.left.blank, trimStart_of_noBlankFirst]
  exact .cons (by decide) _

/-- what holds of blanks and of `@` holds of the first character of attributes -/
theorem attributesText_head {P : Char → Prop} (hblank : ∀ c, isBlank c = true → P c) (hat : P '@')
    (as : List WrittenAttribute) : ∀ c ∈ (attributesText as).head?, P c := by
  cases as with
  | nil => nofun
  | cons a as =>
    intro c hc
    rw [attributesText, List.flatMap_cons, WrittenAttribute.chars] at hc
    cases hleft : a.left.chars with
    | nil =>
      rw [hleft] at hc
      cases hc
      exact hat
    | cons w ws =>
      rw [hleft] at hc
      cases hc
      exact hblank c (a.left.blank c (by rw [hleft]; exact List.mem_cons_self))

theorem scanAttributes_written {as : List WrittenAttribute} {cs : List Char}
    (hcs : trimStart cs = trimStart (attributesText as)) :
    scanAttributes cs = .ok (as.map WrittenAttribute.toAttribute) := by
  induction as generalizing cs with
  | nil => exact scanAttributes_blank hcs
  | cons a as ih =>
    have hhead : ∀ c ∈ (attributesText as).head?, isAttributeChar c = false ∧ c ≠ '(' := by
      refine attributesText_head (fun c hc => ⟨?_, ne_of_test hc (by decide)⟩) (by decide +kernel) as
      refine Bool.eq_false_iff.mpr fun hname => ?_
      rw [isBlank_of_isAttributeChar hname] at hc
      cases hc
    rw [attributesText_cons] at hcs
    exact scanAttributes_cons hcs a.left.blank a.name_ne a.nameChars a.balanced hhead (ih rfl)

theorem scanAttributes_other {c : Char} {cs rest : List Char} (hcs : trimStart cs = c :: rest)
    (hc : c ≠ '@') : ∃ fault, scanAttributes cs = .error fault := by
  rw [scanAttributes]
  split
  · next h => cases hcs.symm.trans h
  · next h =>
    cases hcs.symm.trans h
    exact absurd rfl hc
  · exact ⟨_, rfl⟩

/-! ## texts without comments -/

/-- a part of a line that no comment starts in, and none at its end -/
structure IsUncommented (cs : List Char) : Prop where
  quotes : Quoting.outside.after cs = .outside
  commentFree : isCommentFree .outside cs = true
  last : cs.getLast? ≠ some '/'

namespace IsUncommented

theorem append {xs ys : List Char} (hx : IsUncommented xs) (hy : IsUncommented ys) :
    IsUncommented (xs ++ ys) where
  quotes := by rw [Quoting.after_append, hx.quotes, hy.quotes]
  commentFree := by
    rw [isCommentFree_append_of_joint fun h => absurd h hx.last, hx.quotes, hx.commentFree,
      hy.commentFree]
    rfl
  last := by
    rw [List.getLast?_append]
    cases hlast : ys.getLast? with
    | none => exact hx.last
    | some c => exact fun h => hy.last (hlast.trans h)

theorem of_isPlain {cs : List Char} (h : ∀ c ∈ cs, isPlain c = true) : IsUncommented cs where
  quotes := Quoting.after_outside (notMem_of_test h (by decide))
  commentFree := isCommentFree_of_notMem (notMem_of_test h (by decide)) _
  last hlast := absurd (List.mem_of_getLast? hlast) (notMem_of_test h (by decide))

end IsUncommented

theorem isUncommented_parenthesized {args : Option (List Char)}
    (hbalanced : ∀ t ∈ args, isBalanced .outside 0 t = true)
    (hfree : ∀ t ∈ args, isCommentFree .outside t = true) : IsUncommented (parenthesized args) := by
  cases args with
  | none => exact ⟨rfl, rfl, nofun⟩
  | some t =>
    have hafter : Quoting.outside.after t = .outside := Quoting.after_of_isBalanced (hbalanced t rfl)
    refine ⟨?_, ?_, ?_⟩
    · show Quoting.outside.after (t ++ [')']) = .outside
      rw [Quoting.after_append, hafter]
      rfl
    · show isCommentFree .outside (t ++ [')']) = true
      rw [isCommentFree_append (by simp), hfree t rfl, hafter]
      rfl
    · show (['('] ++ t ++ [')']).getLast? ≠ some '/'
      rw [List.getLast?_concat]
      decide

theorem isUncommented_attributesText (as : List WrittenAttribute) : IsUncommented (attributesText as) := by
  induction as with
  | nil => exact ⟨rfl, rfl, nofun⟩
  | cons a as ih =>
    have hname : IsUncommented a.name :=
      .of_isPlain fun c hc => isPlain_of (by decide +kernel) (a.nameChars c hc)
    have hat : IsUncommented ['@'] := .of_isPlain (List.forall_mem_singleton.mpr (by decide))
    have hargs := isUncommented_parenthesized a.balanced a.commentFree
    exact ((IsUncommented.of_isPlain a.left.isPlain).append (hat.append (hname.append hargs))).append ih

theorem noBlankLast_attributesText (as : List WrittenAttribute) : NoBlankLast (attributesText as) := by
  induction as with
  | nil => nofun
  | cons a as ih =>
    have hname : NoBlankLast ('@' :: a.name) := by
      refine .of_forall (List.forall_mem_cons.mpr ⟨by decide, ?_⟩)
      exact fun c hc => isBlank_of_isAttributeChar (a.nameChars c hc)
    have hargs : NoBlankLast (parenthesized a.args) := by
      cases a.args with
      | none => nofun
      | some t => exact .concat (by decide) ('(' :: t)
    have ha : NoBlankLast a.chars := (hname.append hargs).append_left (by simp) a.left.chars
    exact ha.append ih

/-! ## field lines -/

theorem isNameChar_of_isBlank {c : Char} (h : isBlank c = true) : isNameChar c = false := by
  refine Bool.eq_false_iff.mpr fun hname => ?_
  rw [isBlank_of_isNameChar hname] at h
  cases h

theorem Identifier.append_cons (i : Identifier) (rest : List Char) :
    ∃ c cs, i.chars ++ rest = c :: cs ∧ isNameChar c = true := by
  have hvalid := i.valid
  cases hchars : i.chars with
  | nil => exact absurd hchars (ne_nil_of_isIdentifier hvalid)
  | cons c cs =>
    rw [hchars] at hvalid
    exact ⟨c, cs ++ rest, rfl, isNameChar_of_mem hvalid List.mem_cons_self⟩

theorem Gap.head_isBlank {g : Gap} (hne : g.chars ≠ []) (rest : List Char) :
    ∀ c ∈ (g.chars ++ rest).head?, isBlank c = true := by
  intro c hc
  rw [List.head?_append_of_ne_nil _ hne] at hc
  exact g.blank c (List.mem_of_head? hc)

theorem takeGap?_append {g : Gap} (hne : g.chars ≠ []) {rest : List Char} (hrest : NoBlankFirst rest) :
    takeGap? (g.chars ++ rest) = some rest := by
  cases hchars : g.chars with
  | nil => exact absurd hchars hne
  | cons w ws =>
    have hblank := g.blank
    rw [hchars, List.forall_mem_cons] at hblank
    rw [List.cons_append, takeGap?, if_pos hblank.1, trimStart_append hblank.2,
      trimStart_of_noBlankFirst hrest]

structure FieldText where
  indent : Gap
  name : Identifier
  gap : Gap
  type : Identifier
  array : Bool
  optional : Bool
  trailing : Gap
  comment : List Char
  gap_ne : gap.chars ≠ []
  commented : comment = [] ∨ ['/', '/'] <+: comment

/-- attributes that may follow a type -/
structure AttributeList where
  list : List WrittenAttribute
  spaced : ∀ a ∈ list.head?, a.left.chars ≠ []

def AttributeList.attributes (as : AttributeList) : List Attribute :=
  as.list.map WrittenAttribute.toAttribute

/-- attributes at the end of a line are found, whether or not there are some -/
theorem AttributeList.takeTail?_eq (as : AttributeList) : ∃ tail, takeTail? (attributesText as.list) = some tail ∧
    scanAttributes tail = .ok as.attributes := by
  obtain ⟨list, hspaced⟩ := as
  cases list with
  | nil => exact ⟨[], rfl, scanAttributes_blank rfl⟩
  | cons a list =>
    have hstart := trimStart_attributesText a list
    cases hleft : a.left.chars with
    | nil => exact absurd hleft (hspaced a rfl)
    | cons w ws =>
      have hw : isBlank w = true := a.left.blank w (by rw [hleft]; exact List.mem_cons_self)
      obtain ⟨rest, hrest⟩ : ∃ rest, attributesText (a :: list) = w :: rest := by
        rw [attributesText, List.flatMap_cons, WrittenAttribute.chars, hleft]
        exact ⟨_, rfl⟩
      have htail : trimStart (trimStart rest) = trimStart (attributesText (a :: list)) := by
        rw [hrest, trimStart_cons, if_pos hw] at hstart
        rw [hrest, trimStart_cons, if_pos hw, hstart, trimStart_of_noBlankFirst]
        exact .cons (by decide) _
      refine ⟨trimStart rest, ?_, scanAttributes_written htail⟩
      show takeTail? (attributesText (a :: list)) = _
      rw [hrest]
      exact if_pos hw

namespace FieldText

def marks (f : FieldText) : List Char := markChars f.array f.optional

/-- the line without its comment and the blanks around it -/
def content (f : FieldText) (as : AttributeList) : List Char :=
  f.name.chars ++ (f.gap.chars ++ (f.type.chars ++ (f.marks ++ attributesText as.list)))

def chars (f : FieldText) (as : AttributeList) : List Char :=
  f.indent.chars ++ (f.content as ++ (f.trailing.chars ++ f.comment))

/-- the field of the line -/
def decl (f : FieldText) (as : AttributeList) (docs : Option String) (line : Nat) : FieldDecl :=
  ⟨String.ofList f.name.chars, String.ofList f.type.chars, f.array, f.optional, as.attributes, docs, line⟩

variable (f : FieldText) (as : AttributeList)

theorem isUncommented_content : IsUncommented (f.content as) := by
  have hmarks : IsUncommented f.marks := by
    unfold marks
    cases f.array <;> cases f.optional <;> exact ⟨by decide, by decide, by decide⟩
  have htail := hmarks.append (isUncommented_attributesText as.list)
  exact (IsUncommented.of_isPlain f.name.isPlain).append ((IsUncommented.of_isPlain f.gap.isPlain).append
    ((IsUncommented.of_isPlain f.type.isPlain).append htail))

theorem noBlankLast_content : NoBlankLast (f.content as) := by
  have hmarks : NoBlankLast f.marks := by
    intro c hc
    unfold marks at hc
    cases harray : f.array <;> cases hoptional : f.optional <;> rw [harray, hoptional] at hc <;> cases hc <;>
      decide
  have htype : NoBlankLast f.type.chars := (isTrimmed_of_isIdentifier f.type.valid).2
  have hne : f.type.chars ++ (f.marks ++ attributesText as.list) ≠ [] := by
    simp [ne_nil_of_isIdentifier f.type.valid]
  have hrest := htype.append (hmarks.append (noBlankLast_attributesText as.list))
  exact (hrest.append_left hne f.gap.chars).append_left (by simp [hne]) f.name.chars

theorem beforeComment_rest :
    ∀ c ∈ beforeComment .outside (trimEnd (f.trailing.chars ++ f.comment)), isBlank c = true := by
  rcases f.commented with hcomment | ⟨text, hcomment⟩
  · have hempty : trimEnd (f.trailing.chars ++ f.comment) = [] := by
      rw [hcomment, List.append_nil]
      exact trimEnd_append f.trailing.blank []
    rw [hempty]
    exact nofun
  · have hmark : NoBlankLast (f.trailing.chars ++ ['/', '/']) :=
      NoBlankLast.append_left (.concat (by decide) ['/']) (by simp) _
    have hrest : trimEnd (f.trailing.chars ++ f.comment) =
        f.trailing.chars ++ '/' :: '/' :: trimEnd text := by
      rw [← hcomment, ← List.append_assoc, trimEnd_append_of_noBlankLast hmark]
      simp
    have hblanks := IsUncommented.of_isPlain f.trailing.isPlain
    have hcut : beforeComment .outside ('/' :: '/' :: trimEnd text) = [] := if_pos ⟨rfl, rfl, rfl⟩
    rw [hrest, beforeComment_append hblanks.commentFree fun h => absurd h hblanks.last, hblanks.quotes,
      hcut, List.append_nil]
    exact f.trailing.blank

theorem lineShape_chars : lineShape (f.chars as) = .content (f.content as) := by
  have huncommented := f.isUncommented_content as
  have hlast := f.noBlankLast_content as
  obtain ⟨c, cs, hcontent, hc⟩ : ∃ c cs, f.content as = c :: cs ∧ isNameChar c = true :=
    f.name.append_cons _
  have hfirst : ∀ rest, NoBlankFirst (f.content as ++ rest) := by
    intro rest
    rw [hcontent]
    exact .cons (isBlank_of_isNameChar hc) _
  have hne : ∀ d, isNameChar d = false → d ≠ c := fun d hd => (ne_of_test hc hd).symm
  have htrim : trim (f.chars as) = f.content as ++ trimEnd (f.trailing.chars ++ f.comment) := by
    rw [chars, trim_blanks_append f.indent.blank, trim, trimStart_of_noBlankFirst (hfirst _),
      trimEnd_append_of_noBlankLast hlast]
  have hdoc : dropHead? "///".toList (trim (f.chars as)) = none := by
    rw [htrim, hcontent]
    exact dropHead?_cons_of_ne (hne '/' (by decide)) _ _
  have hstrip : trim (stripComment (trim (f.chars as))) = f.content as := by
    rw [stripComment_eq, htrim, beforeComment_append huncommented.commentFree
      fun h => absurd h huncommented.last, huncommented.quotes, trim_append_blanks f.beforeComment_rest]
    refine trim_of_isTrimmed ⟨?_, hlast⟩
    simpa using hfirst []
  unfold lineShape
  dsimp only
  rw [hdoc]
  dsimp only
  rw [hstrip, hcontent]
  split
  · next heq => cases heq
  · next heq =>
    cases heq
    exact absurd rfl (hne _ (by decide))
  · rfl

/-! ## reading a field line -/

theorem marks_head {P : Char → Prop} (harray : P '[') (hoptional : P '?') (hat : P '@')
    (hblank : ∀ c, isBlank c = true → P c) : ∀ c ∈ (f.marks ++ attributesText as.list).head?, P c := by
  unfold marks markChars
  cases f.array with
  | true =>
    rintro c ⟨⟩
    exact harray
  | false =>
    cases f.optional with
    | true =>
      rintro c ⟨⟩
      exact hoptional
    | false => exact attributesText_head hblank hat as.list

theorem type_head : NoBlankFirst (f.type.chars ++ (f.marks ++ attributesText as.list)) := by
  obtain ⟨c, cs, htype, hc⟩ := f.type.append_cons (f.marks ++ attributesText as.list)
  rw [htype]
  exact .cons (isBlank_of_isNameChar hc) cs

theorem takeName?_content : takeName? (f.content as) =
    some (f.name.chars, f.gap.chars ++ (f.type.chars ++ (f.marks ++ attributesText as.list))) := by
  refine takeName?_append f.name.valid fun c hc => ?_
  exact isNameChar_of_isBlank (Gap.head_isBlank f.gap_ne _ c hc)

theorem readField?_content : ∃ tail,
    readField? (f.content as) = some ⟨f.name.chars, f.type.chars, f.array, f.optional, tail⟩ ∧
      scanAttributes tail = .ok as.attributes := by
  obtain ⟨tail, htail, hscan⟩ := as.takeTail?_eq
  refine ⟨tail, ?_, hscan⟩
  have hmarks : ∀ c ∈ (f.marks ++ attributesText as.list).head?, isNameChar c = false ∧ c ≠ '(' := by
    exact f.marks_head as (by decide) (by decide) (by decide) fun c hc =>
      ⟨isNameChar_of_isBlank hc, ne_of_test hc (by decide)⟩
  have hattributes : ∀ d, isBlank d = false → d ≠ '@' → ∀ c ∈ (attributesText as.list).head?, c ≠ d := by
    intro d hd hat
    exact attributesText_head (fun c hc => ne_of_test hc hd) hat.symm as.list
  have hoptional : takeMark "?".toList ((if f.optional then ['?'] else []) ++ attributesText as.list) =
      (f.optional, attributesText as.list) :=
    takeMark_append f.optional (hattributes '?' (by decide) (by decide))
  have harray : takeMark "[]".toList (f.marks ++ attributesText as.list) =
      (f.array, (if f.optional then ['?'] else []) ++ attributesText as.list) := by
    have hhead : ∀ c ∈ ((if f.optional then ['?'] else []) ++ attributesText as.list).head?, c ≠ '[' := by
      cases f.optional with
      | true =>
        rintro c ⟨⟩
        decide
      | false => exact hattributes '[' (by decide) (by decide)
    rw [marks, markChars, List.append_assoc]
    exact takeMark_append f.array hhead
  unfold readField?
  rw [f.takeName?_content as]
  dsimp only [bind, Option.bind]
  rw [takeGap?_append f.gap_ne (f.type_head as)]
  dsimp only
  rw [takeType?_append (.inl f.type.valid) hmarks]
  dsimp only
  rw [harray]
  dsimp only
  rw [hoptional]
  dsimp only
  rw [htail]
  rfl

theorem readProperty_content {kind : BlockKind} (hkind : kind.model?.isSome = true) (line : Nat)
    (docs : Option String) :
    readProperty kind (f.content as) line docs = .ok (.field (f.decl as docs line)) := by
  obtain ⟨tail, hread, hscan⟩ := f.readField?_content as
  have hat : dropHead? "@@".toList (f.content as) = none := dropHead?_at_of_isIdentifier f.name.valid _
  unfold readProperty
  rw [hat]
  cases kind with
  | model | view | composite =>
    dsimp only
    rw [hread]
    dsimp only
    rw [hscan]
    rfl
  | enumeration | datasource | generator => cases hkind

/-- a field line is refused as a value and as an assignment -/
theorem readProperty_content_error {kind : BlockKind} (hkind : kind.model?.isSome = false) (line : Nat)
    (docs : Option String) : ∃ fault, readProperty kind (f.content as) line docs = .error fault := by
  have hat : dropHead? "@@".toList (f.content as) = none := dropHead?_at_of_isIdentifier f.name.valid _
  have hname := f.takeName?_content as
  have hfirst := f.type_head as
  obtain ⟨c, cs, htype, hc⟩ := f.type.append_cons (f.marks ++ attributesText as.list)
  have hne : ∀ d, isNameChar d = false → c ≠ d := fun d hd => ne_of_test hc hd
  unfold readProperty
  rw [hat]
  cases kind with
  | model | view | composite => cases hkind
  | enumeration =>
    have hgap := takeGap?_append f.gap_ne hfirst
    have htail : takeTail? (f.gap.chars ++ (f.type.chars ++ (f.marks ++ attributesText as.list))) =
        takeGap? (f.gap.chars ++ (f.type.chars ++ (f.marks ++ attributesText as.list))) :=
      if_neg (by simp [f.gap_ne])
    have hread : readValue? (f.content as) =
        some (f.name.chars, f.type.chars ++ (f.marks ++ attributesText as.list)) := by
      unfold readValue?
      rw [hname]
      dsimp only [bind, Option.bind]
      rw [htail, hgap]
      rfl
    have hstart : trimStart (f.type.chars ++ (f.marks ++ attributesText as.list)) = c :: cs := by
      rw [trimStart_of_noBlankFirst hfirst, htype]
    obtain ⟨fault, hfault⟩ := scanAttributes_other hstart (hne '@' (by decide))
    dsimp only
    rw [hread]
    dsimp only
    rw [hfault]
    exact ⟨fault, rfl⟩
  | datasource | generator =>
    have hread : readAssignment? (f.content as) = none := by
      unfold readAssignment?
      rw [hname]
      dsimp only [bind, Option.bind]
      rw [trimStart_append f.gap.blank, trimStart_of_noBlankFirst hfirst, htype,
        dropHead?_cons_of_ne (hne '=' (by decide)).symm]
    dsimp only
    rw [hread]
    exact ⟨_, rfl⟩

theorem headerEnd?_marks : headerEnd? (f.marks ++ attributesText as.list) = none := by
  have hhead : ∀ c ∈ (trimStart (f.marks ++ attributesText as.list)).head?, c ≠ '\x7b' := by
    have hmark : ∀ (m : Char) (rest : List Char), isBlank m = false → m ≠ '\x7b' →
        ∀ c ∈ (trimStart (m :: rest)).head?, c ≠ '\x7b' := by
      intro m rest hblank hm c hc
      rw [trimStart_of_noBlankFirst (.cons hblank rest)] at hc
      cases hc
      exact hm
    unfold marks markChars
    cases f.array with
    | true => exact hmark '[' _ (by decide) (by decide)
    | false =>
      cases f.optional with
      | true => exact hmark '?' _ (by decide) (by decide)
      | false =>
        show ∀ c ∈ (trimStart (attributesText as.list)).head?, c ≠ '\x7b'
        cases as.list with
        | nil => nofun
        | cons a list =>
          rw [trimStart_attributesText]
          rintro c ⟨⟩
          decide
  unfold headerEnd?
  split
  · next rest heq => exact absurd rfl (hhead _ (by rw [heq]; rfl))
  · rfl

/-- a field line opens no block -/
theorem readHeader?_content : readHeader? (f.content as) = none := by
  have hgap : ∀ c ∈ (f.gap.chars ++ (f.type.chars ++ (f.marks ++ attributesText as.list))).head?,
      isNameChar c = false := fun c hc => isNameChar_of_isBlank (Gap.head_isBlank f.gap_ne _ c hc)
  obtain ⟨-, hdrop⟩ := takeWhile_append_of_head (fun c hc => isNameChar_of_mem f.name.valid hc) hgap
  have hmarks : ∀ c ∈ (f.marks ++ attributesText as.list).head?, isNameChar c = false :=
    f.marks_head as (by decide) (by decide) (by decide) fun c hc => isNameChar_of_isBlank hc
  unfold readHeader? content
  rw [hdrop, trimStart_append f.gap.blank, trimStart_of_noBlankFirst (f.type_head as)]
  generalize BlockKind.ofKeyword? _ = kind
  cases kind with
  | none => rfl
  | some kind =>
    dsimp only [bind, Option.bind]
    rw [takeName?_append f.type.valid hmarks]
    dsimp only
    rw [f.headerEnd?_marks as]

/-- **a field line** is a field of the open block if that is a model, and is refused otherwise -/
theorem step_chars (s : ReaderState) (line : Nat) :
    (s.step line (f.chars as)).toOption = (s.current.filter Block.isModel).map fun b =>
      ⟨s.done, some { b with properties :=
        b.properties ++ [.field (f.decl as (joinDocs s.docs) line)] }, []⟩ := by
  unfold ReaderState.step
  rw [f.lineShape_chars as]
  cases s.current with
  | none =>
    dsimp only
    rw [f.readHeader?_content as]
    rfl
  | some b =>
    dsimp only
    cases hmodel : b.isModel with
    | true =>
      rw [f.readProperty_content as hmodel, Option.filter_some_pos hmodel]
      rfl
    | false =>
      obtain ⟨fault, hfault⟩ := f.readProperty_content_error as hmodel line (joinDocs s.docs)
      have hnone : Option.filter Block.isModel (some b) = none := by simp [hmodel]
      rw [hfault, hnone]
      rfl

end FieldText

end ResolverTypes.DataModel
