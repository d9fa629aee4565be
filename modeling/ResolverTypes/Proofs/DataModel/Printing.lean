import ResolverTypes.DataModel.Document
import ResolverTypes.Proofs.DataModel.Line
import ResolverTypes.Proofs.Text.Split

/-!
# Printing blocks

Blocks are printed one below the other: documentation, a header, one line for each property with its
documentation above it, and a closing brace.  `Block.IsPrintable` says which blocks can be told by such
a text.

A line is put together from parts.  `IsLinePart` says what a part must not have: a comment outside
strings, a line break and a blank at the end.  A line of such parts is seen as content
(`lineShape_content`).
-/

namespace ResolverTypes.DataModel
open Text

/-! ## printing -/

def argumentChars : Option String → List Char
  | none => []
  | some args => '(' :: (args.toList ++ [')'])

def Attribute.chars (a : Attribute) : List Char := '@' :: (a.name.toList ++ argumentChars a.args)

/-- attributes, each behind a space -/
def attributesChars (as : List Attribute) : List Char := as.flatMap fun a => ' ' :: a.chars

def markChars (array optional : Bool) : List Char :=
  (if array then ['[', ']'] else []) ++ if optional then ['?'] else []

def Property.chars : Property → List Char
  | .field d => d.name.toList ++ ' ' :: (d.type.toList ++ (markChars d.array d.optional ++
      attributesChars d.attributes))
  | .value d => d.name.toList ++ attributesChars d.attributes
  | .blockAttribute a => '@' :: a.chars
  | .assignment key text => key.toList ++ ' ' :: '=' :: ' ' :: text.toList

def Property.documentation : Property → Option String
  | .field d => d.documentation
  | .value d => d.documentation
  | .blockAttribute _ | .assignment _ _ => none

/-- the lines of a documentation -/
def docTexts : Option String → List (List Char)
  | none => []
  | some text => splitOn '\n' text.toList

def indented (indent : Nat) (line : List Char) : List Char := List.replicate indent ' ' ++ line

def docLines (indent : Nat) (documentation : Option String) : List (List Char) :=
  (docTexts documentation).map fun t => indented indent (['/', '/', '/', ' '] ++ t)

theorem length_docLines (indent : Nat) (documentation : Option String) :
    (docLines indent documentation).length = (docTexts documentation).length :=
  List.length_map _

def Property.printed (indent : Nat) (p : Property) : List (List Char) :=
  docLines indent p.documentation ++ [indented indent p.chars]

def Block.header (b : Block) : List Char :=
  b.kind.keyword.toList ++ ((b.name.map fun n => ' ' :: n.toList).getD [] ++ [' ', '\x7b'])

def Block.printed (indent : Nat) (b : Block) : List (List Char) :=
  docLines 0 b.documentation ++ b.header :: (b.properties.flatMap (Property.printed indent) ++ [['\x7d']])

/-- the text of some blocks, each line with its line feed -/
def printed (indent : Nat) (bs : List Block) : String :=
  String.ofList ((bs.flatMap (Block.printed indent)).flatMap (· ++ ['\n']))

/-! ## places -/

def Property.placed (line : Nat) : Property → Property
  | .field d => .field { d with line := line }
  | .value d => .value { d with line := line }
  | .blockAttribute a => .blockAttribute a
  | .assignment key text => .assignment key text

def placeProperties (indent line : Nat) : List Property → List Property
  | [] => []
  | p :: ps => p.placed (line + (docTexts p.documentation).length) ::
      placeProperties indent (line + (p.printed indent).length) ps

/-- a block whose first line is the given one, with the lines of its header and its properties -/
def Block.placed (indent line : Nat) (b : Block) : Block :=
  let header := line + (docTexts b.documentation).length
  { b with line := header, properties := placeProperties indent (header + 1) b.properties }

def placeBlocks (indent line : Nat) : List Block → List Block
  | [] => []
  | b :: bs => b.placed indent line :: placeBlocks indent (line + (b.printed indent).length) bs

/-! ## what can be printed -/

/-- the text between the parentheses of an attribute -/
def IsArgumentText (cs : List Char) : Prop :=
  IsTrimmed cs ∧ '\n' ∉ cs ∧ isBalanced .outside 0 cs = true ∧ isCommentFree .outside cs = true

def Attribute.IsPrintable (a : Attribute) : Prop :=
  a.name.toList ≠ [] ∧ a.name.toList.all isAttributeChar = true ∧
    ∀ args ∈ a.args, IsArgumentText args.toList

/-- the text of an assigned value -/
def IsValueText (cs : List Char) : Prop :=
  IsTrimmed cs ∧ cs ≠ [] ∧ '\n' ∉ cs ∧ isCommentFree .outside cs = true

def IsDocumentation (documentation : Option String) : Prop :=
  ∀ t ∈ docTexts documentation, IsTrimmed t

/-- a property that can be printed in a block of the given kind -/
def Property.IsPrintable (kind : BlockKind) : Property → Prop
  | .field d => kind ∈ [.model, .view, .composite] ∧ isIdentifier d.name.toList = true ∧
      IsTypeText d.type.toList ∧ (∀ a ∈ d.attributes, a.IsPrintable) ∧ IsDocumentation d.documentation
  | .value d => kind = .enumeration ∧ isIdentifier d.name.toList = true ∧
      (∀ a ∈ d.attributes, a.IsPrintable) ∧ IsDocumentation d.documentation
  | .blockAttribute a => a.IsPrintable
  | .assignment key text => kind ∈ [.datasource, .generator] ∧ isIdentifier key.toList = true ∧
      IsValueText text.toList

def Block.IsPrintable (b : Block) : Prop :=
  (∀ n ∈ b.name, isIdentifier n.toList = true) ∧ IsDocumentation b.documentation ∧
    ∀ p ∈ b.properties, p.IsPrintable b.kind

instance (cs : List Char) : Decidable (IsArgumentText cs) := inferInstanceAs (Decidable (_ ∧ _))

instance (a : Attribute) : Decidable a.IsPrintable := inferInstanceAs (Decidable (_ ∧ _))

instance (cs : List Char) : Decidable (IsValueText cs) := inferInstanceAs (Decidable (_ ∧ _))

instance (documentation : Option String) : Decidable (IsDocumentation documentation) :=
  inferInstanceAs (Decidable (∀ _ ∈ _, _))

instance (kind : BlockKind) : (p : Property) → Decidable (p.IsPrintable kind)
  | .field _ => inferInstanceAs (Decidable (_ ∧ _))
  | .value _ => inferInstanceAs (Decidable (_ ∧ _))
  | .blockAttribute a => inferInstanceAs (Decidable a.IsPrintable)
  | .assignment _ _ => inferInstanceAs (Decidable (_ ∧ _))

instance (b : Block) : Decidable b.IsPrintable := inferInstanceAs (Decidable (_ ∧ _))

theorem Property.IsPrintable.documentation {kind : BlockKind} {p : Property} (h : p.IsPrintable kind) :
    IsDocumentation p.documentation := by
  cases p with
  | field d => exact h.2.2.2.2
  | value d => exact h.2.2.2
  | blockAttribute a => exact nofun
  | assignment key text => exact nofun

/-! ## parts of lines -/

structure IsLinePart (cs : List Char) : Prop where
  commentFree : isCommentFree .outside cs = true
  oneLine : '\n' ∉ cs
  last : NoBlankLast cs

/-- a part whose strings are closed, so that another part may follow -/
structure IsClosedPart (cs : List Char) : Prop extends IsLinePart cs where
  closed : Quoting.outside.after cs = .outside

variable {xs ys : List Char}

theorem IsLinePart.cons {c : Char} (hc : c ≠ '"' ∧ c ≠ '/' ∧ c ≠ '\n') (hne : ys ≠ [])
    (hy : IsLinePart ys) : IsLinePart (c :: ys) where
  commentFree := by
    have hnext : Quoting.outside.next c = .outside := if_neg hc.1
    have hslash : (c == '/') = false := by simpa using hc.2.1
    rw [isCommentFree, hnext, hslash, hy.commentFree]
    rfl
  oneLine hmem := (List.mem_cons.mp hmem).elim (fun h => hc.2.2 h.symm) hy.oneLine
  last := by
    intro d hd
    rw [List.getLast?_cons_of_ne_nil hne] at hd
    exact hy.last d hd

namespace IsClosedPart

theorem append_isLinePart (hx : IsClosedPart xs) (hy : IsLinePart ys) (hhead : ∀ c ∈ ys.head?, c ≠ '/') :
    IsLinePart (xs ++ ys) where
  commentFree := by
    rw [isCommentFree_append hhead, hx.closed, hx.commentFree, hy.commentFree]
    rfl
  oneLine hmem := (List.mem_append.mp hmem).elim hx.oneLine hy.oneLine
  last := hx.last.append hy.last

theorem append (hx : IsClosedPart xs) (hy : IsClosedPart ys) (hhead : ∀ c ∈ ys.head?, c ≠ '/') :
    IsClosedPart (xs ++ ys) where
  toIsLinePart := hx.append_isLinePart hy.toIsLinePart hhead
  closed := by rw [Quoting.after_append, hx.closed, hy.closed]

theorem cons {c : Char} (hc : c ≠ '"' ∧ c ≠ '/' ∧ c ≠ '\n') (hne : ys ≠ []) (hy : IsClosedPart ys) :
    IsClosedPart (c :: ys) where
  toIsLinePart := hy.toIsLinePart.cons hc hne
  closed := by
    have hnext : Quoting.outside.next c = .outside := if_neg hc.1
    rw [Quoting.after_cons, hnext, hy.closed]

theorem of_notMem (hblank : ∀ c ∈ xs, isBlank c = false) (hquote : '"' ∉ xs) (hslash : '/' ∉ xs) :
    IsClosedPart xs where
  commentFree := isCommentFree_of_notMem hslash _
  oneLine hmem := absurd (hblank _ hmem) (by decide)
  last := .of_forall hblank
  closed := Quoting.after_outside hquote

theorem of_isIdentifier (h : isIdentifier xs = true) : IsClosedPart xs :=
  of_notMem (fun _ hc => isBlank_of_isNameChar (isNameChar_of_mem h hc))
    (notMem_of_isIdentifier h (by decide)) (notMem_of_isIdentifier h (by decide))

/-- for texts that are given -/
theorem of_all (h : xs.all (fun c => !isBlank c && c != '"' && c != '/') = true) : IsClosedPart xs := by
  have hplain : ∀ c ∈ xs, isBlank c = false ∧ c ≠ '"' ∧ c ≠ '/' := by
    simpa [and_assoc] using h
  exact of_notMem (fun c hc => (hplain c hc).1) (fun hmem => (hplain _ hmem).2.1 rfl)
    fun hmem => (hplain _ hmem).2.2 rfl

end IsClosedPart

theorem Quoting.inside_of_notMem (hquote : '"' ∉ xs) (hescape : '\\' ∉ xs) :
    Quoting.inside.after xs = .inside ∧ isCommentFree .inside xs = true := by
  induction xs with
  | nil => exact ⟨rfl, rfl⟩
  | cons c xs ih =>
    obtain ⟨hquote, hquotes⟩ := List.ne_and_not_mem_of_not_mem_cons hquote
    obtain ⟨hescape, hescapes⟩ := List.ne_and_not_mem_of_not_mem_cons hescape
    have hnext : Quoting.inside.next c = .inside := by
      rw [Quoting.next, if_neg hquote.symm, if_neg hescape.symm]
    obtain ⟨hafter, hfree⟩ := ih hquotes hescapes
    rw [Quoting.after_cons, isCommentFree, hnext]
    exact ⟨hafter, hfree⟩

theorem isClosedPart_of_isUnsupported (h : IsUnsupported xs) : IsClosedPart xs := by
  obtain ⟨t, rfl, hquote, hescape, hline⟩ := h
  obtain ⟨hafter, hfree⟩ := Quoting.inside_of_notMem hquote hescape
  have hopen : "Unsupported(\"".toList ++ (t ++ "\")".toList) =
      "Unsupported(".toList ++ ('"' :: (t ++ ['"', ')'])) := by simp
  rw [hopen]
  -- slashes in `t` are inside the string, so that part of the text is seen from there
  refine IsClosedPart.append (.of_all (by decide)) ⟨⟨?_, ?_, ?_⟩, ?_⟩ (by simp)
  · show isCommentFree .inside (t ++ ['"', ')']) = true
    rw [isCommentFree_append (by simp), hafter, hfree]
    rfl
  · intro hmem
    exact hline (by simpa using hmem)
  · have hlast : '"' :: (t ++ ['"', ')']) = ('"' :: (t ++ ['"'])) ++ [')'] := by simp
    rw [hlast]
    exact .concat (by decide) _
  · show Quoting.inside.after (t ++ ['"', ')']) = .outside
    rw [Quoting.after_append, hafter]
    rfl

theorem isClosedPart_of_isTypeText (h : IsTypeText xs) : IsClosedPart xs :=
  h.elim .of_isIdentifier isClosedPart_of_isUnsupported

theorem isClosedPart_argumentChars {args : Option String} (h : ∀ t ∈ args, IsArgumentText t.toList) :
    IsClosedPart (argumentChars args) := by
  cases args with
  | none => exact .of_all rfl
  | some t =>
    obtain ⟨htrim, hline, hbalanced, hfree⟩ := h t rfl
    have ht : IsClosedPart t.toList :=
      ⟨⟨hfree, hline, htrim.2⟩, Quoting.after_of_isBalanced hbalanced⟩
    have hclose : IsClosedPart (t.toList ++ [')']) := ht.append (.of_all (by decide)) (by simp)
    exact hclose.cons (by decide) (by simp)

theorem Attribute.isClosedPart {a : Attribute} (h : a.IsPrintable) : IsClosedPart a.chars := by
  obtain ⟨hne, hname, hargs⟩ := h
  have hpart : IsClosedPart a.name.toList := by
    rw [List.all_eq_true] at hname
    refine .of_notMem (fun c hc => isBlank_of_isAttributeChar (hname c hc)) ?_ ?_ <;>
    · intro hmem
      exact absurd (hname _ hmem) (by decide +kernel)
  refine (hpart.append (isClosedPart_argumentChars hargs) ?_).cons (by decide) (by simp [hne])
  rintro c hc rfl
  cases hargs : a.args <;> rw [hargs] at hc <;> cases hc

/-- what holds of a space holds of the first character of attributes -/
theorem attributesChars_head {P : Char → Prop} (h : P ' ') (as : List Attribute) :
    ∀ c ∈ (attributesChars as).head?, P c := by
  cases as with
  | nil => nofun
  | cons a as =>
    rintro c ⟨⟩
    exact h

theorem isClosedPart_attributesChars {as : List Attribute} (h : ∀ a ∈ as, a.IsPrintable) :
    IsClosedPart (attributesChars as) := by
  induction as with
  | nil => exact .of_all rfl
  | cons a as ih =>
    have ha : IsClosedPart (' ' :: a.chars) :=
      (Attribute.isClosedPart (h a List.mem_cons_self)).cons (by decide) nofun
    exact ha.append (ih fun b hb => h b (List.mem_cons_of_mem a hb)) (attributesChars_head (by decide) as)

/-! ## lines -/

/-- a line of parts that is neither documentation nor a closing brace -/
structure IsContentLine (cs : List Char) : Prop extends IsLinePart cs where
  first : ∃ c ∈ cs.head?, isBlank c = false ∧ c ≠ '/' ∧ c ≠ '\x7d'

theorem isContentLine_of_isIdentifier (h : isIdentifier xs = true) (hpart : IsLinePart (xs ++ ys)) :
    IsContentLine (xs ++ ys) := by
  refine ⟨hpart, ?_⟩
  cases xs with
  | nil => cases h
  | cons c xs =>
    have hc : isNameChar c = true := isNameChar_of_mem h List.mem_cons_self
    refine ⟨c, rfl, isBlank_of_isNameChar hc, ?_, ?_⟩ <;>
    · rintro rfl
      exact absurd hc (by decide)

theorem markChars_head {P : Char → Prop} (harray : P '[') (hoptional : P '?') (hspace : P ' ')
    (array optional : Bool) (as : List Attribute) :
    ∀ c ∈ (markChars array optional ++ attributesChars as).head?, P c := by
  cases array with
  | true =>
    rintro c ⟨⟩
    exact harray
  | false =>
    cases optional with
    | true =>
      rintro c ⟨⟩
      exact hoptional
    | false => exact attributesChars_head hspace as

theorem Property.isContentLine {kind : BlockKind} {p : Property} (h : p.IsPrintable kind) :
    IsContentLine p.chars := by
  cases p with
  | field d =>
    obtain ⟨-, hname, htype, hattributes, -⟩ := h
    have hmarks : IsClosedPart (markChars d.array d.optional) := by
      cases d.array <;> cases d.optional <;> exact .of_all (by decide)
    have htail := hmarks.append (isClosedPart_attributesChars hattributes)
      (attributesChars_head (by decide) _)
    have hrest := (isClosedPart_of_isTypeText htype).append htail
      (markChars_head (by decide) (by decide) (by decide) _ _ _)
    obtain ⟨c, hc, -⟩ := htype.first
    have hne : d.type.toList ≠ [] := List.ne_nil_of_mem (List.mem_of_head? hc)
    have hspace := hrest.cons (c := ' ') (by decide) (List.append_ne_nil_of_left_ne_nil hne _)
    exact isContentLine_of_isIdentifier hname
      ((IsClosedPart.of_isIdentifier hname).append hspace (by simp)).toIsLinePart
  | value d =>
    obtain ⟨-, hname, hattributes, -⟩ := h
    have hline := (IsClosedPart.of_isIdentifier hname).append (isClosedPart_attributesChars hattributes)
      (attributesChars_head (by decide) _)
    exact isContentLine_of_isIdentifier hname hline.toIsLinePart
  | blockAttribute a =>
    have hline := (Attribute.isClosedPart h).cons (c := '@') (by decide) (List.cons_ne_nil _ _)
    exact ⟨hline.toIsLinePart, '@', rfl, by decide⟩
  | assignment key text =>
    obtain ⟨-, hkey, htrim, hne, hline, hfree⟩ := h
    have hvalue : IsLinePart text.toList := ⟨hfree, hline, htrim.2⟩
    have hspace := hvalue.cons (c := ' ') (by decide) hne
    have hsign := hspace.cons (c := '=') (by decide) (List.cons_ne_nil _ _)
    have hrest := hsign.cons (c := ' ') (by decide) (List.cons_ne_nil _ _)
    exact isContentLine_of_isIdentifier hkey
      ((IsClosedPart.of_isIdentifier hkey).append_isLinePart hrest (by simp))

theorem BlockKind.isIdentifier_keyword (kind : BlockKind) : isIdentifier kind.keyword.toList = true := by
  cases kind <;> decide

theorem Block.isContentLine {b : Block} (h : b.IsPrintable) : IsContentLine b.header := by
  have hbrace : IsClosedPart [' ', '\x7b'] := by
    have h : IsClosedPart ['\x7b'] := .of_all (by decide)
    exact h.cons (by decide) nofun
  have hrest : IsClosedPart ((b.name.map fun n => ' ' :: n.toList).getD [] ++ [' ', '\x7b']) := by
    cases hname : b.name with
    | none => exact hbrace
    | some n =>
      have hn := h.1 n hname
      have hspace := (IsClosedPart.of_isIdentifier hn).cons (c := ' ') (by decide)
        (ne_nil_of_isIdentifier hn)
      exact hspace.append hbrace (by simp)
  refine isContentLine_of_isIdentifier b.kind.isIdentifier_keyword
    ((IsClosedPart.of_isIdentifier b.kind.isIdentifier_keyword).append hrest ?_).toIsLinePart
  cases b.name <;> simp

theorem trim_indented (indent : Nat) (cs : List Char) : trim (indented indent cs) = trim cs := by
  have hspaces : ∀ c ∈ List.replicate indent ' ', isBlank c = true := by
    intro c hc
    rw [List.eq_of_mem_replicate hc]
    decide
  rw [trim, indented, trimStart_append hspaces, trim]

theorem lineShape_indented (indent : Nat) (cs : List Char) :
    lineShape (indented indent cs) = lineShape cs := by
  unfold lineShape
  rw [trim_indented]

theorem lineShape_content {cs : List Char} (h : IsContentLine cs) : lineShape cs = .content cs := by
  obtain ⟨c, hc, hblank, hslash, hbrace⟩ := h.first
  cases cs with
  | nil => cases hc
  | cons d cs =>
    cases hc
    have htrim : trim (c :: cs) = c :: cs := trim_of_isTrimmed ⟨.cons hblank cs, h.last⟩
    have hdoc : dropHead? "///".toList (c :: cs) = none := dropHead?_cons_of_ne (Ne.symm hslash) _ _
    unfold lineShape
    dsimp only
    rw [htrim, hdoc, stripComment_eq, beforeComment_of_isCommentFree h.commentFree]
    dsimp only
    rw [htrim]
    split
    · next heq => cases heq
    · next heq =>
      cases heq
      exact absurd rfl hbrace
    · rfl

theorem lineShape_doc {t : List Char} (h : IsTrimmed t) :
    lineShape (['/', '/', '/', ' '] ++ t) = .doc t := by
  -- without a text the mark loses its space
  by_cases hne : t = []
  · rw [hne]
    decide
  have htrim : trim (['/', '/', '/', ' '] ++ t) = "///".toList ++ ' ' :: t := by
    refine trim_of_isTrimmed ⟨.cons (by decide) _, fun c hc => ?_⟩
    rw [List.getLast?_append_of_ne_nil _ hne] at hc
    exact h.2 c hc
  unfold lineShape
  dsimp only
  rw [htrim, dropHead?_append]
  dsimp only
  rw [trim_space h]

end ResolverTypes.DataModel
