import ResolverTypes.Proofs.DataModel.Printing

/-!
# Printed blocks are read as they were

Every printed line is read as what it was printed from (`readProperty_chars`, `readHeader?_header`).
The reader takes a printed block from any state without an open block and without waiting documentation
back to such a state, with the block added to the finished ones (`run_block`); so it reads a printed list
of blocks as that list, each header, field and value with the number of its line (`parse_printed`).
-/

namespace ResolverTypes.DataModel
open Text

/-! ## attributes -/

theorem trimStart_attributesChars (a : Attribute) (as : List Attribute) :
    trimStart (attributesChars (a :: as)) = a.chars ++ attributesChars as := by
  have hcons : attributesChars (a :: as) = ' ' :: (a.chars ++ attributesChars as) := rfl
  rw [hcons, trimStart_space, trimStart_of_noBlankFirst]
  exact .cons (by decide) _

theorem scanAttributes_printed {as : List Attribute} (h : ∀ a ∈ as, a.IsPrintable) {cs : List Char}
    (hcs : trimStart cs = trimStart (attributesChars as)) : scanAttributes cs = .ok as := by
  induction as generalizing cs with
  | nil => exact scanAttributes_blank hcs
  | cons a as ih =>
    obtain ⟨hne, hname, hargs⟩ := h a List.mem_cons_self
    rw [List.all_eq_true] at hname
    have htext : attributesChars (a :: as) = [' '] ++ '@' :: (a.name.toList ++
        (parenthesized (a.args.map String.toList) ++ attributesChars as)) := by
      cases hcase : a.args <;> simp [attributesChars, Attribute.chars, argumentChars, parenthesized, hcase]
    have hbalanced : ∀ t ∈ a.args.map String.toList, isBalanced .outside 0 t = true := by
      intro t ht
      obtain ⟨args, hmem, rfl⟩ := Option.map_eq_some_iff.mp ht
      exact (hargs args hmem).2.2.1
    -- printed arguments are trimmed already
    have hread : (a.args.map String.toList).map (fun t => String.ofList (trim t)) = a.args := by
      cases hcase : a.args with
      | none => rfl
      | some args =>
        rw [Option.map_some, Option.map_some, trim_of_isTrimmed (hargs args hcase).1, String.ofList_toList]
    rw [htext] at hcs
    rw [scanAttributes_cons hcs (List.forall_mem_singleton.mpr (by decide)) hne hname hbalanced
      (attributesChars_head (by decide) as) (ih (fun b hb => h b (List.mem_cons_of_mem a hb)) rfl), hread,
      String.ofList_toList]

/-- attributes at the end of a line are found, whether or not there are some -/
theorem takeTail?_attributesChars {as : List Attribute} (h : ∀ a ∈ as, a.IsPrintable) :
    ∃ tail, takeTail? (attributesChars as) = some tail ∧ scanAttributes tail = .ok as := by
  refine ⟨trimStart (attributesChars as), ?_, scanAttributes_printed h ?_⟩
  · cases as with
    | nil => rfl
    | cons a as =>
      have hfirst : NoBlankFirst (a.chars ++ attributesChars as) := .cons (by decide) _
      rw [trimStart_attributesChars]
      exact takeGap?_space hfirst
  · cases as with
    | nil => rfl
    | cons a as =>
      rw [trimStart_attributesChars, trimStart_of_noBlankFirst]
      exact .cons (by decide) _

/-! ## properties and headers -/

theorem dropHead?_at_of_isIdentifier {name : List Char} (h : isIdentifier name = true)
    (rest : List Char) : dropHead? "@@".toList (name ++ rest) = none := by
  cases name with
  | nil => cases h
  | cons c name =>
    refine dropHead?_cons_of_ne ?_ _ _
    rintro rfl
    exact absurd (isNameChar_of_mem h List.mem_cons_self) (by decide)

theorem takeName?_space {name : List Char} (h : isIdentifier name = true) (rest : List Char) :
    takeName? (name ++ ' ' :: rest) = some (name, ' ' :: rest) := by
  refine takeName?_append h ?_
  rintro c ⟨⟩
  decide

theorem takeMark_array (array optional : Bool) (as : List Attribute) :
    takeMark "[]".toList (markChars array optional ++ attributesChars as) =
      (array, (if optional then ['?'] else []) ++ attributesChars as) := by
  have hrest : ∀ c ∈ ((if optional then ['?'] else []) ++ attributesChars as).head?, c ≠ '[' := by
    cases optional with
    | true =>
      rintro c ⟨⟩
      decide
    | false => exact attributesChars_head (by decide) as
  rw [markChars, List.append_assoc]
  exact takeMark_append array hrest

theorem takeMark_optional (optional : Bool) (as : List Attribute) :
    takeMark "?".toList ((if optional then ['?'] else []) ++ attributesChars as) =
      (optional, attributesChars as) :=
  takeMark_append optional (attributesChars_head (by decide) as)

theorem readField?_chars {kind : BlockKind} {d : FieldDecl} (h : (Property.field d).IsPrintable kind) :
    ∃ tail, readField? (Property.field d).chars =
        some ⟨d.name.toList, d.type.toList, d.array, d.optional, tail⟩ ∧
      scanAttributes tail = .ok d.attributes := by
  obtain ⟨-, hname, htype, hattributes, -⟩ := h
  obtain ⟨tail, htail, hscan⟩ := takeTail?_attributesChars hattributes
  refine ⟨tail, ?_, hscan⟩
  have hfirst : NoBlankFirst (d.type.toList ++ (markChars d.array d.optional ++
      attributesChars d.attributes)) := by
    obtain ⟨c, hc, hnameChar⟩ := htype.first
    intro e he
    rw [List.head?_append, hc] at he
    cases he
    exact isBlank_of_isNameChar hnameChar
  have hmarks : ∀ e ∈ (markChars d.array d.optional ++ attributesChars d.attributes).head?,
      isNameChar e = false ∧ e ≠ '(' :=
    markChars_head (by decide) (by decide) (by decide) _ _ _
  -- each reader takes its part and leaves what the next one is for
  unfold readField? Property.chars
  rw [takeName?_space hname]
  dsimp only [bind, Option.bind]
  rw [takeGap?_space hfirst]
  dsimp only
  rw [takeType?_append htype hmarks]
  dsimp only
  rw [takeMark_array]
  dsimp only
  rw [takeMark_optional]
  dsimp only
  rw [htail]
  rfl

theorem readValue?_chars {d : ValueDecl} {kind : BlockKind} (h : (Property.value d).IsPrintable kind) :
    ∃ tail, readValue? (Property.value d).chars = some (d.name.toList, tail) ∧
      scanAttributes tail = .ok d.attributes := by
  obtain ⟨-, hname, hattributes, -⟩ := h
  obtain ⟨tail, htail, hscan⟩ := takeTail?_attributesChars hattributes
  refine ⟨tail, ?_, hscan⟩
  have hspace : ∀ c ∈ (attributesChars d.attributes).head?, isNameChar c = false :=
    attributesChars_head (by decide) _
  unfold readValue? Property.chars
  rw [takeName?_append hname hspace]
  dsimp only [bind, Option.bind]
  rw [htail]
  rfl

theorem readAssignment?_chars {key text : String} {kind : BlockKind}
    (h : (Property.assignment key text).IsPrintable kind) :
    readAssignment? (Property.assignment key text).chars = some (key.toList, text.toList) := by
  obtain ⟨-, hkey, htrim, hne, -⟩ := h
  have hsign : trimStart (' ' :: '=' :: ' ' :: text.toList) = ['='] ++ ' ' :: text.toList := by
    rw [trimStart_space, trimStart_of_noBlankFirst]
    · rfl
    · exact .cons (by decide) _
  unfold readAssignment? Property.chars
  rw [takeName?_space hkey]
  dsimp only [bind, Option.bind]
  rw [hsign, dropHead?_append]
  dsimp only
  rw [trim_space htrim, if_neg (by simpa using hne)]
  rfl

theorem readProperty_chars {kind : BlockKind} {p : Property} (h : p.IsPrintable kind) (line : Nat) :
    readProperty kind p.chars line p.documentation = .ok (p.placed line) := by
  unfold readProperty
  cases p with
  | field d =>
    obtain ⟨tail, hread, hscan⟩ := readField?_chars h
    obtain ⟨hkind, hname, -⟩ := h
    have hat : dropHead? "@@".toList (Property.field d).chars = none := dropHead?_at_of_isIdentifier hname _
    have hkind : kind = .model ∨ kind = .view ∨ kind = .composite := by simpa using hkind
    rw [hat]
    rcases hkind with rfl | rfl | rfl <;>
    · dsimp only
      rw [hread]
      dsimp only
      rw [hscan, String.ofList_toList, String.ofList_toList]
      rfl
  | value d =>
    obtain ⟨tail, hread, hscan⟩ := readValue?_chars h
    obtain ⟨rfl, hname, -⟩ := h
    have hat : dropHead? "@@".toList (Property.value d).chars = none := dropHead?_at_of_isIdentifier hname _
    rw [hat]
    dsimp only
    rw [hread]
    dsimp only
    rw [hscan, String.ofList_toList]
    rfl
  | blockAttribute a =>
    have hat : dropHead? "@@".toList (Property.blockAttribute a).chars =
        some (a.name.toList ++ argumentChars a.args) := rfl
    have hscan : scanAttributes a.chars = .ok [a] := by
      have hall : ∀ b ∈ [a], b.IsPrintable := by
        rintro b hb
        rw [List.mem_singleton.mp hb]
        exact h
      refine scanAttributes_printed hall ?_
      rw [trimStart_attributesChars]
      have hfirst : NoBlankFirst a.chars := .cons (by decide) _
      rw [trimStart_of_noBlankFirst hfirst]
      exact (List.append_nil _).symm
    rw [hat]
    dsimp only
    rw [show '@' :: (a.name.toList ++ argumentChars a.args) = a.chars from rfl, hscan]
    rfl
  | assignment key text =>
    have hread := readAssignment?_chars h
    obtain ⟨hkind, hkey, -⟩ := h
    have hat : dropHead? "@@".toList (Property.assignment key text).chars = none :=
      dropHead?_at_of_isIdentifier hkey _
    have hkind : kind = .datasource ∨ kind = .generator := by simpa using hkind
    rw [hat]
    rcases hkind with rfl | rfl <;>
    · dsimp only
      rw [hread]
      dsimp only
      rw [String.ofList_toList, String.ofList_toList]
      rfl

theorem headerEnd?_brace : headerEnd? [' ', '\x7b'] = some false := by decide

theorem BlockKind.ofKeyword?_keyword (kind : BlockKind) :
    BlockKind.ofKeyword? kind.keyword = some kind := by
  cases kind <;> decide

theorem readHeader?_header {b : Block} (h : b.IsPrintable) :
    readHeader? b.header = some ⟨b.kind, b.name, false⟩ := by
  have hkeyword : ∀ c ∈ b.kind.keyword.toList, isNameChar c = true := fun c hc =>
    isNameChar_of_mem b.kind.isIdentifier_keyword hc
  -- with or without a name, a space follows the keyword
  have hspace : ∀ rest, ∀ c ∈ (' ' :: rest : List Char).head?, isNameChar c = false := by
    rintro rest c ⟨⟩
    decide
  unfold readHeader? Block.header
  cases hname : b.name with
  | none =>
    obtain ⟨htake, hdrop⟩ := takeWhile_append_of_head hkeyword (hspace ['\x7b'])
    rw [Option.map_none, Option.getD_none, List.nil_append, htake, hdrop, String.ofList_toList,
      BlockKind.ofKeyword?_keyword]
    rfl
  | some n =>
    have hn := h.1 n hname
    have htrim : trimStart (' ' :: (n.toList ++ [' ', '\x7b'])) = n.toList ++ [' ', '\x7b'] := by
      rw [trimStart_space, trimStart_of_noBlankFirst]
      intro c hc
      rw [List.head?_append_of_ne_nil _ (ne_nil_of_isIdentifier hn)] at hc
      exact (isTrimmed_of_isIdentifier hn).1 c hc
    obtain ⟨htake, hdrop⟩ := takeWhile_append_of_head hkeyword (hspace (n.toList ++ [' ', '\x7b']))
    rw [Option.map_some, Option.getD_some, List.cons_append, htake, hdrop, String.ofList_toList,
      BlockKind.ofKeyword?_keyword]
    dsimp only [bind, Option.bind]
    rw [htrim, takeName?_space hn]
    dsimp only
    rw [headerEnd?_brace, String.ofList_toList]
    rfl

/-! ## runs of the reader -/

theorem joinDocs_docTexts (documentation : Option String) :
    joinDocs (docTexts documentation) = documentation := by
  cases documentation with
  | none => rfl
  | some text =>
    have hjoin : join ['\n'] (splitOn '\n' text.toList) = text.toList := by
      rw [join_eq, splitOn_eq]
      exact List.intercalate_splitOn '\n'
    have hne : ¬(splitOn '\n' text.toList).isEmpty = true := by
      simpa using splitOn_ne_nil '\n' text.toList
    rw [docTexts, joinDocs, if_neg hne, hjoin, String.ofList_toList]

namespace ReaderState

theorem run_append {s s' : ReaderState} {line : Nat} {xs : List (List Char)}
    (h : s.run line xs = .ok s') (ys : List (List Char)) :
    s.run line (xs ++ ys) = s'.run (line + xs.length) ys := by
  induction xs generalizing s line with
  | nil =>
    cases h
    rfl
  | cons x xs ih =>
    rw [List.cons_append, run]
    rw [run] at h
    cases hstep : s.step line x with
    | error e =>
      rw [hstep] at h
      cases h
    | ok t =>
      rw [hstep] at h
      dsimp only
      rw [ih h, List.length_cons, Nat.add_assoc, Nat.add_comm 1]

theorem run_singleton {s s' : ReaderState} {line : Nat} {x : List Char} (h : s.step line x = .ok s') :
    s.run line [x] = .ok s' := by
  rw [run, h]
  rfl

theorem run_docTexts (s : ReaderState) (line indent : Nat) {texts : List (List Char)}
    (h : ∀ t ∈ texts, IsTrimmed t) :
    s.run line (texts.map fun t => indented indent (['/', '/', '/', ' '] ++ t)) =
      .ok { s with docs := s.docs ++ texts } := by
  induction texts generalizing s line with
  | nil => simp [run]
  | cons t texts ih =>
    have hshape := lineShape_doc (h t List.mem_cons_self)
    rw [List.map_cons, run, step, lineShape_indented, hshape]
    dsimp only
    rw [ih _ _ fun u hu => h u (List.mem_cons_of_mem t hu), List.append_assoc]
    rfl

theorem run_docLines (s : ReaderState) (line indent : Nat) {documentation : Option String}
    (h : IsDocumentation documentation) :
    s.run line (docLines indent documentation) =
      .ok { s with docs := s.docs ++ docTexts documentation } :=
  s.run_docTexts line indent h

theorem run_property (done : List Block) {b : Block} {p : Property} (h : p.IsPrintable b.kind)
    (line indent : Nat) :
    run ⟨done, some b, []⟩ line (p.printed indent) =
      .ok ⟨done, some { b with properties := b.properties ++
        [p.placed (line + (docTexts p.documentation).length)] }, []⟩ := by
  rw [Property.printed, run_append (run_docLines _ line indent h.documentation), length_docLines]
  refine run_singleton ?_
  rw [step, lineShape_indented, lineShape_content (Property.isContentLine h)]
  dsimp only
  rw [List.nil_append, joinDocs_docTexts, readProperty_chars h]

theorem run_properties (done : List Block) {b : Block} {ps : List Property}
    (h : ∀ p ∈ ps, p.IsPrintable b.kind) (line indent : Nat) :
    run ⟨done, some b, []⟩ line (ps.flatMap (Property.printed indent)) =
      .ok ⟨done, some { b with properties := b.properties ++ placeProperties indent line ps }, []⟩ := by
  induction ps generalizing b line with
  | nil => simp [run, placeProperties]
  | cons p ps ih =>
    have hrest := ih (b := { b with properties := b.properties ++
      [p.placed (line + (docTexts p.documentation).length)] })
      (fun q hq => h q (List.mem_cons_of_mem p hq)) (line + (p.printed indent).length)
    rw [List.flatMap_cons, run_append (run_property done (h p List.mem_cons_self) line indent), hrest]
    simp [placeProperties]

theorem run_block (done : List Block) {b : Block} (h : b.IsPrintable) (line indent : Nat) :
    run ⟨done, none, []⟩ line (b.printed indent) = .ok ⟨done ++ [b.placed indent line], none, []⟩ := by
  -- the documentation waits for the header, which opens the block; the brace closes it
  rw [Block.printed, run_append (run_docLines _ line 0 h.2.1), length_docLines, run, step,
    lineShape_content (Block.isContentLine h)]
  dsimp only
  rw [readHeader?_header h]
  dsimp only
  rw [if_neg Bool.false_ne_true, List.nil_append, joinDocs_docTexts]
  dsimp only
  have hbody := run_properties done (b := ⟨b.kind, b.name, line + (docTexts b.documentation).length,
    b.documentation, []⟩) h.2.2 (line + (docTexts b.documentation).length + 1) indent
  rw [run_append hbody]
  exact run_singleton rfl

theorem run_blocks (done : List Block) {bs : List Block} (h : ∀ b ∈ bs, b.IsPrintable)
    (line indent : Nat) :
    run ⟨done, none, []⟩ line (bs.flatMap (Block.printed indent)) =
      .ok ⟨done ++ placeBlocks indent line bs, none, []⟩ := by
  induction bs generalizing done line with
  | nil => simp [run, placeBlocks]
  | cons b bs ih =>
    rw [List.flatMap_cons, run_append (run_block done (h b List.mem_cons_self) line indent),
      ih _ fun c hc => h c (List.mem_cons_of_mem b hc)]
    simp [placeBlocks]

end ReaderState

/-! ## lines of the text -/

/-- what is written as one line and read as one -/
def IsOneLine (l : List Char) : Prop := '\n' ∉ l ∧ l.getLast? ≠ some '\r'

theorem IsOneLine.append {xs ys : List Char} (hx : IsOneLine xs) (hy : IsOneLine ys) :
    IsOneLine (xs ++ ys) := by
  refine ⟨fun hmem => (List.mem_append.mp hmem).elim hx.1 hy.1, fun hlast => ?_⟩
  rw [List.getLast?_append, Option.or_eq_some_iff] at hlast
  exact hlast.elim hy.2 fun h => hx.2 h.2

theorem isOneLine_of_noBlankLast {l : List Char} (hline : '\n' ∉ l) (h : NoBlankLast l) :
    IsOneLine l :=
  ⟨hline, fun hlast => absurd (h _ hlast) (by decide)⟩

theorem isOneLine_indented (indent : Nat) {l : List Char} (h : IsOneLine l) :
    IsOneLine (indented indent l) := by
  refine .append ⟨fun hmem => ?_, fun hlast => ?_⟩ h
  · cases List.eq_of_mem_replicate hmem
  · cases List.eq_of_mem_replicate (List.mem_of_getLast? hlast)

theorem isOneLine_docLines (indent : Nat) {documentation : Option String}
    (h : IsDocumentation documentation) {l : List Char} (hl : l ∈ docLines indent documentation) :
    IsOneLine l := by
  obtain ⟨t, ht, rfl⟩ := List.mem_map.mp hl
  have hline : '\n' ∉ t := by
    cases documentation with
    | none => cases ht
    | some text => exact notMem_of_mem_splitOn ht
  have hmark : IsOneLine ['/', '/', '/', ' '] := by
    unfold IsOneLine
    decide
  exact isOneLine_indented indent (hmark.append (isOneLine_of_noBlankLast hline (h t ht).2))

theorem Property.isOneLine {kind : BlockKind} {p : Property} (h : p.IsPrintable kind) (indent : Nat)
    {l : List Char} (hl : l ∈ p.printed indent) : IsOneLine l := by
  rcases List.mem_append.mp hl with hl | hl
  · exact isOneLine_docLines indent h.documentation hl
  · have hline := Property.isContentLine h
    rw [List.mem_singleton.mp hl]
    exact isOneLine_indented indent (isOneLine_of_noBlankLast hline.oneLine hline.last)

theorem Block.isOneLine {b : Block} (h : b.IsPrintable) (indent : Nat) {l : List Char}
    (hl : l ∈ b.printed indent) : IsOneLine l := by
  rcases List.mem_append.mp hl with hl | hl
  · exact isOneLine_docLines 0 h.2.1 hl
  rcases List.mem_cons.mp hl with rfl | hl
  · have hline := Block.isContentLine h
    exact isOneLine_of_noBlankLast hline.oneLine hline.last
  rcases List.mem_append.mp hl with hl | hl
  · obtain ⟨p, hp, hl⟩ := List.mem_flatMap.mp hl
    exact Property.isOneLine (h.2.2 p hp) indent hl
  · rw [List.mem_singleton.mp hl]
    unfold IsOneLine
    decide

theorem lines_printed {bs : List Block} (h : ∀ b ∈ bs, b.IsPrintable) (indent : Nat) :
    lines (printed indent bs).toList = bs.flatMap (Block.printed indent) := by
  rw [printed, String.toList_ofList]
  refine lines_flatMap fun l hl => ?_
  obtain ⟨b, hb, hl⟩ := List.mem_flatMap.mp hl
  exact Block.isOneLine (h b hb) indent hl

/-- the text of line `n`, where the first of the lines has the number `start` -/
def IsLineAt (start : Nat) (ls : List (List Char)) (n : Nat) (text : List Char) : Prop :=
  ∃ i, n = start + i ∧ ls[i]? = some text

section
variable {start n : Nat} {xs ys : List (List Char)} {text : List Char}

theorem isLineAt_head (start : Nat) (text : List Char) (ys : List (List Char)) :
    IsLineAt start (text :: ys) start text :=
  ⟨0, rfl, rfl⟩

theorem IsLineAt.append (h : IsLineAt start xs n text) (ys : List (List Char)) :
    IsLineAt start (xs ++ ys) n text := by
  obtain ⟨i, hn, hi⟩ := h
  obtain ⟨hlt, -⟩ := List.getElem?_eq_some_iff.mp hi
  exact ⟨i, hn, by rw [List.getElem?_append_left hlt, hi]⟩

theorem IsLineAt.after (h : IsLineAt (start + xs.length) ys n text) :
    IsLineAt start (xs ++ ys) n text := by
  obtain ⟨i, hn, hi⟩ := h
  refine ⟨xs.length + i, by omega, ?_⟩
  rw [List.getElem?_append_right (Nat.le_add_right _ _), Nat.add_sub_cancel_left, hi]

end

/-- the line a property was read from, if it keeps it -/
def Property.line? : Property → Option Nat
  | .field d => some d.line
  | .value d => some d.line
  | .blockAttribute _ | .assignment _ _ => none

theorem isLineAt_placeProperties {indent start : Nat} {ps : List Property} {p : Property}
    (hp : p ∈ placeProperties indent start ps) {n : Nat} (hn : n ∈ p.line?) :
    IsLineAt start (ps.flatMap (Property.printed indent)) n (indented indent p.chars) := by
  induction ps generalizing start with
  | nil => cases hp
  | cons q ps ih =>
    rw [List.flatMap_cons]
    rcases List.mem_cons.mp hp with rfl | hp
    · refine IsLineAt.append (.after ?_) _
      rw [length_docLines]
      cases q <;> cases hn <;> exact isLineAt_head _ _ _
    · exact .after (ih hp)

theorem Block.isLineAt_placed (b : Block) (indent start : Nat) :
    IsLineAt start (b.printed indent) (b.placed indent start).line (b.placed indent start).header ∧
    ∀ p ∈ (b.placed indent start).properties, ∀ n ∈ p.line?,
      IsLineAt start (b.printed indent) n (indented indent p.chars) := by
  constructor
  · refine .after ?_
    rw [length_docLines]
    exact isLineAt_head _ _ _
  · intro p hp n hn
    have hline := (isLineAt_placeProperties hp hn).append [['\x7d']]
    have hbody : IsLineAt (start + (docTexts b.documentation).length)
        ([b.header] ++ (b.properties.flatMap (Property.printed indent) ++ [['\x7d']])) n
        (indented indent p.chars) := .after hline
    refine .after ?_
    rw [length_docLines]
    exact hbody

theorem isLineAt_placeBlocks {indent start : Nat} {bs : List Block} {b : Block}
    (hb : b ∈ placeBlocks indent start bs) :
    IsLineAt start (bs.flatMap (Block.printed indent)) b.line b.header ∧
    ∀ p ∈ b.properties, ∀ n ∈ p.line?,
      IsLineAt start (bs.flatMap (Block.printed indent)) n (indented indent p.chars) := by
  induction bs generalizing start with
  | nil => cases hb
  | cons c bs ih =>
    rw [List.flatMap_cons]
    rcases List.mem_cons.mp hb with rfl | hb
    · obtain ⟨hheader, hproperties⟩ := c.isLineAt_placed indent start
      exact ⟨hheader.append _, fun p hp n hn => (hproperties p hp n hn).append _⟩
    · obtain ⟨hheader, hproperties⟩ := ih hb
      exact ⟨hheader.after, fun p hp n hn => (hproperties p hp n hn).after⟩

/-! ## the round trip -/

/-- Printed blocks are read again as they were, each header, field and value with the number of the
line on which it stands in the text. -/
theorem parse_printed (indent : Nat) (bs : List Block) (h : ∀ b ∈ bs, b.IsPrintable) :
    parse (printed indent bs) = .ok (placeBlocks indent 1 bs) ∧
    ∀ b ∈ placeBlocks indent 1 bs,
      IsLineAt 1 (lines (printed indent bs).toList) b.line b.header ∧
      ∀ p ∈ b.properties, ∀ n ∈ p.line?,
        IsLineAt 1 (lines (printed indent bs).toList) n (indented indent p.chars) := by
  rw [parse, lines_printed h]
  refine ⟨?_, fun b hb => isLineAt_placeBlocks hb⟩
  rw [ReaderState.start, ReaderState.run_blocks [] h]
  rfl

/-- strings with slashes, quotes and parentheses, documentation with an empty line, and a header without
a name -/
def shopBlocks : List Block :=
  [⟨.datasource, some "db", 0, none,
      [.assignment "url" "env(\"URL\") = \"file://shop\"", .blockAttribute ⟨"hint", some "a(b)"⟩]⟩,
    ⟨.model, some "Shop", 0, some "A shop\n\n/ with docs",
      [.field ⟨"id", "Int", false, false, [⟨"id", none⟩, ⟨"map", some "\")//\\\" (\""⟩], some "the key", 0⟩,
        .field ⟨"place", "Unsupported(\"point//[]?\")", true, true, [⟨"db.Point", some ""⟩], none, 0⟩,
        .blockAttribute ⟨"unique", some "[id, place]"⟩]⟩,
    ⟨.enumeration, none, 0, none, [.value ⟨"OPEN", [], some "", 0⟩]⟩]

theorem parse_printed_shop :
    (∀ b ∈ shopBlocks, b.IsPrintable) ∧
    printed 1 shopBlocks =
      "datasource db \x7b\n url = env(\"URL\") = \"file://shop\"\n @@hint(a(b))\n\x7d\n" ++
      "/// A shop\n/// \n/// / with docs\nmodel Shop \x7b\n" ++
      " /// the key\n id Int @id @map(\")//\\\" (\")\n" ++
      " place Unsupported(\"point//[]?\")[]? @db.Point()\n @@unique([id, place])\n\x7d\n" ++
      "enum \x7b\n /// \n OPEN\n\x7d\n" ∧
    parse (printed 1 shopBlocks) = .ok (placeBlocks 1 1 shopBlocks) ∧
    ∀ b ∈ placeBlocks 1 1 shopBlocks,
      IsLineAt 1 (lines (printed 1 shopBlocks).toList) b.line b.header ∧
      ∀ p ∈ b.properties, ∀ n ∈ p.line?,
        IsLineAt 1 (lines (printed 1 shopBlocks).toList) n (indented 1 p.chars) := by
  have h : ∀ b ∈ shopBlocks, b.IsPrintable := by decide +kernel
  refine ⟨h, ?_, parse_printed 1 shopBlocks h⟩
  decide +kernel

end ResolverTypes.DataModel
