import ResolverTypes.Declaration.Basic
import Mathlib.Data.List.Basic

/-!
# Texts piece by piece

What a text refers to cannot be seen in its characters.  So the texts of types and of declarations are
laid out here in parts of which one can say what they are.

* `Piece`              written characters, or the name of a type of an artifact.  A name stands as it is
                       in its own artifact and behind `DB.` or `RT.` everywhere else;
* `Segment`            written characters, or a type, which has pieces of its own;
* `chars_eq_pieces`    the text of a type is that of its pieces, wherever it is printed;
* `artifactChars`      an artifact in pieces, which is what is printed (`toList_artifactText`);
* `Exports`            a line of a text starts the declaration of a name.  Every declaration of an
                       artifact has such a line (`startsLine_artifactText`), also behind a comment.
-/

namespace ResolverTypes
open Text

/-! ## pieces -/

/-- the namespace of an artifact where it is imported -/
def Artifact.space : Artifact → List Char
  | .schemaTypes => ['D', 'B']
  | .returnTypes => ['R', 'T']

/-- a part of a text: characters, or the name of a type that an artifact declares -/
inductive Piece where
  | text (written : List Char)
  | name (artifact : Artifact) (name : String)

/-- a name is plain in its own artifact and stands behind a namespace in every other text -/
def Piece.chars (home : Option Artifact) : Piece → List Char
  | .text written => written
  | .name artifact n => if home = some artifact then n.toList else artifact.space ++ '.' :: n.toList

namespace TypeExpr

mutual

def pieces : TypeExpr → List Piece
  | .named artifact name => [.name artifact name]
  | .array item => .text "Array<".toList :: (item.pieces ++ [.text ['>']])
  | .nullable inner => inner.pieces ++ [.text " | null".toList]
  | .object .nil => [.text ['\x7b', '\x7d']]
  | .object (.cons name optional type rest) =>
    .text (['\x7b', ' '] ++ keyChars name.toList ++ (if optional then ['?'] else []) ++ [':', ' ']) ::
      (type.pieces ++ (membersPieces rest ++ [.text [' ', '\x7d']]))
  | .string => [.text "string".toList]
  | .number => [.text "number".toList]
  | .bigInt => [.text "bigint".toList]
  | .boolean => [.text "boolean".toList]
  | .date => [.text "Date".toList]
  | .bytes => [.text "Uint8Array".toList]
  | .unknown => [.text "unknown".toList]
  | .literals values => [.text ((TypeExpr.literals values).chars none)]
  | .verbatim text => [.text text.toList]

def membersPieces : Members → List Piece
  | .nil => []
  | .cons name optional type rest =>
    .text ([';', ' '] ++ keyChars name.toList ++ (if optional then ['?'] else []) ++ [':', ' ']) ::
      (type.pieces ++ membersPieces rest)

end

theorem toList_importName (a : Artifact) : a.importName.toList = a.space := by
  cases a <;> decide

theorem chars_text (home : Option Artifact) (written : List Char) :
    [Piece.text written].flatMap (Piece.chars home) = written :=
  List.append_nil written

mutual

/-- the text of a type is that of its pieces -/
theorem chars_eq_pieces (home : Option Artifact) :
    (t : TypeExpr) → t.chars home = t.pieces.flatMap (Piece.chars home)
  | .named artifact name => by
    show (if home = some artifact then name.toList else artifact.importName.toList ++ '.' :: name.toList) =
      Piece.chars home (.name artifact name) ++ []
    rw [List.append_nil, toList_importName]
    rfl
  | .array item => by
    show "Array<".toList ++ item.chars home ++ ['>'] =
      "Array<".toList ++ (item.pieces ++ [Piece.text ['>']]).flatMap (Piece.chars home)
    rw [List.flatMap_append, ← chars_eq_pieces home item, chars_text, List.append_assoc]
  | .nullable inner => by
    show inner.chars home ++ " | null".toList =
      (inner.pieces ++ [Piece.text " | null".toList]).flatMap (Piece.chars home)
    rw [List.flatMap_append, ← chars_eq_pieces home inner, chars_text]
  | .object .nil => rfl
  | .object (.cons name optional type rest) => by
    show ['\x7b', ' '] ++ keyChars name.toList ++ (if optional then ['?'] else []) ++ [':', ' '] ++
        type.chars home ++ membersChars home rest ++ [' ', '\x7d'] =
      (['\x7b', ' '] ++ keyChars name.toList ++ (if optional then ['?'] else []) ++ [':', ' ']) ++
        (type.pieces ++ (membersPieces rest ++ [Piece.text [' ', '\x7d']])).flatMap (Piece.chars home)
    rw [List.flatMap_append, List.flatMap_append, ← chars_eq_pieces home type,
      ← membersChars_eq_pieces home rest, chars_text]
    simp only [List.append_assoc]
  | .literals values => (chars_text home _).symm
  | .string | .number | .bigInt | .boolean | .date | .bytes | .unknown | .verbatim _ =>
    (chars_text home _).symm

theorem membersChars_eq_pieces (home : Option Artifact) :
    (ms : Members) → membersChars home ms = (membersPieces ms).flatMap (Piece.chars home)
  | .nil => rfl
  | .cons name optional type rest => by
    show [';', ' '] ++ keyChars name.toList ++ (if optional then ['?'] else []) ++ [':', ' '] ++
        type.chars home ++ membersChars home rest =
      ([';', ' '] ++ keyChars name.toList ++ (if optional then ['?'] else []) ++ [':', ' ']) ++
        (type.pieces ++ membersPieces rest).flatMap (Piece.chars home)
    rw [List.flatMap_append, ← chars_eq_pieces home type, ← membersChars_eq_pieces home rest]
    simp only [List.append_assoc]

end

end TypeExpr

/-! ## segments -/

/-- a part of a text: characters, or a type -/
inductive Segment where
  | text (written : List Char)
  | type (printed : TypeExpr)

namespace Segment

def chars (home : Option Artifact) : Segment → List Char
  | .text written => written
  | .type printed => printed.chars home

def pieces : Segment → List Piece
  | .text written => [.text written]
  | .type printed => printed.pieces

theorem chars_eq (home : Option Artifact) (s : Segment) :
    s.chars home = s.pieces.flatMap (Piece.chars home) := by
  cases s with
  | text written => exact (TypeExpr.chars_text home written).symm
  | type printed => exact printed.chars_eq_pieces home

theorem flatMap_chars (home : Option Artifact) (ss : List Segment) :
    ss.flatMap (chars home) = (ss.flatMap pieces).flatMap (Piece.chars home) := by
  rw [List.flatMap_assoc, funext (chars_eq home)]

end Segment

/-! ## declarations -/

namespace Declaration

def Body.segments : Body → List Segment
  | .type t => [.type t]
  | .union members =>
    [.text (if members.isEmpty then "never".toList else join " | ".toList (members.map String.toList))]

def Property.segments (p : Property) : List Segment :=
  [.text (comment p.documentation "  ".toList ++ "  ".toList ++ TypeExpr.keyChars p.name.toList ++
      (if p.optional then ['?'] else []) ++ ": ".toList), .type p.type, .text ";\n".toList]

/-- how the interface of a name starts -/
def interfaceHead (name : String) : List Char :=
  "export interface ".toList ++ name.toList ++ " \x7b\n".toList

/-- how the alias of a name starts -/
def aliasHead (name : String) : List Char := "export type ".toList ++ name.toList ++ " = ".toList

/-- a declaration, part by part -/
def segments : Declaration → List Segment
  | .alias doc name body => .text (comment doc [] ++ aliasHead name) :: (body.segments ++ [.text ";\n".toList])
  | .interface doc name properties =>
    .text (comment doc [] ++ interfaceHead name) ::
      (properties.flatMap Property.segments ++ [.text "\x7d\n".toList])

def pieces (d : Declaration) : List Piece := d.segments.flatMap Segment.pieces

theorem Body.chars_eq_segments (home : Artifact) (b : Body) :
    b.chars home = b.segments.flatMap (Segment.chars (some home)) := by
  cases b with
  | type t => exact (List.append_nil _).symm
  | union members => exact (List.append_nil _).symm

theorem Property.chars_eq_segments (home : Artifact) (p : Property) :
    p.chars home = p.segments.flatMap (Segment.chars (some home)) := by
  delta Property.chars Property.segments
  simp only [List.flatMap_cons, List.flatMap_nil, Segment.chars, List.append_assoc, List.append_nil]

theorem chars_eq_segments (home : Artifact) (d : Declaration) :
    d.chars home = d.segments.flatMap (Segment.chars (some home)) := by
  rcases d with ⟨doc, name, body⟩ | ⟨doc, name, properties⟩
  · delta chars segments aliasHead
    simp only [List.flatMap_cons, List.flatMap_append, List.flatMap_nil, Segment.chars,
      List.append_assoc, List.append_nil, Body.chars_eq_segments]
  · delta chars segments interfaceHead
    rw [funext (Property.chars_eq_segments home)]
    simp only [List.flatMap_cons, List.flatMap_append, List.flatMap_nil, Segment.chars,
      List.append_assoc, List.append_nil, List.flatMap_assoc]

/-- the text of an artifact, with its declarations in pieces -/
def artifactChars (home : Artifact) (source : String) (ds : List Declaration) : List Char :=
  (generatedHeader ++ "\n// Source: " ++ source ++ "\n").toList ++
    ds.flatMap fun d => '\n' :: d.pieces.flatMap (Piece.chars (some home))

theorem toList_artifactText (home : Artifact) (source : String) (ds : List Declaration) :
    (artifactText home source ds).toList = artifactChars home source ds := by
  unfold artifactText artifactChars pieces
  rw [String.toList_append, String.toList_ofList]
  simp only [chars_eq_segments, Segment.flatMap_chars]

end Declaration

/-! ## lines -/

/-- a line of a text, after the first one, starts in a given way -/
def StartsLine (start text : List Char) : Prop :=
  ∃ before after, text = before ++ '\n' :: (start ++ after)

namespace Declaration

/-- how a declaration starts, behind its comment -/
def head : Declaration → List Char
  | .alias _ name _ => aliasHead name
  | .interface _ name _ => interfaceHead name

/-- a line starts the interface or the alias of a name -/
def Exports (text : List Char) (name : String) : Prop :=
  StartsLine (interfaceHead name) text ∨ StartsLine (aliasHead name) text

theorem exports_of_head {d : Declaration} {text : List Char} (h : StartsLine d.head text) :
    Exports text d.name := by
  rcases d with ⟨doc, name, body⟩ | ⟨doc, name, properties⟩
  · exact .inr h
  · exact .inl h

/-- a comment is nothing, or lines to their ends -/
theorem cons_comment (doc : Option String) : ∃ before, '\n' :: comment doc [] = before ++ ['\n'] := by
  have hlast : ∀ xs : List Char, '\n' :: (xs ++ " */\n".toList) = ('\n' :: (xs ++ " */".toList)) ++ ['\n'] := by
    intro xs
    have hclose : " */\n".toList = " */".toList ++ ['\n'] := by decide
    rw [hclose, ← List.append_assoc]
    rfl
  unfold comment
  split
  · exact ⟨[], rfl⟩
  · dsimp only
    split
    · exact ⟨[], rfl⟩
    · split
      · exact ⟨_, hlast _⟩
      · exact ⟨_, hlast _⟩

theorem chars_eq_comment_head (home : Artifact) (d : Declaration) :
    ∃ doc after, d.chars home = comment doc [] ++ (d.head ++ after) := by
  rcases d with ⟨doc, name, body⟩ | ⟨doc, name, properties⟩
  · refine ⟨doc, body.chars home ++ ";\n".toList, ?_⟩
    delta chars head aliasHead
    simp only [List.append_assoc]
  · refine ⟨doc, properties.flatMap (Property.chars home) ++ "\x7d\n".toList, ?_⟩
    delta chars head interfaceHead
    simp only [List.append_assoc]

/-- the text of a declaration stands in the text of its artifact -/
theorem chars_infix_artifactText {d : Declaration} {ds : List Declaration} (h : d ∈ ds)
    (home : Artifact) (source : String) : d.chars home <:+: (artifactText home source ds).toList := by
  have hline : '\n' :: d.chars home <:+: ds.flatMap fun d => '\n' :: d.chars home :=
    List.infix_of_mem_flatten (List.mem_map_of_mem h)
  have hd : d.chars home <:+: '\n' :: d.chars home := (List.suffix_cons _ _).isInfix
  unfold artifactText
  rw [String.toList_append, String.toList_ofList]
  exact (hd.trans hline).trans (List.suffix_append _ _).isInfix

/-- a line of the artifact starts with the head of the declaration -/
theorem startsLine_artifactText {d : Declaration} {ds : List Declaration} (h : d ∈ ds) (home : Artifact)
    (source : String) : StartsLine d.head (artifactText home source ds).toList := by
  obtain ⟨pre, post, rfl⟩ := List.append_of_mem h
  obtain ⟨doc, after, hchars⟩ := chars_eq_comment_head home d
  obtain ⟨before, hcomment⟩ := cons_comment doc
  have hd : '\n' :: d.chars home = before ++ '\n' :: (d.head ++ after) := by
    rw [hchars, ← List.cons_append, hcomment, List.append_assoc]
    rfl
  unfold artifactText
  rw [String.toList_append, String.toList_ofList, List.flatMap_append, List.flatMap_cons, hd]
  refine ⟨(generatedHeader ++ "\n// Source: " ++ source ++ "\n").toList ++
    (pre.flatMap (fun d => '\n' :: d.chars home) ++ before),
    after ++ post.flatMap (fun d => '\n' :: d.chars home), ?_⟩
  simp only [List.append_assoc, List.cons_append]

end Declaration

end ResolverTypes
