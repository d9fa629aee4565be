import ResolverTypes.Script.Grammar.Item
import ResolverTypes.Script.Grammar.Markup

/-!
# The whole grammar

`layer` says how each phrase is parsed if the phrases inside it are parsed by a given grammar.
Stacking enough layers gives the grammar of scripts: a phrase inside a phrase takes a token of its
own after a bounded number of layers, so a multiple of the text's length is enough.
-/

namespace ResolverTypes.Script

namespace Grammar

/-- one layer of the grammar over another grammar for the phrases inside -/
def layer (g : Grammar) : Grammar
  | _, .assignment => assignment g
  | _, .expression => expression g
  | _, .unary => unary g
  | _, .access => access g
  | _, .binary left level => binary g left level
  | _, .object => objectLiteral g
  | _, .markup => markup g
  | _, .type => type g
  | _, .plainType => plainType g
  | _, .binding strict => binding g strict
  | _, .block => block g
  | _, .statement declares => statement g declares
  | _, .classTail named => classTail g named
  | _, .decorators => decorators g
  | _, .item => item g

/-- the grammar for phrases of bounded depth -/
def ofDepth : Nat → Grammar
  | 0 => fun _ _ => Parser.fail
  | n + 1 => layer (ofDepth n)

end Grammar

/-- skips the first line, if it tells how to run the script -/
def skipInterpreterLine : List Char → Nat × List Char
  | '#' :: '!' :: cs =>
    let line := cs.takeWhile fun c => !isLineEnd c
    (line.length + 2, cs.drop line.length)
  | cs => (0, cs)

def items (markup : Bool) (cs : List Char) : Except Fault (List Item) :=
  let (pos, rest) := skipInterpreterLine cs
  let size := cs.length
  let g := Grammar.ofDepth (8 * (size + 8))
  let start : State := ⟨Token.next pos rest true, pos, rest, none⟩
  match (Parser.plainList Parser.isEnd (g _ .item)).run { size, markup } start with
  | .ok items _ => .ok items
  | .error fault _ => .error fault

end ResolverTypes.Script
