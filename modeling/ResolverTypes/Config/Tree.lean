import ResolverTypes.Table

/-!
# The tree of a configuration text

A configuration is written in TOML: a tree of tables, built up by headers such as `[a.b]` and by
keys such as `a.b = 1`.  How a table came to be decides who may still add to it.

Main definitions: `Entries.assign?` for a key with its value, `Entries.open?` for a header.
-/

namespace ResolverTypes.Config

/-- how a table came to be -/
inductive Origin where
  /-- by a header of its own, or as the whole text -/
  | header
  /-- on the way to the table of a header -/
  | implied
  /-- on the way of a key with points in it -/
  | dotted
  /-- written out in braces -/
  | inline
deriving DecidableEq, Repr

/-- a value of a configuration text; numbers and truth values are never looked at -/
inductive Tree where
  | string (text : String)
  | number
  | boolean
  | date (text : String)
  | array (items : List Tree)
  | table (origin : Origin) (entries : List (String × Tree))
  /-- the tables of headers such as `[[a]]`, each with its entries -/
  | tables (items : List (List (String × Tree)))

/-- what a table holds, in order -/
abbrev Entries := List (String × Tree)

namespace Entries

def get? (es : Entries) (key : String) : Option Tree := Table.lookupEntry key es

/-- puts a value in the place of the one with its key, or at the end -/
def put (es : Entries) (key : String) (value : Tree) : Entries := Table.insertEntry key value es

/-- whether a table may be passed on the way to another one.  A key with points in it only passes
tables that were made on the way of something. -/
def canPass (dotted : Bool) : Origin → Bool
  | .header => !dotted
  | .implied | .dotted => true
  | .inline => false

/-- changes the table at some keys; a table that is missing on the way is made -/
def change? (dotted : Bool) (f : Origin → Entries → Option (Origin × Entries)) :
    List String → Origin → Entries → Option (Origin × Entries)
  | [], origin, es => f origin es
  | k :: ks, origin, es =>
    match es.get? k with
    | none => do
      let (o, inner) ← change? dotted f ks (if dotted then .dotted else .implied) []
      return (origin, es.put k (.table o inner))
    | some (.table o inner) =>
      if canPass dotted o then do
        let (o, inner) ← change? dotted f ks o inner
        return (origin, es.put k (.table o inner))
      else none
    | some (.tables items) =>
      match items.getLast? with
      | none => none
      | some last => do
        let (_, inner) ← change? dotted f ks .header last
        return (origin, es.put k (.tables (items.dropLast ++ [inner])))
    | some _ => none

/-- adds a value at the end of a key with points in it.  Below the first point only tables made by
such keys are added to, and without a point none of them is. -/
def assignIn? (path : List String) (key : String) (value : Tree) (origin : Origin) (es : Entries) :
    Option (Origin × Entries) :=
  change? true (fun o inner =>
    if (o == .dotted) == path.isEmpty || (inner.get? key).isSome then none
    else some (o, inner.put key value)) path origin es

def assign? (above path : List String) (key : String) (value : Tree) (es : Entries) :
    Option Entries :=
  (change? false (assignIn? path key value) above .header es).map Prod.snd

/-- opens the table of a header; one that was only made on the way is taken over -/
def openTable? (key : String) (origin : Origin) (es : Entries) : Option (Origin × Entries) :=
  match es.get? key with
  | none => some (origin, es.put key (.table .header []))
  | some (.table .implied inner) => some (origin, es.put key (.table .header inner))
  | some _ => none

/-- opens the next table of a header in double brackets -/
def openNext? (key : String) (origin : Origin) (es : Entries) : Option (Origin × Entries) :=
  match es.get? key with
  | none => some (origin, es.put key (.tables [[]]))
  | some (.tables items) => some (origin, es.put key (.tables (items ++ [[]])))
  | some _ => none

def open? (isArray : Bool) (path : List String) (key : String) (es : Entries) : Option Entries :=
  (change? false (if isArray then openNext? key else openTable? key) path .header es).map Prod.snd

end Entries

end ResolverTypes.Config
