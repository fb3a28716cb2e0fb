import BringUp.Unicode.Age
import BringUp.Unicode.Break.Cluster
import BringUp.Unicode.Break.Sentence
import BringUp.Unicode.Break.Word
import BringUp.Unicode.Property
import BringUp.Unicode.Script

/-!
# Queries for character properties

A query names a property, a category or a script, or a property together with a value. Names are
compared loosely: case, blanks, hyphens, underscores and a leading `is` do not count.
-/

namespace BringUp.Unicode

/-- What a pattern asks of the tables of character properties. -/
inductive Query where
  /-- A binary property, a category or a script. -/
  | name (text : String)
  /-- A property that has values, and the value wanted. -/
  | value (property text : String)
  deriving Repr, DecidableEq

namespace Query

/-- The letters that count of a name, without its leading `is`. The name `isc` is not `c` with
such a prefix. -/
def loose (name : String) : String :=
  let kept (cs : List Char) :=
    (cs.filter fun c => c != ' ' && c != '_' && c != '-' && c.toNat < 128).map Char.toLower
  let letters :=
    match name.toList with
    | i :: s :: rest =>
      if i.toLower == 'i' && s.toLower == 's' then
        let rest := kept rest
        if rest == ['c'] then ['i', 's', 'c'] else rest
      else kept (i :: s :: rest)
    | short => kept short
  String.ofList letters

/-- The characters with a plain name: binary properties come before categories, and categories
before scripts. The names `cf`, `sc` and `lc` belong to categories. -/
def named? (name : String) : Option CharSet :=
  let property := if ["cf", "sc", "lc"].contains name then none else Property.named? name
  property <|> Category.named? name <|> (Script.code? name).map Script.members

/-- The characters that a query asks for, if its names exist. -/
def members? : Query → Option CharSet
  | .name text => named? (loose text)
  | .value property text =>
    match loose property with
    | "gc" | "generalcategory" => Category.named? (loose text)
    | "sc" | "script" => (Script.code? (loose text)).map Script.members
    | "scx" | "scriptextensions" => (Script.code? (loose text)).map Script.extendedMembers
    | "age" => Age.named? (loose text)
    | "gcb" | "graphemeclusterbreak" =>
      (ClusterClass.ofName? (loose text)).map ClusterClass.members
    | "wb" | "wordbreak" => (WordClass.ofName? (loose text)).map WordClass.members
    | "sb" | "sentencebreak" => (SentenceClass.ofName? (loose text)).map SentenceClass.members
    | _ => none

end Query

end BringUp.Unicode
