import CardReader.Text.Binary64
import CardReader.Text.Quoted

namespace CardReader.Toml

/-- How a table came to be, which tells how it can be added to. -/
inductive Origin where
  /-- By a header of its own, or as the document. -/
  | header
  /-- By a header of a table below it. -/
  | implied
  /-- By a dotted key. -/
  | dotted
  /-- Between braces. -/
  | braces
  deriving DecidableEq

/-- A value. Tables keep their entries in the order they were written in. -/
inductive Value where
  | string (text : String)
  | integer (n : Int)
  | float (bits : UInt64)
  | boolean (b : Bool)
  | time
  | list (items : List Value)
  /-- Tables that headers in double brackets add one by one. -/
  | tables (items : List Value)
  | table (origin : Origin) (entries : List (String × Value))
  deriving Inhabited

abbrev Entries := List (String × Value)

namespace Entries

/-- Puts another value in place of the one at a key. -/
def replace (key : String) (v : Value) (es : Entries) : Entries :=
  es.map fun e => if e.1 == key then (key, v) else e

/-- Takes the entry at a key out. -/
def without (key : String) (es : Entries) : Entries := es.filter fun e => e.1 != key

def push (key : String) (v : Value) (es : Entries) : Entries := es ++ [(key, v)]

end Entries

/-- What a value is, for messages. -/
def Value.shown : Value → String
  | .string text => "string " ++ Text.Quoted.string text
  | .integer n => "integer `" ++ toString n ++ "`"
  | .float bits => "floating point `" ++ Text.Binary64.text bits ++ "`"
  | .boolean b => "boolean `" ++ toString b ++ "`"
  | .time | .table _ _ => "map"
  | .list _ | .tables _ => "sequence"

end CardReader.Toml
