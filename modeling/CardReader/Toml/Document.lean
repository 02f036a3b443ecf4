import CardReader.Toml.Scalar

namespace CardReader.Toml

open Piece

namespace Entries

/-- Changes the table at the end of a path. Missing tables on the way are made; of tables in a list
the last one is taken. With `dotted`, tables with a header of their own are closed. -/
def within (dotted : Bool) (change : Origin → Entries → Option (α × Entries)) :
    List String → Origin → Entries → Option (α × Entries)
  | [], origin, es => change origin es
  | key :: path, _, es =>
    match es.lookup key with
    | none => do
      let origin := if dotted then Origin.dotted else Origin.implied
      let (a, inner) ← within dotted change path origin []
      return (a, es.push key (.table origin inner))
    | some (.table origin inner) => do
      if origin = .braces ∨ (dotted ∧ origin = .header) then none
      let (a, inner) ← within dotted change path origin inner
      return (a, es.replace key (.table origin inner))
    | some (.tables items) =>
      match items.getLast? with
      | some (.table origin inner) => do
        let (a, inner) ← within dotted change path origin inner
        return (a, es.replace key (.tables (items.dropLast ++ [.table origin inner])))
      | _ => none
    | some _ => none

/-- Adds a value below a key, which must be new. Dotted keys end in tables made by dotted keys. -/
def insert (keys : List String) (v : Value) (es : Entries) : Option Entries :=
  let path := keys.dropLast
  let put (origin : Origin) (es : Entries) : Option (Unit × Entries) := do
    let key ← keys.getLast?
    if (origin == .dotted) == path.isEmpty then none
    if (es.lookup key).isSome then none
    return ((), es.push key v)
  (within true put path .header es).map Prod.snd

end Entries

def listItems (item : Piece Value) : Piece (List Value) := do
  let padded : Piece Value := do gap; let v ← item; gap; return v
  let items ← opt (do
    let items ← separated padded (char ',')
    let _ ← opt (char ',')
    return items)
  gap
  return items.getD []

def pair (item : Piece Value) : Piece (List String × Value) := do
  let keys ← dottedKey
  char '='
  spaces
  return (keys, ← item)

/-- Entries between braces, on one line. -/
def bracedEntries (item : Piece Value) : Piece Entries := do
  let pairs ← opt (separated (do let p ← pair item; spaces; return p) (char ','))
  spaces
  match (pairs.getD []).foldlM (fun es p => Entries.insert p.1 p.2 es) [] with
  | some es => return es
  | none => fail

def value : Nat → Piece Value
  | 0 => scalar
  | depth + 1 => do
    match ← peek with
    | some '[' =>
      char '['
      let items ← listItems (value depth)
      char ']'
      return .list items
    | some '\x7b' =>
      char '\x7b'
      let es ← bracedEntries (value depth)
      char '\x7d'
      return .table .braces es
    | _ => scalar

/-- A document being read: the finished tables, and the table that pairs go to with its path and
whether it is to be added to a list of tables. -/
structure Draft where
  root : Entries := []
  path : List String := []
  listed : Bool := false
  current : Entries := []

namespace Draft

/-- Puts the present table where it belongs. -/
def close (d : Draft) : Option Draft :=
  match d.path.getLast? with
  | none => some { root := d.current }
  | some key =>
    let table := Value.table .header d.current
    let put (_ : Origin) (es : Entries) : Option (Unit × Entries) :=
      match d.listed, es.lookup key with
      | true, some (.tables items) => some ((), es.replace key (.tables (items ++ [table])))
      | false, none => some ((), es.push key table)
      | _, _ => none
    (Entries.within false put d.path.dropLast .header d.root).map fun r => { root := r.2 }

/-- Goes on in the table of a header. A table that only headers below it made is taken up again. -/
def openTable (path : List String) (d : Draft) : Option Draft := do
  let d ← d.close
  let key ← path.getLast?
  let takeUp (_ : Origin) (es : Entries) : Option (Entries × Entries) :=
    match es.lookup key with
    | none => some ([], es)
    | some (.table .implied inner) => some (inner, es.without key)
    | some _ => none
  let (current, root) ← Entries.within false takeUp path.dropLast .header d.root
  return { root, path, current }

/-- Goes on in a new table of the list of tables of a header. -/
def openListed (path : List String) (d : Draft) : Option Draft := do
  let d ← d.close
  let key ← path.getLast?
  let make (_ : Origin) (es : Entries) : Option (Unit × Entries) :=
    match es.lookup key with
    | none => some ((), es.push key (.tables []))
    | some (.tables _) => some ((), es)
    | some _ => none
  let (_, root) ← Entries.within false make path.dropLast .header d.root
  return { root, path, listed := true }

def add (keys : List String) (v : Value) (d : Draft) : Option Draft :=
  (d.current.insert keys v).map fun current => { d with current }

end Draft

/-- A step that may refuse the document. -/
def settle : Option α → Piece α
  | some a => return a
  | none => fail

/-- A header with what follows it on its line. -/
def header (d : Draft) : Piece Draft := do
  char '['
  if (← peek) = some '[' then
    char '['
    let path ← dottedKey
    word "]]"
    restOfLine
    settle (d.openListed path)
  else
    let path ← dottedKey
    char ']'
    restOfLine
    settle (d.openTable path)

/-- A pair with what follows it on its line. -/
def pairLine (d : Draft) : Piece Draft := do
  let (keys, v) ← pair (value (depthLimit - 1))
  restOfLine
  settle (d.add keys v)

/-- A comment, an empty line, a header or a pair. -/
def line (d : Draft) : Piece Draft := do
  match ← peek with
  | some '#' => comment; lineEnd; return d
  | some '\n' | some '\r' => newline; return d
  | some '[' => header d
  | _ => pairLine d

/-- At most `most` lines up to the end of the text. -/
def lines (most : Nat) (d : Draft) : Piece Draft :=
  match most with
  | 0 => return d
  | most + 1 => do
    spaces
    if ← atEnd then return d
    lines most (← line d)

/-- The top-level entries of a document, or nothing if the text is no document. A table is written
once: a dotted key adds to tables that dotted keys made, and a header to tables that headers below
them made. A byte order mark may stand in front. -/
def parse (text : String) : Option Entries := do
  let chars := match text.toList with
    | '\ufeff' :: rest => rest
    | all => all
  let (d, rest) ← lines (chars.length + 1) {} chars
  if ¬ rest.isEmpty then none
  return (← d.close).root

end CardReader.Toml
