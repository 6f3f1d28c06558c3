set_option autoImplicit false

/-!
# TOML documents

A document assigns values to keys.  A table may come about in four ways, and which one decides
what may be added to it later: a table written in braces is complete, a table with a header of
its own takes only the keys under that header, and a table that only the header of a table
inside it mentions may still get a header of its own.
-/

namespace BoundedCrawl.Toml

/-- How a table came about. -/
inductive Origin where
  /-- By a header of its own; the document as a whole counts as such a table. -/
  | header
  /-- By the header of a table inside it. -/
  | implied
  /-- By a key with dots in it. -/
  | dotted
  /-- Written in braces. -/
  | inline
  deriving DecidableEq, Repr, Inhabited

/-- A value of a document.  Nothing here depends on which fraction or which date a value is. -/
inductive Value where
  | text (value : String)
  | integer (value : Int)
  | fraction
  | truth (value : Bool)
  /-- A date, a time, or both. -/
  | moment
  | array (items : List Value)
  | table (origin : Origin) (rows : List (String × Value))
  /-- Tables with the same header in double brackets. -/
  | tables (each : List (List (String × Value)))
  deriving Repr, Inhabited

/-- The keys of a table with their values, in the order in which they were written. -/
abbrev Rows := List (String × Value)

namespace Rows

/-- The value of a key. -/
def get? (rows : Rows) (key : String) : Option Value :=
  (rows.find? fun row => row.1 == key).map (·.2)

/-- Gives a key a value, in place if it has one. -/
def set (rows : Rows) (key : String) (value : Value) : Rows :=
  if rows.any fun row => row.1 == key then rows.map fun row => if row.1 == key then (key, value)
  else row
  else rows ++ [(key, value)]

/-- Changes the table at a path of keys.  Tables on the way that do not exist yet are made;
`byDots` says that the path is part of a key with dots, which may not enter a table with a
header of its own. -/
def update (byDots : Bool) (path : List String) (origin : Origin) (rows : Rows)
    (change : Origin → Rows → Option Rows) : Option Rows :=
  match path with
  | [] => change origin rows
  | key :: rest =>
    let fresh : Origin := if byDots then .dotted else .implied
    match get? rows key with
    | none =>
      (update byDots rest fresh [] change).map fun inner => set rows key (.table fresh inner)
    | some (.table o inner) =>
      if o = .inline || (byDots && o = .header) then none
      else (update byDots rest o inner change).map fun inner => set rows key (.table o inner)
    | some (.tables each) =>
      match each.reverse with
      | [] => none
      | last :: before =>
        (update byDots rest .header last change).map fun inner =>
          set rows key (.tables (before.reverse ++ [inner]))
    | some _ => none

/-- Adds a value under a key that may have dots in it.  No key gets two values. -/
def add (rows : Rows) (path : List String) (key : String) (value : Value) : Option Rows :=
  update true path .header rows fun origin inner =>
    if !path.isEmpty && origin ≠ .dotted then none
    else if (get? inner key).isSome then none
    else some (inner ++ [(key, value)])

/-- Begins a table with a header. -/
def beginTable (rows : Rows) (path : List String) (key : String) : Option Rows :=
  update false path .header rows fun _ inner =>
    match get? inner key with
    | none => some (inner ++ [(key, .table .header [])])
    | some (.table .implied old) => some (set inner key (.table .header old))
    | some _ => none

/-- Begins one more table with a header in double brackets. -/
def beginTables (rows : Rows) (path : List String) (key : String) : Option Rows :=
  update false path .header rows fun _ inner =>
    match get? inner key with
    | none => some (inner ++ [(key, .tables [[]])])
    | some (.tables each) => some (set inner key (.tables (each ++ [[]])))
    | some _ => none

end Rows

end BoundedCrawl.Toml
