import JavaDiff.Number.Binary

/-!
# TOML tables

A document defines its tables in pieces, and each piece may only extend certain others.  A table
therefore remembers how it came about.  A header may extend a table that only longer headers have
implied so far, a dotted key may extend a table that dotted keys have made in the same place, and
neither may touch an inline table.  No key is defined twice.
-/

namespace JavaDiff

/-- How a table came about. -/
inductive TableOrigin where
  /-- It is written between braces. -/
  | inline
  /-- It has a header of its own. -/
  | header
  /-- The header of a table inside it implies it. -/
  | implied
  /-- A dotted key implies it. -/
  | dotted
deriving DecidableEq, Repr

/-- A TOML value. -/
inductive Toml where
  /-- A text. -/
  | string (text : String)
  /-- An integer. -/
  | integer (value : Int)
  /-- A floating-point number. -/
  | float (value : Double)
  /-- A truth value. -/
  | boolean (value : Bool)
  /-- A date, a time or both. -/
  | dateTime
  /-- A sequence of values. -/
  | array (elements : List Toml)
  /-- A table. -/
  | table (origin : TableOrigin) (entries : List (String × Toml))
  /-- A sequence of tables with headers, of which the last can still grow. -/
  | tables (earlier : List Toml) (last : List (String × Toml))

namespace Toml

/-- The entries of a table. -/
abbrev Entries := List (String × Toml)

namespace Entries

/-- The entries with a value for a key, in place of an earlier one. -/
def set (key : String) (value : Toml) : Entries → Entries
  | [] => [(key, value)]
  | entry :: rest => if entry.1 = key then (key, value) :: rest else entry :: set key value rest

/-- The entries with a new one under a dotted key, which leads along a path to its last part.  The
table at the end of a path has to come from dotted keys itself, which `fits` says of the table at
hand. -/
def insert? (key : String) (value : Toml) (fits : Bool) :
    List String → Entries → Option Entries
  | [], entries =>
    if fits ∧ (entries.lookup key).isNone then some (entries ++ [(key, value)]) else none
  | part :: path, entries =>
    match entries.lookup part with
    | none => do
      let inner ← insert? key value true path []
      return entries ++ [(part, table .dotted inner)]
    | some (table .dotted inner) => do
      let inner ← insert? key value true path inner
      return entries.set part (table .dotted inner)
    | some (table .implied inner) => do
      let inner ← insert? key value false path inner
      return entries.set part (table .implied inner)
    | some (tables earlier last) => do
      let last ← insert? key value false path last
      return entries.set part (tables earlier last)
    | some _ => none

/-- The entries in which the value under the last part of a header has been replaced.  Tables on the
way that are not there yet are implied. -/
def update? (replace? : Option Toml → Option Toml) : List String → Entries → Option Entries
  | [], _ => none
  | [key], entries => do
    let value ← replace? (entries.lookup key)
    return entries.set key value
  | part :: path, entries =>
    match entries.lookup part with
    | none => do
      let inner ← update? replace? path []
      return entries ++ [(part, table .implied inner)]
    | some (table .inline _) => none
    | some (table origin inner) => do
      let inner ← update? replace? path inner
      return entries.set part (table origin inner)
    | some (tables earlier last) => do
      let last ← update? replace? path last
      return entries.set part (tables earlier last)
    | some _ => none

end Entries

/-- A value with the key it is given, which consists of a path and a last part. -/
structure Pair where
  /-- The parts of the key before the last. -/
  path : List String
  /-- The last part of the key. -/
  key : String
  /-- The value. -/
  value : Toml

/-- The entries after some pairs. -/
def insertPairs? (entries : Entries) (pairs : List Pair) : Option Entries :=
  pairs.foldlM (fun entries pair => Entries.insert? pair.key pair.value true pair.path entries)
    entries

/-- The header of a section. -/
inductive Header where
  /-- The header of a table. -/
  | table (path : List String)
  /-- The header of one more table of a sequence. -/
  | element (path : List String)
deriving DecidableEq, Repr

/-- The document after one more section, which consists of a header and the pairs below it. -/
def addSection? (document : Entries) (header : Header) (pairs : List Pair) : Option Entries :=
  match header with
  | .table path =>
    Entries.update? (fun value? =>
      match value? with
      | none => (insertPairs? [] pairs).map (Toml.table .header)
      | some (.table .implied inner) => (insertPairs? inner pairs).map (Toml.table .header)
      | some _ => none) path document
  | .element path =>
    Entries.update? (fun value? =>
      match value? with
      | none => (insertPairs? [] pairs).map (tables [])
      | some (.tables earlier last) =>
        (insertPairs? [] pairs).map (tables (earlier ++ [Toml.table .header last]))
      | some _ => none) path document

end Toml

end JavaDiff
