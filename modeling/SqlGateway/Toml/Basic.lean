/-!
# Settings

A file of settings assigns values to keys, in tables that may nest.  A table remembers how it came
to be, because that decides who may still add to it.  Truth values, fractional numbers and dates are
told to be well formed, but no setting has such a value, so that they are all one.
-/

namespace SqlGateway

/-- How a table came to be. -/
inductive Toml.Origin where
  /-- By a heading of a table inside it. -/
  | implied
  /-- By a key with points. -/
  | dotted
  /-- By its own heading. -/
  | declared
  /-- By a value in braces, to which nothing can be added. -/
  | inline
  deriving DecidableEq, Repr

/-- A value in a file of settings. -/
inductive Toml where
  | string (s : String)
  | integer (n : Int)
  /-- A truth value, a fractional number or a date. -/
  | other
  | array (items : List Toml)
  | table (origin : Toml.Origin) (entries : List (String × Toml))
  /-- Tables of one name, each with its own heading. -/
  | tables (items : List (List (String × Toml)))

namespace Toml

/-- The entries of a table. -/
abbrev Entries := List (String × Toml)

/-- Sets an entry that is there already. -/
def replace (key : String) (value : Toml) : Entries → Entries
  | [] => []
  | (k, v) :: rest => if k = key then (k, value) :: rest else (k, v) :: replace key value rest

/-- Changes the table that a path leads to.  Tables that are missing come to be on the way, and of
tables of one name the last is meant.  A path of a key with points does not lead through a table
with a heading of its own.  The change is told how the table at the end came to be. -/
def change? (byDots : Bool) (action : Origin → Entries → Option Entries) (origin : Origin) :
    List String → Entries → Option Entries
  | [], entries => action origin entries
  | key :: path, entries =>
    let fresh : Origin := if byDots then .dotted else .implied
    match entries.lookup key with
    | none => do
      let inner ← change? byDots action fresh path []
      return entries ++ [(key, .table fresh inner)]
    | some (.table origin inner) =>
      if origin = .inline || (byDots && origin = .declared) then none
      else do
        return replace key (.table origin (← change? byDots action origin path inner)) entries
    | some (.tables items) =>
      match items.getLast? with
      | none => none
      | some last => do
        let inner ← change? byDots action .declared path last
        return replace key (.tables (items.dropLast ++ [inner])) entries
    | some _ => none

/-- Adds a value under a new key.  Entries by a plain key and entries by a key with points do not
mix in one table. -/
def addValue? (isPlain : Bool) (key : String) (value : Toml) (origin : Origin) (entries : Entries) :
    Option Entries :=
  if isPlain = (origin == .dotted) || (entries.lookup key).isSome then none
  else some (entries ++ [(key, value)])

/-- Enters a value under a key, given as the path to its table and the last name. -/
def enter? (path : List String) (key : String) (value : Toml) (entries : Entries) :
    Option Entries :=
  change? true (addValue? path.isEmpty key value) .declared path entries

/-- Declares a table by its heading; a table can be declared once. -/
def declare? (key : String) (entries : Entries) : Option Entries :=
  match entries.lookup key with
  | none => some (entries ++ [(key, .table .declared [])])
  | some (.table .implied inner) => some (replace key (.table .declared inner) entries)
  | some _ => none

/-- Declares one more table of a name. -/
def declareNext? (key : String) (entries : Entries) : Option Entries :=
  match entries.lookup key with
  | none => some (entries ++ [(key, .tables [[]])])
  | some (.tables items) => some (replace key (.tables (items ++ [[]])) entries)
  | some _ => none

end Toml

end SqlGateway
