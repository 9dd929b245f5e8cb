import FormulaDiagram.Numeric.Decimal

/-!
The contents of a TOML document. A table knows how it came about, for that decides who may add to it: a table
named by a header is defined once, one that only stands in the path of a header may still be defined, one made
by dotted keys takes further dotted keys, and one written inline takes nothing more.
-/

namespace FormulaDiagram.Toml

/-- How a table came about. -/
inductive TableState where
  | implied
  | defined
  | dotted
  | closed
deriving DecidableEq

/-- A value, a table, or an array of tables, of which the last one is the one that headers lead to. Words that only
look like numbers, and numbers too large for any use, are items that nothing can be read from. -/
inductive Item where
  | string (content : String)
  | integer (value : Int)
  | float (value : Double)
  | boolean (value : Bool)
  | dateTime
  | unreadable
  | array (items : List Item)
  | table (state : TableState) (entries : List (String × Item))
  | tables (last : List (String × Item)) (earlier : List (List (String × Item)))

/-- The keys of a table with what they stand for, in the order in which they came. -/
abbrev Entries : Type := List (String × Item)

mutual

/-- Everything in an item can be read. -/
def Item.isReadable : Item → Bool
  | .unreadable => false
  | .array items => Item.areReadable items
  | .table _ entries => Entries.areReadable entries
  | .tables last earlier => Entries.areReadable last && Entries.areAllReadable earlier
  | _ => true

def Item.areReadable : List Item → Bool
  | [] => true
  | item :: rest => item.isReadable && Item.areReadable rest

/-- Everything in a table can be read. -/
def Entries.areReadable : List (String × Item) → Bool
  | [] => true
  | (_, item) :: rest => item.isReadable && Entries.areReadable rest

def Entries.areAllReadable : List (List (String × Item)) → Bool
  | [] => true
  | entries :: rest => Entries.areReadable entries && Entries.areAllReadable rest

end

namespace Entries

/-- What a key stands for. -/
def find? (entries : Entries) (key : String) : Option Item := entries.lookup key

/-- Changes what a key stands for, or adds the key at the end. -/
def update (key : String) (change : Option Item → Option Item) : Entries → Option Entries
  | [] => (change none).map fun item => [(key, item)]
  | (key', item) :: rest =>
    if key' = key then (change (some item)).map fun item => (key', item) :: rest
    else (update key change rest).map ((key', item) :: ·)

/-- Changes what the last key of a header stands for. Tables in its path are made as they are needed, and an
array of tables is passed through its last one. -/
def underHeader (change : Option Item → Option Item) : List String → Entries → Option Entries
  | [], _ => none
  | [key], entries => update key change entries
  | key :: path, entries =>
    update key (fun
      | none => (underHeader change path []).map (.table .implied)
      | some (.table .closed _) => none
      | some (.table state inner) => (underHeader change path inner).map (.table state)
      | some (.tables last earlier) => (underHeader change path last).map (.tables · earlier)
      | some _ => none) entries

/-- A header in brackets: the table must be new or only implied so far. -/
def openTable (path : List String) (entries : Entries) : Option Entries :=
  underHeader (fun
    | none => some (.table .defined [])
    | some (.table .implied inner) => some (.table .defined inner)
    | some _ => none) path entries

/-- A header in double brackets: one more table of an array. -/
def openElement (path : List String) (entries : Entries) : Option Entries :=
  underHeader (fun
    | none => some (.tables [] [])
    | some (.tables last earlier) => some (.tables [] (last :: earlier))
    | some _ => none) path entries

/-- Changes the table that a header led to. -/
def within (change : Entries → Option Entries) : List String → Entries → Option Entries
  | [], entries => change entries
  | key :: path, entries =>
    update key (fun
      | some (.table state inner) => (within change path inner).map (.table state)
      | some (.tables last earlier) => (within change path last).map (.tables · earlier)
      | _ => none) entries

/-- Gives a new, possibly dotted key its value. The tables that the parts before the last one lead through are new,
or made by dotted keys, or only implied so far and then taken to be made by dotted keys. An array of tables is passed
through its last one, which may not take the value itself. -/
def assign (value : Item) : List String → Entries → Option Entries
  | [], _ => none
  | [key], entries => update key (fun old => if old.isNone then some value else none) entries
  | key :: path, entries =>
    update key (fun
      | none => (assign value path []).map (.table .dotted)
      | some (.table .dotted inner) => (assign value path inner).map (.table .dotted)
      | some (.table .implied inner) => (assign value path inner).map (.table .dotted)
      | some (.tables last earlier) =>
        if path.length = 1 then none else (assign value path last).map (.tables · earlier)
      | some _ => none) entries

end Entries

end FormulaDiagram.Toml
