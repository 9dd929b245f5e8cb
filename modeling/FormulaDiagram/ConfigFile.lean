import FormulaDiagram.Config
import FormulaDiagram.Toml.Document

/-!
Configuration files. A file is a TOML document whose table `layout` gives some of the measures by their keys; it
may also be an array that gives the first of them in their order. All else in a document is passed over if it can be
read, but a measure that is no number is an error. What is wrong with a document that gives no configuration is
explained in words of the TOML reader's own, which are left open: `explain` gives them for a document.
-/

namespace FormulaDiagram

/-- Why there is no configuration. -/
inductive ConfigFileError where
  | unreadable (explanation : String)
  | missing (path : String)
  | invalid (fault : ConfigFault Single)
deriving DecidableEq

def ConfigFileError.text : ConfigFileError → String
  | .unreadable explanation => "Failed to parse TOML configuration: " ++ explanation
  | .missing path => "Missing configuration file: " ++ path
  | .invalid fault => "Validation error: " ++ fault.message

namespace ConfigFile

/-- An integer in the range of words of 64 bits, with a sign or without. -/
def isWord (n : Int) : Bool := -Int.ofNat (Nat.pow 2 63) ≤ n && n < Int.ofNat (Nat.pow 2 64)

/-- The number that an item gives for a measure. -/
def number? : Toml.Item → Option Single
  | .integer n => if isWord n then some (Binary.ofInt n) else none
  | .float x => some (x.convert .single)
  | _ => none

/-- Measures given by their keys. -/
def ofEntries? (entries : Toml.Entries) : Option (Config Single) :=
  if Toml.Entries.areReadable entries then
    ConfigField.all.foldlM (fun config field =>
      match entries.find? field.key with
      | none => some config
      | some item => (number? item).map (config.set field)) Config.default
  else none

/-- Measures given in their order. Further items are passed over, whether they can be read or not. -/
def ofItems? (items : List Toml.Item) : Option (Config Single) :=
  (ConfigField.all.zip items).foldlM (fun config (field, item) => (number? item).map (config.set field))
    Config.default

/-- The configuration that the item `layout` gives. A date or a time counts as a table that gives no measure. -/
def ofLayout? : Option Toml.Item → Option (Config Single)
  | none => some Config.default
  | some .dateTime => some Config.default
  | some (.table _ inner) => ofEntries? inner
  | some (.array items) => ofItems? items
  | some _ => none

/-- The configuration that a document gives. -/
def ofDocument? (document : String) : Option (Config Single) := do
  let entries ← Toml.parse? document
  if Toml.Entries.areReadable (entries.filter (·.1 ≠ "layout")) then ofLayout? (entries.find? "layout") else none

/-- The configuration that a document gives, if it can be laid out by. -/
def check (document : String) (explain : String → String := fun _ => "") : Except ConfigFileError (Config Single) :=
  match ofDocument? document with
  | none => .error (.unreadable (explain document))
  | some config =>
    match config.validate with
    | .error fault => .error (.invalid fault)
    | .ok () => .ok config

end ConfigFile

end FormulaDiagram
