import FormulaDiagram.Toml.Literal

/-!
TOML documents. A document is a sequence of headers and of keys with values; arrays and inline tables nest in
one another up to a limit, and the readers of values are built level by level from the inside outwards. What is
wrong with a document is not said, only that it is none.
-/

namespace FormulaDiagram.Toml

/-- The number of arrays and inline tables that may be nested in one another, and that of the parts of a key. -/
def maxNesting : Nat := 80

def dropBlanks (cs : List Char) : List Char := cs.dropWhile isBlank

/-- The text behind a comment, if one begins here. Control characters may not stand in it. -/
def dropComment? (cs : List Char) : Option (List Char) :=
  match cs with
  | '#' :: rest =>
    match rest.dropWhile (!isControl ·) with
    | [] => some []
    | '\n' :: behind => some ('\n' :: behind)
    | '\r' :: '\n' :: behind => some ('\n' :: behind)
    | _ => none
  | _ => some cs

/-- The text behind the end of a line, with blanks and a comment before it. -/
def endOfLine? (cs : List Char) : Option (List Char) := do
  match ← dropComment? (dropBlanks cs) with
  | [] => some []
  | '\n' :: rest => some rest
  | '\r' :: '\n' :: rest => some rest
  | _ => none

/-- The text behind blanks, ends of lines and comments. -/
def dropLines? (cs : List Char) : Option (List Char) :=
  match dropBlanks cs with
  | [] => some []
  | c :: rest =>
    if c = '#' || c = '\n' || c = '\r' then
      match endOfLine? (c :: rest) with
      | some behind => if behind.length < cs.length then dropLines? behind else none
      | none => none
    else some (c :: rest)
termination_by cs.length

/-! ### Keys -/

/-- One part of a key: a bare word or a string. -/
def keyPart? (cs : List Char) : Option (Reading String) :=
  match cs with
  | '"' :: rest => basicString [] rest
  | '\'' :: rest => literalString [] rest
  | _ =>
    match cs.span fun c => c.isAlphanum || c = '_' || c = '-' with
    | ([], _) => none
    | (part, rest) => some (String.ofList part, rest)

/-- A key: parts with dots between them, and blanks around those. It has at most as many parts as may be nested. -/
def key? (before : List String) (cs : List Char) : Option (Reading (List String)) :=
  match keyPart? (dropBlanks cs) with
  | none => none
  | some (part, rest) =>
    match dropBlanks rest with
    | '.' :: behind =>
      if behind.length < cs.length then key? (part :: before) behind else none
    | behind => if before.length < maxNesting then some ((part :: before).reverse, behind) else none
termination_by cs.length

/-- A character behind blanks, and the text behind it. -/
def skip? (c : Char) (cs : List Char) : Option (List Char) :=
  match dropBlanks cs with
  | c' :: rest => if c' = c then some rest else none
  | [] => none

/-! ### Values -/

/-- A reader of values. -/
abbrev Reader : Type := List Char → Option (Reading Item)

/-- The further elements of an array, behind its bracket or a comma. -/
def elements? (value : Reader) (before : List Item) (cs : List Char) : Option (Reading (List Item)) :=
  match dropLines? cs with
  | none => none
  | some (']' :: rest) => some (before.reverse, rest)
  | some start =>
    match value start with
    | none => none
    | some (item, rest) =>
      match dropLines? rest with
      | some (',' :: behind) =>
        if behind.length < cs.length then elements? value (item :: before) behind else none
      | some (']' :: behind) => some ((item :: before).reverse, behind)
      | _ => none
termination_by cs.length

/-- A key with its value, added to the entries of an inline table. New lines may stand on either side of the sign
between them. -/
def pair? (value : Reader) (entries : Entries) (cs : List Char) : Option (Reading Entries) := do
  let (key, rest) ← key? [] cs
  let rest ← skip? '=' (← dropLines? rest)
  let (item, rest) ← value (← dropLines? rest)
  let entries ← entries.assign item key
  some (entries, rest)

/-- The further pairs of an inline table, behind its brace or a comma. -/
def pairs? (value : Reader) (entries : Entries) (cs : List Char) : Option (Reading Entries) :=
  match dropLines? cs with
  | none => none
  | some ('\x7d' :: rest) => some (entries, rest)
  | some start =>
    match pair? value entries start with
    | none => none
    | some (entries, rest) =>
      match dropLines? rest with
      | some (',' :: behind) =>
        if behind.length < cs.length then pairs? value entries behind else none
      | some ('\x7d' :: behind) => some (entries, behind)
      | _ => none
termination_by cs.length

/-- A value. Arrays and inline tables hold what `inner` reads, if they may stand here. -/
def valueAround (inner : Option Reader) : Reader
  | '"' :: '"' :: '"' :: rest => (longBasicString [] (dropNewline rest)).map fun (s, rest) => (.string s, rest)
  | '"' :: rest => (basicString [] rest).map fun (s, rest) => (.string s, rest)
  | '\'' :: '\'' :: '\'' :: rest =>
    (longLiteralString [] (dropNewline rest)).map fun (s, rest) => (.string s, rest)
  | '\'' :: rest => (literalString [] rest).map fun (s, rest) => (.string s, rest)
  | '[' :: rest => do
    let (items, rest) ← elements? (← inner) [] rest
    some (.array items, rest)
  | '\x7b' :: rest => do
    let (entries, rest) ← pairs? (← inner) [] rest
    some (.table .closed entries, rest)
  | cs => (ofWord? (word cs).1).map (·, (word cs).2)

/-- A value with a number of levels of nesting left. -/
def value? : Nat → Reader
  | 0 => valueAround none
  | left + 1 => valueAround (some (value? left))

/-! ### Documents -/

/-- One line of a document, read under a header: the header that holds behind it, and the entries. -/
def statement? (header : List String) (entries : Entries) (cs : List Char) :
    Option (Reading (List String × Entries)) :=
  match dropBlanks cs with
  | '[' :: '[' :: rest => do
    let (path, rest) ← key? [] rest
    match rest with
    | ']' :: ']' :: rest => some ((path, ← entries.openElement path), rest)
    | _ => none
  | '[' :: rest => do
    let (path, rest) ← key? [] rest
    match rest with
    | ']' :: rest => some ((path, ← entries.openTable path), rest)
    | _ => none
  | start => do
    let (key, rest) ← key? [] start
    let rest ← skip? '=' rest
    let (item, rest) ← value? maxNesting (dropBlanks rest)
    some ((header, ← Entries.within (Entries.assign item key) header entries), rest)

/-- The further lines of a document. -/
def statements? (header : List String) (entries : Entries) (cs : List Char) : Option Entries :=
  match dropLines? cs with
  | none => none
  | some [] => some entries
  | some start =>
    match statement? header entries start with
    | none => none
    | some ((header, entries), rest) =>
      match endOfLine? rest with
      | none => none
      | some behind => if behind.length < cs.length then statements? header entries behind else none
termination_by cs.length

/-- The table that a document writes. A byte order mark before it is passed over. -/
def parse? (document : String) : Option Entries :=
  match document.toList with
  | '\ufeff' :: rest => statements? [] [] rest
  | cs => statements? [] [] cs

end FormulaDiagram.Toml
