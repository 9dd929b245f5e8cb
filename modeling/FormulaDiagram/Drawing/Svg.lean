/-!
SVG elements and their text. An element without children is one line; any other has its start tag, its children
and its end tag on lines of their own, without indentation. Attributes are written in the order of their names.
-/

namespace FormulaDiagram

/-- An element with its attributes and children, or text. -/
inductive SvgNode where
  | element (name : String) (attributes : List (String × String)) (children : List SvgNode)
  | text (content : String)

namespace SvgNode

/-- The characters that a character of text or of a value is written as. -/
def escapeChar : Char → List Char
  | '&' => "&amp;".toList
  | '<' => "&lt;".toList
  | '>' => "&gt;".toList
  | c => [c]

def escape (s : String) : String := String.ofList (s.toList.flatMap escapeChar)

/-- Puts an attribute in its place among others that are ordered by name, or in the place of one of its name. -/
def insertAttribute (name value : String) : List (String × String) → List (String × String)
  | [] => [(name, value)]
  | (name', value') :: rest =>
    if name < name' then (name, value) :: (name', value') :: rest
    else if name = name' then (name, value) :: rest
    else (name', value') :: insertAttribute name value rest

/-- An element with attributes in any order, and children. -/
def tag (name : String) (attributes : List (String × String)) (children : List SvgNode) : SvgNode :=
  .element name (attributes.foldl (fun sorted (key, value) => insertAttribute key value sorted) []) children

/-- The attribute as it stands in a tag. -/
def attributeText (pair : String × String) : String :=
  " " ++ pair.1 ++ "=\"" ++ escape pair.2 ++ "\""

/-- The name and the attributes of a tag. -/
def headText (name : String) (attributes : List (String × String)) : String :=
  "<" ++ name ++ String.join (attributes.map attributeText)

mutual

/-- The lines of a node in front of further ones. -/
def linesOnto : SvgNode → List String → List String
  | .text content, rest => escape content :: rest
  | .element name attributes [], rest => (headText name attributes ++ "/>") :: rest
  | .element name attributes (child :: children), rest =>
    (headText name attributes ++ ">") :: linesOnto child (linesOntoAll children (("</" ++ name ++ ">") :: rest))

def linesOntoAll : List SvgNode → List String → List String
  | [], rest => rest
  | node :: nodes, rest => linesOnto node (linesOntoAll nodes rest)

end

/-- The text of a node, without a newline at its end. -/
def render (node : SvgNode) : String := String.intercalate "\n" (node.linesOnto [])

/-- A text element around a text. -/
def textElement (attributes : List (String × String)) (content : String) : SvgNode :=
  tag "text" attributes [.text content]

end SvgNode

end FormulaDiagram
