/-!
# Outlines

An outline shows how a value is built: names with their parts in parentheses,
records with named fields in braces, and lists in brackets. It is written on one
line, or with one part to a line and four spaces of indentation for each level.
-/
namespace SelectLang

/-- How the parts of a value are enclosed. -/
inductive Outline.Enclosure
  | round (name : String)
  | curly (name : String)
  | square

/-- A value as a tree of its parts. Each part has a label, which is empty
outside of records. -/
inductive Outline
  | atom (text : String)
  | group (enclosure : Outline.Enclosure) (parts : List (String × Outline))

namespace Outline

namespace Enclosure

def opening : Enclosure → String
  | round name => name ++ "("
  | curly name => name ++ " \x7b"
  | square => "["

def closing : Enclosure → String
  | round _ => ")"
  | curly _ => "\x7d"
  | square => "]"

/-- What stands between the enclosure and its parts on one line. -/
def padding : Enclosure → String
  | curly _ => " "
  | _ => ""

end Enclosure

/-- A name with one part. -/
def tagged (name : String) (part : Outline) : Outline := group (.round name) [("", part)]

def tuple (name : String) (parts : List Outline) : Outline :=
  group (.round name) (parts.map fun part => ("", part))

def record (name : String) (fields : List (String × Outline)) : Outline :=
  group (.curly name) (fields.map fun field => (field.1 ++ ": ", field.2))

def list (items : List Outline) : Outline := group .square (items.map fun item => ("", item))

def option : Option Outline → Outline
  | none => atom "None"
  | some value => tagged "Some" value

mutual

/-- The outline on one line. -/
def compact : Outline → String
  | atom text => text
  | group enclosure parts =>
    enclosure.opening ++ enclosure.padding ++ ", ".intercalate (compactParts parts) ++
      enclosure.padding ++ enclosure.closing

def compactParts : List (String × Outline) → List String
  | [] => []
  | (label, part) :: rest => (label ++ part.compact) :: compactParts rest

end

def indentation (level : Nat) : String := String.ofList (List.replicate (4 * level) ' ')

mutual

/-- The outline with one part to a line, when its own line is at the given
level. A group without parts stays on its line. -/
def indented (level : Nat) : Outline → String
  | atom text => text
  | group enclosure [] => enclosure.opening ++ enclosure.closing
  | group enclosure (part :: rest) =>
    enclosure.opening ++ "\n" ++ String.join (indentedParts (level + 1) (part :: rest)) ++
      indentation level ++ enclosure.closing

/-- The parts of a group with a comma and a line end behind each. -/
def indentedParts (level : Nat) : List (String × Outline) → List String
  | [] => []
  | (label, part) :: rest =>
    (indentation level ++ label ++ part.indented level ++ ",\n") :: indentedParts level rest

end

end Outline

end SelectLang
