import Scaffold.Template.Node

/-!
# Parsing a template

A template is parsed once, under the delimiters it starts with, and can then
be rendered any number of times.
-/

namespace Scaffold

/-- A parsed template. -/
structure Template where
  nodes : List Template.Node
deriving Repr

namespace Template

/-- Parses a template that starts with the given delimiters. -/
def parse (delimiters : Delimiters) (source : String) : Except Error Template := do
  if !delimiters.isValid then
    throw ⟨.invalidDelimiters delimiters, 0⟩
  let scan := scan delimiters true 0 source.toList
  return ⟨← assemble scan.ending [] [] scan.segments⟩

end Template

end Scaffold
