import Scaffold.Template.Parser
import Scaffold.Template.Escape
import Scaffold.Template.Value

/-!
# Rendering a template

A template is written for a view.  A section is written once for a value that
is true, once per item of an array, and not at all otherwise; the value or the
item becomes the innermost context.  An inverted section is written exactly if
its value is missing or not true.
-/

namespace Scaffold.Template

mutual

/-- The text of a node within the given contexts, the innermost first. -/
def Node.render (contexts : List Json) : Node → String
  | .text text => text
  | .variable name escaped =>
      match lookup? contexts name with
      | none => ""
      | some value => if escaped then escape (valueText value) else valueText value
  | .block name true children =>
      if (lookup? contexts name).any isTruthy then "" else renderAll contexts children
  | .block name false children =>
      match lookup? contexts name with
      | none => ""
      | some (.arr items) =>
          String.join (items.map fun item => renderAll (item :: contexts) children)
      | some value => if isTruthy value then renderAll (value :: contexts) children else ""

/-- The text of a list of nodes. -/
def renderAll (contexts : List Json) : List Node → String
  | [] => ""
  | node :: nodes => node.render contexts ++ renderAll contexts nodes

end

/-- The text of a template for a view. -/
def render (template : Template) (view : Json) : String :=
  renderAll [view] template.nodes

end Scaffold.Template
