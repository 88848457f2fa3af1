import Scaffold.Template.Segment

/-!
# The tree of a template

The section tags of a template nest like brackets.  Its segments are folded
into a forest with a stack of the sections that are still open; each of them
keeps the nodes that precede it on its own level.
-/

namespace Scaffold.Template

/-- A node of a parsed template. -/
inductive Node where
  | text (text : String)
  | variable (name : String) (escaped : Bool)
  | block (name : String) (inverted : Bool) (children : List Node)
deriving Repr

/-- A section that is not closed yet. -/
structure OpenSection where
  name : String
  inverted : Bool
  /-- The number of bytes before its opening tag. -/
  position : Nat
  /-- The nodes before it on its own level. -/
  preceding : List Node
deriving Repr

/-- The node of a text, unless it is empty. -/
def textNodes (text : List Char) : List Node :=
  if text.isEmpty then [] else [.text (String.ofList text)]

/-- Folds the segments that remain into the nodes of the innermost open
section, and finally of the whole template. -/
def assemble (ending : Ending) (sections : List OpenSection) (nodes : List Node) :
    List Segment → Except Error (List Node)
  | [] =>
      match ending, sections with
      | .fault error, _ => .error error
      | .text _ _, innermost :: _ =>
          .error ⟨.unclosedSection innermost.name, innermost.position⟩
      | .text rest _, [] => .ok (nodes ++ textNodes rest)
  | segment :: segments =>
      let nodes := nodes ++ textNodes segment.text
      let { kind, name, position, .. } := segment.tag
      match kind with
      | .escaped => assemble ending sections (nodes ++ [.variable name true]) segments
      | .raw => assemble ending sections (nodes ++ [.variable name false]) segments
      | .comment | .setDelimiters => assemble ending sections nodes segments
      | .opening => assemble ending (⟨name, false, position, nodes⟩ :: sections) [] segments
      | .inverted => assemble ending (⟨name, true, position, nodes⟩ :: sections) [] segments
      | .closing =>
          match sections with
          | [] => .error ⟨.unopenedSection name, position⟩
          | innermost :: sections =>
              if innermost.name = name then
                assemble ending sections
                  (innermost.preceding ++ [.block name innermost.inverted nodes]) segments
              else .error ⟨.mismatchedClose innermost.name name, position⟩

end Scaffold.Template
