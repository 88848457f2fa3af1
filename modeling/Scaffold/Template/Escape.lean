/-!
# Escaping for markup

Characters with a meaning in markup are written as entities, so that no value
can open a tag, close an attribute or start an expression.
-/

namespace Scaffold.Template

/-- A character as it stands in markup. -/
def escapeChar (c : Char) : List Char :=
  match c with
  | '&' => ['&', 'a', 'm', 'p', ';']
  | '<' => ['&', 'l', 't', ';']
  | '>' => ['&', 'g', 't', ';']
  | '\x22' => ['&', 'q', 'u', 'o', 't', ';']
  | '\x27' => ['&', '#', '3', '9', ';']
  | '/' => ['&', '#', 'x', '2', 'F', ';']
  | '\x60' => ['&', '#', 'x', '6', '0', ';']
  | '=' => ['&', '#', 'x', '3', 'D', ';']
  | _ => [c]

/-- A text as it stands in markup. -/
def escape (text : String) : String :=
  String.ofList (text.toList.flatMap escapeChar)

end Scaffold.Template
