import Mathlib.Data.List.Forall2
import Scaffold.Proofs.Template.Lines
import Scaffold.Proofs.Template.Nesting
import Scaffold.Template.Render

/-!
# Templates one behind the other

Some finished lines and a text behind them make up one template.  It writes what
the two write one after another, and a fault of the text behind stays the fault
of the whole, as many bytes further on as the lines have.

Only the pieces of text at the seam differ: where the lines end with text and
the other template starts with text, the whole has one node.  So the nodes are
compared by what they write.
-/

namespace Scaffold.Template

/-! ## The delimiters at the end -/

/-- The delimiters in force behind some tokens: those of the last exchange, or
those in front if there is none. -/
def Delimiters.behind (current : Delimiters) : List Token → Delimiters
  | [] => current
  | token :: tokens =>
      let next :=
        if token.kind = .setDelimiters then (ofBody? token.name.toList).getD current else current
      next.behind tokens

variable {delimiters next : Delimiters} {fresh : Bool} {position : Nat}
  {source rest : List Char}

theorem FirstTag.behind_cons {token : Token}
    (first : FirstTag delimiters source token next rest) (tokens : List Token) :
    delimiters.behind (token :: tokens) = next.behind tokens := by
  cases first with
  | intro opened tag inForce =>
      cases inForce with
      | exchanged named =>
          rw [Delimiters.behind, if_pos rfl, String.toList_ofList,
            Delimiters.ofBody?_eq_some_iff.mpr named]
          rfl
      | kept other => rw [Delimiters.behind, if_neg other]

/-- A scan ends with the delimiters of its last exchange. -/
theorem behind_of_scan (valid : delimiters.isValid)
    (ended : (scan delimiters fresh position source).ending = .text rest next) :
    delimiters.behind ((scan delimiters fresh position source).segments.map Segment.token) =
        next ∧
      next.isValid := by
  fun_induction scan delimiters fresh position source with
  | case1 delimiters fresh position source ending endedHere =>
      obtain rfl : ending = .text rest next := ended
      obtain ⟨_, rfl, _⟩ := eq_of_cutSegment_text valid endedHere
      exact ⟨rfl, valid⟩
  | case2 delimiters fresh position source cut found following ih =>
      obtain ⟨skipped, _, first⟩ := firstTag_of_cutSegment valid found
      rw [List.map_cons, first.behind_cons]
      exact ih (first.isValid_next valid) ended

/-! ## What nodes write -/

/-- Two lists of nodes write the same text in all contexts. -/
def SameText (first second : List Node) : Prop :=
  ∀ contexts, renderAll contexts first = renderAll contexts second

theorem SameText.refl (nodes : List Node) : SameText nodes nodes :=
  fun _ => rfl

theorem renderAll_append (contexts : List Json) (first second : List Node) :
    renderAll contexts (first ++ second) =
      renderAll contexts first ++ renderAll contexts second := by
  induction first with
  | nil => simp [renderAll]
  | cons node first ih => rw [List.cons_append, renderAll, renderAll, ih, String.append_assoc]

theorem renderAll_textNodes (contexts : List Json) (text : List Char) :
    renderAll contexts (textNodes text) = String.ofList text := by
  cases text with
  | nil => rfl
  | cons c text => simp [textNodes, renderAll, Node.render]

theorem SameText.append {first second front behind : List Node} (same : SameText first second)
    (sameBehind : SameText front behind) : SameText (first ++ front) (second ++ behind) := by
  intro contexts
  rw [renderAll_append, renderAll_append, same, sameBehind]

/-- A section writes the same if its nodes do. -/
theorem SameText.block {first second : List Node} (same : SameText first second) (name : String)
    (inverted : Bool) :
    SameText [.block name inverted first] [.block name inverted second] := by
  intro contexts
  cases inverted <;> simp only [renderAll, Node.render, same _]

/-- A text may be cut into two nodes. -/
theorem sameText_textNodes_append (front text : List Char) :
    SameText (textNodes (front ++ text)) (textNodes front ++ textNodes text) := by
  intro contexts
  rw [renderAll_append, renderAll_textNodes, renderAll_textNodes, renderAll_textNodes,
    String.ofList_append]

/-- Two open sections differ in the nodes before them only, and those write the
same. -/
structure OpenSection.SameText (first second : OpenSection) : Prop where
  name : first.name = second.name
  inverted : first.inverted = second.inverted
  position : first.position = second.position
  preceding : Template.SameText first.preceding second.preceding

/-- Two outcomes are the same error, or lists of nodes that write the same. -/
def SameOutcome : Except Error (List Node) → Except Error (List Node) → Prop
  | .ok first, .ok second => SameText first second
  | .error first, .error second => first = second
  | _, _ => False

theorem SameOutcome.eq_error {outcome : Except Error (List Node)} {error : Error}
    (same : SameOutcome outcome (.error error)) : outcome = .error error := by
  cases outcome with
  | error other => exact congrArg Except.error same
  | ok nodes => cases same

theorem SameOutcome.exists_eq_ok {outcome : Except Error (List Node)} {nodes : List Node}
    (same : SameOutcome outcome (.ok nodes)) :
    ∃ others, outcome = .ok others ∧ SameText others nodes := by
  cases outcome with
  | error error => cases same
  | ok others => exact ⟨others, rfl, same⟩

theorem SameOutcome.symm {first second : Except Error (List Node)}
    (same : SameOutcome first second) : SameOutcome second first := by
  cases first with
  | error error =>
      cases second with
      | error other => exact Eq.symm same
      | ok nodes => cases same
  | ok nodes =>
      cases second with
      | error error => cases same
      | ok others => exact fun contexts => (same contexts).symm

/-- Nodes that write the same are folded into nodes that write the same. -/
theorem assemble_congr (ending : Ending) (segments : List Segment)
    {sections others : List OpenSection} {nodes otherNodes : List Node}
    (sameSections : List.Forall₂ OpenSection.SameText sections others)
    (same : SameText nodes otherNodes) :
    SameOutcome (assemble ending sections nodes segments)
      (assemble ending others otherNodes segments) := by
  induction segments generalizing sections others nodes otherNodes with
  | nil =>
      cases ending with
      | fault error => exact rfl
      | text rest inForce =>
          cases sameSections with
          | nil => exact same.append (.refl _)
          | cons sameInnermost _ =>
              simp only [assemble, SameOutcome, sameInnermost.name, sameInnermost.position]
  | cons segment segments ih =>
      obtain ⟨text, lead, ⟨kind, name, source, position⟩, trail⟩ := segment
      have sameText : SameText (nodes ++ textNodes text) (otherNodes ++ textNodes text) :=
        same.append (.refl _)
      cases kind with
      | escaped | raw => exact ih sameSections (sameText.append (.refl _))
      | comment | setDelimiters => exact ih sameSections sameText
      | opening | inverted => exact ih (.cons ⟨rfl, rfl, rfl, sameText⟩ sameSections) (.refl _)
      | closing =>
          cases sameSections with
          | nil => exact rfl
          | cons sameInnermost sameOuter =>
              simp only [assemble, sameInnermost.name, sameInnermost.inverted]
              split
              · exact ih sameOuter (sameInnermost.preceding.append (sameText.block _ _))
              · exact rfl

/-! ## Folding in two steps -/

/-- Finished nodes in front of the outermost ones: of the innermost section, if
none is open, and otherwise of the nodes that precede the outermost section. -/
def outermost (front : List Node) : List OpenSection → List Node → List OpenSection × List Node
  | [], nodes => ([], front ++ nodes)
  | innermost :: sections, nodes =>
      let outer := outermost front sections innermost.preceding
      ({ innermost with preceding := outer.2 } :: outer.1, nodes)

theorem outermost_append (front : List Node) (sections : List OpenSection)
    (nodes more : List Node) :
    outermost front sections (nodes ++ more) =
      ((outermost front sections nodes).1, (outermost front sections nodes).2 ++ more) := by
  cases sections with
  | nil => simp [outermost]
  | cons innermost sections => rfl

/-- Finished nodes stay in front of all others. -/
theorem assemble_outermost (front : List Node) (ending : Ending) (sections : List OpenSection)
    (nodes : List Node) (segments : List Segment) :
    assemble ending (outermost front sections nodes).1 (outermost front sections nodes).2
        segments =
      (assemble ending sections nodes segments).map (front ++ ·) := by
  induction segments generalizing sections nodes with
  | nil =>
      cases ending with
      | fault error => rfl
      | text rest inForce =>
          cases sections with
          | nil => simp [outermost, assemble, Except.map]
          | cons innermost sections => rfl
  | cons segment segments ih =>
      obtain ⟨text, lead, ⟨kind, name, source, position⟩, trail⟩ := segment
      have pushed (more : List Node) :
          outermost front sections (nodes ++ textNodes text ++ more) =
            ((outermost front sections nodes).1,
              (outermost front sections nodes).2 ++ textNodes text ++ more) := by
        rw [List.append_assoc, outermost_append, List.append_assoc]
      cases kind with
      | escaped =>
          have folded := ih sections (nodes ++ textNodes text ++ [.variable name true])
          rw [pushed] at folded
          exact folded
      | raw =>
          have folded := ih sections (nodes ++ textNodes text ++ [.variable name false])
          rw [pushed] at folded
          exact folded
      | comment | setDelimiters =>
          have folded := ih sections (nodes ++ textNodes text)
          rw [outermost_append] at folded
          exact folded
      | opening =>
          have folded := ih (⟨name, false, position, nodes ++ textNodes text⟩ :: sections) []
          simp only [outermost, outermost_append] at folded
          exact folded
      | inverted =>
          have folded := ih (⟨name, true, position, nodes ++ textNodes text⟩ :: sections) []
          simp only [outermost, outermost_append] at folded
          exact folded
      | closing =>
          cases sections with
          | nil => rfl
          | cons innermost sections =>
              by_cases same : innermost.name = name
              · simp only [outermost, assemble, same, if_true]
                rw [← ih, outermost_append]
              · simp only [outermost, assemble, same, if_false]
                rfl

/-- Segments at the start of a template leave sections open and nodes behind,
whatever follows them. -/
theorem exists_assemble_append {ending : Ending} {sections : List OpenSection}
    {nodes forest : List Node} {segments more : List Segment}
    (assembled : assemble ending sections nodes (segments ++ more) = .ok forest) :
    ∃ stillOpen finished, ∀ ending more, assemble ending sections nodes (segments ++ more) =
      assemble ending stillOpen finished more := by
  induction segments generalizing sections nodes with
  | nil => exact ⟨sections, nodes, fun _ _ => rfl⟩
  | cons segment segments ih =>
      obtain ⟨text, lead, ⟨kind, name, source, position⟩, trail⟩ := segment
      cases kind with
      | escaped | raw | comment | setDelimiters | opening | inverted => exact ih assembled
      | closing =>
          cases sections with
          | nil => cases assembled
          | cons innermost sections =>
              by_cases same : innermost.name = name
              · simp only [List.cons_append, assemble, same, if_true] at assembled ⊢
                exact ih assembled
              · simp [assemble, same] at assembled

/-- The segments of a text that is a template fold into its nodes, and what
follows them is folded behind these nodes.  The text behind the last segment is
a node of the template only. -/
theorem assemble_append {rest : List Char} {inForce : Delimiters} {sections : List OpenSection}
    {nodes forest : List Node} {segments : List Segment}
    (assembled : assemble (.text rest inForce) sections nodes segments = .ok forest) :
    ∃ finished, forest = finished ++ textNodes rest ∧
      ∀ ending more, assemble ending sections nodes (segments ++ more) =
        assemble ending [] finished more := by
  rw [← List.append_nil segments] at assembled
  obtain ⟨stillOpen, finished, behind⟩ := exists_assemble_append assembled
  rw [behind] at assembled
  cases stillOpen with
  | nil =>
      cases assembled
      exact ⟨finished, rfl, behind⟩
  | cons innermost sections => cases assembled

/-- The text of a segment may be a node beforehand. -/
theorem assemble_cons_eq (ending : Ending) (sections : List OpenSection) (nodes : List Node)
    (segment : Segment) (segments : List Segment) :
    assemble ending sections nodes (segment :: segments) =
      assemble ending sections (nodes ++ textNodes segment.text)
        ({ segment with text := [] } :: segments) := by
  obtain ⟨text, lead, ⟨kind, name, source, position⟩, trail⟩ := segment
  cases kind <;> simp [assemble, textNodes]

/-- A text in front of a scan may be a node of its own. -/
theorem assemble_prepend (front : List Char) (scan : Scan) (sections : List OpenSection)
    (nodes : List Node) :
    SameOutcome
      (assemble (scan.prepend front).ending sections nodes (scan.prepend front).segments)
      (assemble scan.ending sections (nodes ++ textNodes front) scan.segments) := by
  obtain ⟨segments, ending⟩ := scan
  have cutText (text : List Char) :
      SameText (nodes ++ textNodes (front ++ text))
        (nodes ++ textNodes front ++ textNodes text) := by
    rw [List.append_assoc]
    exact (SameText.refl nodes).append (sameText_textNodes_append front text)
  cases segments with
  | nil =>
      cases ending with
      | text rest inForce =>
          cases sections with
          | nil => exact cutText rest
          | cons innermost sections => exact rfl
      | fault error => exact rfl
  | cons segment segments =>
      simp only [Scan.prepend]
      rw [assemble_cons_eq, assemble_cons_eq ending sections (nodes ++ textNodes front)]
      have sameSections : List.Forall₂ OpenSection.SameText sections sections :=
        List.forall₂_same.mpr fun _ _ => ⟨rfl, rfl, rfl, .refl _⟩
      exact assemble_congr ending _ sameSections (cutText segment.text)

/-! ## Templates -/

/-- The nodes of some lines and of what follows them write what the nodes of
both write, and a fault of what follows stays the same. -/
theorem parseFrom_append (valid : delimiters.isValid) (aligned : Aligned fresh source)
    (ended : (scan delimiters fresh position source).ending = .text rest next)
    {nodes : List Node} (parsed : parseFrom delimiters fresh position source = .ok nodes)
    (more : List Char) :
    SameOutcome (parseFrom delimiters fresh position (source ++ more))
      ((parseFrom next true (position + Text.byteLength source) more).map (nodes ++ ·)) := by
  unfold parseFrom at parsed ⊢
  dsimp only at parsed ⊢
  rw [ended] at parsed
  obtain ⟨finished, rfl, behind⟩ := assemble_append parsed
  have framed := assemble_outermost (finished ++ textNodes rest)
    (scan next true (position + Text.byteLength source) more).ending [] []
    (scan next true (position + Text.byteLength source) more).segments
  rw [outermost, List.append_nil] at framed
  rw [scan_append valid aligned ended, behind, ← framed]
  exact assemble_prepend rest _ [] finished

/-- If some lines are a template, the lines and a text behind them are a
template exactly if the text is one under the delimiters in force at the end of
the lines.  The whole then writes what both write one after another.  Otherwise
its fault is that of the text, as many bytes further on as the lines have. -/
theorem parse_append_lines (delimiters : Delimiters) (lines rest : String)
    (aligned : lines = "" ∨ ∃ text, lines = text ++ "\n") (first : Template)
    (parsed : parse delimiters lines = .ok first) :
    ∃ tokens, Tokens delimiters lines.toList tokens ∧
      (∀ second, parse (delimiters.behind tokens) rest = .ok second →
        ∃ whole, parse delimiters (lines ++ rest) = .ok whole ∧
          ∀ view, whole.render view = first.render view ++ second.render view) ∧
      ∀ error, parse (delimiters.behind tokens) rest = .error error →
        parse delimiters (lines ++ rest) =
          .error ⟨error.fault, error.position + lines.utf8ByteSize⟩ := by
  have valid := isValid_of_parse parsed
  have alignedList : Aligned true lines.toList := by
    rcases aligned with rfl | ⟨text, rfl⟩
    · exact .inl ⟨rfl, rfl⟩
    · exact .inr (by simp [EndsLine])
  rw [parse_of_isValid valid] at parsed
  cases parsedFrom : parseFrom delimiters true 0 lines.toList with
  | error error => simp [parsedFrom, Except.map] at parsed
  | ok nodes =>
      rw [parsedFrom] at parsed
      cases parsed
      have readable := (exists_assemble_eq_ok_iff _ [] [] _).mp ⟨nodes, parsedFrom⟩
      obtain ⟨⟨unfinished, inForce, ended⟩, _⟩ := readable
      obtain ⟨behind_eq, inForceValid⟩ := behind_of_scan valid ended
      have read := (tokens_iff_scan valid true 0 lines.toList _).mpr ⟨⟨_, _, ended⟩, rfl⟩
      have outcome := parseFrom_append valid alignedList ended parsedFrom rest.toList
      rw [parseFrom_add, Text.byteLength_toList] at outcome
      refine ⟨_, read, ?_⟩
      rw [behind_eq, parse_of_isValid inForceValid, parse_of_isValid valid, String.toList_append]
      cases following : parseFrom inForce true 0 rest.toList with
      | error error =>
          rw [following] at outcome
          constructor
          · intro second parsedRest
            cases parsedRest
          · intro error unparsed
            cases unparsed
            rw [outcome.eq_error]
            rfl
      | ok restNodes =>
          rw [following] at outcome
          constructor
          · intro second parsedRest
            cases parsedRest
            obtain ⟨wholeNodes, whole, same⟩ := outcome.exists_eq_ok
            rw [whole]
            refine ⟨⟨wholeNodes⟩, rfl, fun view => ?_⟩
            exact (same [view]).trans (renderAll_append [view] nodes restNodes)
          · intro error unparsed
            cases unparsed

/-- A line of text with a tag, and a line that exchanges the delimiters. -/
def greeting : String :=
  "Hi \x7b\x7bname\x7d\x7d,\n  \x7b\x7b=<% %>=\x7d\x7d\n"

/-- Its template. -/
def greetingTemplate : Template :=
  ⟨[.text "Hi ", .variable "name" true, .text ",\n"]⟩

/-- What follows the greeting is read with the delimiters that it sets, and a
section that stays open is reported where it opens. -/
theorem greeting_parse_append :
    parse .standard greeting = .ok greetingTemplate ∧
      (∃ whole, parse .standard (greeting ++ "bye <%name%>") = .ok whole ∧
        ∀ view, whole.render view =
          greetingTemplate.render view ++ render ⟨[.text "bye ", .variable "name" true]⟩ view) ∧
      parse .standard (greeting ++ "bye <%#name%>") = .error ⟨.unclosedSection "name", 31⟩ := by
  have aligned : greeting = "" ∨ ∃ text, greeting = text ++ "\n" :=
    .inr ⟨"Hi \x7b\x7bname\x7d\x7d,\n  \x7b\x7b=<% %>=\x7d\x7d", rfl⟩
  have parsed : parse .standard greeting = .ok greetingTemplate := by
    with_unfolding_all rfl
  have scanned : (scan .standard true 0 greeting.toList).segments.map Segment.token =
      [⟨.escaped, "name"⟩, ⟨.setDelimiters, "<% %>"⟩] := by
    decide +kernel
  -- Both texts behind the greeting are read with the delimiters that it sets.
  have inForce {tokens : List Token} (read : Tokens .standard greeting.toList tokens) :
      Delimiters.standard.behind tokens = ⟨"<%", "%>"⟩ := by
    have tokens_eq := ((tokens_iff_scan Delimiters.isValid_standard true 0 _ _).mp read).2
    rw [← tokens_eq, scanned]
    rfl
  refine ⟨parsed, ?_, ?_⟩
  · obtain ⟨tokens, read, combined, _⟩ :=
      parse_append_lines .standard greeting "bye <%name%>" aligned greetingTemplate parsed
    rw [inForce read] at combined
    exact combined _ (by with_unfolding_all rfl)
  · obtain ⟨tokens, read, _, shifted⟩ :=
      parse_append_lines .standard greeting "bye <%#name%>" aligned greetingTemplate parsed
    rw [inForce read] at shifted
    exact shifted ⟨.unclosedSection "name", 4⟩ (by with_unfolding_all rfl)

end Scaffold.Template
