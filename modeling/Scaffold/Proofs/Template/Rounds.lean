import Scaffold.Proofs.Template.Offsets

/-!
# Templates round by round

The reader of templates that keeps the text as a whole has a cursor in it.  In
each round it looks for the next tag from there, keeps the text before the tag
as a slice, and moves the cursor behind the tag.

A round can be stuck, and nothing in the reader bounds the number of rounds.  As
long as the delimiters in force are valid and the cursor stands between two
characters, a round does what the scan does with the next segment.  So it is not
stuck, it moves the cursor, and it keeps to these conditions.
-/

namespace Scaffold.Template

/-! ## The reader -/

/-- What the reader knows between two rounds. -/
structure Reader where
  /-- The place up to which the text is read. -/
  cursor : Nat
  inForce : Delimiters
  /-- The nodes of the innermost open section. -/
  nodes : List Node
  sections : List OpenSection
deriving Repr

/-- The reader of a text that starts with the given delimiters. -/
def Reader.initial (delimiters : Delimiters) : Reader :=
  ⟨0, delimiters, [], []⟩

/-- What stands ahead of the cursor. -/
inductive Finding where
  | noTag
  /-- A tag that cannot be read. -/
  | unreadable (error : Error)
  | round (round : Round)
deriving DecidableEq, Repr

/-- What a round leads to. -/
inductive Outcome where
  | goesOn (reader : Reader)
  | ends (result : Except Error (List Node))

/-- Looks for the next tag. -/
def Reader.find? (reader : Reader) (source : List Char) : Option Finding := do
  let ahead ← Text.sliceFrom? source reader.cursor
  match Text.offsetOf? reader.inForce.opening.toList ahead with
  | none => return .noTag
  | some offset =>
      match ← readTagAt? source reader.inForce (reader.cursor + offset) with
      | .error error => return .unreadable error
      | .ok tag => return .round (← dropMargins? source reader.cursor tag)

/-- The node of the text between two places, if there is any. -/
def textNodes? (source : List Char) (start stop : Nat) : Option (List Node) :=
  if start < stop then
    (Text.slice? source start stop).map fun text => [.text (String.ofList text)]
  else
    some []

/-- Adds a tag to the nodes and sections. -/
def Reader.take (reader : Reader) (kind : TagKind) (name : String) (position : Nat) : Outcome :=
  match kind with
  | .escaped => .goesOn { reader with nodes := reader.nodes ++ [.variable name true] }
  | .raw => .goesOn { reader with nodes := reader.nodes ++ [.variable name false] }
  | .comment | .setDelimiters => .goesOn reader
  | .opening =>
      let opened : OpenSection := ⟨name, false, position, reader.nodes⟩
      .goesOn { reader with nodes := [], sections := opened :: reader.sections }
  | .inverted =>
      let opened : OpenSection := ⟨name, true, position, reader.nodes⟩
      .goesOn { reader with nodes := [], sections := opened :: reader.sections }
  | .closing =>
      match reader.sections with
      | [] => .ends (.error ⟨.unopenedSection name, position⟩)
      | innermost :: sections =>
          if innermost.name = name then
            let closed := .block name innermost.inverted reader.nodes
            .goesOn { reader with nodes := innermost.preceding ++ [closed], sections }
          else .ends (.error ⟨.mismatchedClose innermost.name name, position⟩)

/-- Takes in what a round has found, behind the text before it. -/
def Reader.accept (reader : Reader) (round : Round) (text : List Node) : Outcome :=
  let { kind, name, start, .. } := round.tag
  let exchanged := if kind = .setDelimiters then Delimiters.ofBody? name else some reader.inForce
  match exchanged with
  | none => .ends (.error ⟨.invalidSetDelimiters (String.ofList name), start⟩)
  | some inForce =>
      let behind : Reader := ⟨round.next, inForce, reader.nodes ++ text, reader.sections⟩
      behind.take kind (String.ofList name) start

/-- One round of the reader.  There is none if it is stuck. -/
def Reader.turn? (reader : Reader) (source : List Char) : Option Outcome := do
  match ← reader.find? source with
  | .noTag =>
      match reader.sections with
      | innermost :: _ =>
          return .ends (.error ⟨.unclosedSection innermost.name, innermost.position⟩)
      | [] =>
          let text ← textNodes? source reader.cursor (Text.byteLength source)
          return .ends (.ok (reader.nodes ++ text))
  | .unreadable error => return .ends (.error error)
  | .round round =>
      let text ← textNodes? source reader.cursor round.textEnd
      return reader.accept round text

/-- A reader goes through some rounds one after the other and ends with a
result.  Listed is what it knows before each round. -/
inductive Run (source : List Char) : Reader → List Reader → Except Error (List Node) → Prop where
  | last {reader : Reader} {result : Except Error (List Node)}
      (ended : reader.turn? source = some (.ends result)) : Run source reader [reader] result
  | turn {reader next : Reader} {readers : List Reader} {result : Except Error (List Node)}
      (went : reader.turn? source = some (.goesOn next)) (behind : Run source next readers result) :
      Run source reader (reader :: readers) result

/-! ## What a round finds -/

variable {source front rest : List Char} {fresh : Bool} {reader next : Reader}

/-- The reader has its cursor between the texts `front` and `rest`, and valid
delimiters.  As in the scan, `fresh` tells whether a line starts there. -/
structure Reader.StandsBetween (reader : Reader) (source front rest : List Char) (fresh : Bool) :
    Prop where
  whole : source = front ++ rest
  cursor : reader.cursor = Text.byteLength front
  valid : reader.inForce.isValid
  line : rest = [] ∨ LineState fresh front

/-- What there is to be found between the texts `front` and `rest`. -/
inductive Finds (inForce : Delimiters) (fresh : Bool) (front rest : List Char) : Finding → Prop where
  | noTag (untagged : ¬inForce.opening.toList <:+: rest) : Finds inForce fresh front rest .noTag
  | unreadable {before content : List Char} {fault : Fault}
      (opened : Text.FirstOccurrence inForce.opening.toList rest before content)
      (unread : readTag inForce content = .error fault) :
      Finds inForce fresh front rest (.unreadable ⟨fault, Text.byteLength (front ++ before)⟩)
  | round {before written behind name : List Char} {kind : TagKind}
      (opened : Text.FirstOccurrence inForce.opening.toList rest before (written ++ behind))
      (read : IsTag inForce (written ++ behind) kind name behind) :
      Finds inForce fresh front rest
        (.round (.ofMargins front
          ⟨kind, name, Text.byteLength (front ++ before),
            Text.byteLength (front ++ before ++ (inForce.opening.toList ++ written))⟩
          (margins kind fresh before behind)))

/-- A round finds what there is. -/
theorem Reader.StandsBetween.exists_find?
    (stands : reader.StandsBetween source front rest fresh) :
    ∃ finding, reader.find? source = some finding ∧
      Finds reader.inForce fresh front rest finding := by
  obtain ⟨rfl, cursor_eq, valid, line⟩ := stands
  have openingNonempty := Delimiters.opening_ne_nil valid
  simp only [Reader.find?, cursor_eq, Text.sliceFrom?_append, Option.bind_eq_bind,
    Option.bind_some, Text.offsetOf?_eq_map openingNonempty]
  cases around : Text.cutAround? reader.inForce.opening.toList rest with
  | none =>
      have untagged := (Text.cutAround?_eq_none_iff openingNonempty).mp around
      exact ⟨.noTag, rfl, .noTag untagged⟩
  | some pieces =>
      obtain ⟨before, content⟩ := pieces
      have opened := (Text.cutAround?_eq_some_iff openingNonempty).mp around
      have whole : front ++ rest = front ++ before ++ reader.inForce.opening.toList ++ content := by
        simp [opened.1]
      simp only [Option.map_some, ← Text.byteLength_append, readTagAt?_eq valid whole,
        Option.bind_some]
      cases read : readTag reader.inForce content with
      | error fault => exact ⟨_, rfl, .unreadable opened read⟩
      | ok reading =>
          obtain ⟨kind, name, behind⟩ := reading
          have tag := (readTag_eq_ok_iff valid).mp read
          obtain ⟨inside, content_eq⟩ := tag.exists_eq_append
          have nonempty : rest ≠ [] := opened.text_ne_nil openingNonempty
          have stop_eq : Text.byteLength (front ++ rest) - Text.byteLength behind =
              Text.byteLength (front ++ before ++ (reader.inForce.opening.toList ++
                (inside ++ reader.inForce.closing.toList))) := by
            rw [whole, content_eq]
            simp only [Text.byteLength_append]
            omega
          have whole' : front ++ rest = front ++ before ++ (reader.inForce.opening.toList ++
              (inside ++ reader.inForce.closing.toList)) ++ behind := by
            rw [whole, content_eq]
            simp
          rw [content_eq] at opened tag
          refine ⟨_, ?_, .round opened tag⟩
          dsimp only
          rw [stop_eq, dropMargins?_eq (line.resolve_left nonempty) whole' rfl rfl]
          rfl

/-! ## What a round does -/

theorem textNodes?_append (front text rest : List Char) :
    textNodes? (front ++ text ++ rest) (Text.byteLength front) (Text.byteLength (front ++ text)) =
      some (textNodes text) := by
  rw [textNodes?, Text.slice?_append, textNodes]
  by_cases empty : text = []
  · rw [if_neg (by simp [empty]), if_pos (by simp [empty])]
  · have positive := Text.byteLength_pos empty
    rw [if_pos (by rw [Text.byteLength_append]; omega), if_neg (by simpa using empty)]
    rfl

/-- What the next segment of the scan leads to: its tag is taken in behind it, or
the nodes end as the text does. -/
def Reader.follow (reader : Reader) : Except Ending Cut → Outcome
  | .error ending => .ends (assemble ending reader.sections reader.nodes [])
  | .ok cut =>
      let behind : Reader :=
        ⟨cut.position, cut.inForce, reader.nodes ++ textNodes cut.segment.text, reader.sections⟩
      behind.take cut.segment.tag.kind cut.segment.tag.name cut.segment.tag.position

namespace Reader.StandsBetween

/-- Text ahead of the cursor is found between its places. -/
theorem textNodes?_eq (stands : reader.StandsBetween source front rest fresh)
    {text lead before behind : List Char} (split : text ++ lead = before)
    (rest_eq : rest = before ++ behind) :
    textNodes? source reader.cursor (Text.byteLength (front ++ text)) = some (textNodes text) := by
  have found := textNodes?_append front text (lead ++ behind)
  rw [List.append_assoc, ← List.append_assoc text, split, ← rest_eq, ← stands.whole,
    ← stands.cursor] at found
  exact found

/-- Accepting a tag does what the scan does with the segment of the tag. -/
theorem exists_accept_eq (stands : reader.StandsBetween source front rest fresh)
    {before written behind name : List Char} {kind : TagKind}
    (opened : Text.FirstOccurrence reader.inForce.opening.toList rest before (written ++ behind))
    (read : IsTag reader.inForce (written ++ behind) kind name behind) {round : Round}
    (round_eq : round = .ofMargins front
      ⟨kind, name, Text.byteLength (front ++ before),
        Text.byteLength (front ++ before ++ (reader.inForce.opening.toList ++ written))⟩
      (margins kind fresh before behind)) :
    ∃ nodes, textNodes? source reader.cursor round.textEnd = some nodes ∧
      reader.accept round nodes =
        reader.follow (cutSegment reader.inForce fresh reader.cursor rest) := by
  have openingNonempty := Delimiters.opening_ne_nil stands.valid
  have rest_eq : rest = before ++ (reader.inForce.opening.toList ++ (written ++ behind)) := by
    rw [opened.1, List.append_assoc]
  have start_eq : reader.cursor + Text.byteLength before = Text.byteLength (front ++ before) := by
    rw [stands.cursor, Text.byteLength_append]
  cases exchanged : (if kind = .setDelimiters then Delimiters.ofBody? name
      else some reader.inForce) with
  | none =>
      have ended : cutSegment reader.inForce fresh reader.cursor rest =
          .error (.fault ⟨.invalidSetDelimiters (String.ofList name),
            Text.byteLength (front ++ before)⟩) := by
        rw [cutSegment, (Text.cutAround?_eq_some_iff openingNonempty).mpr opened]
        simp only [(readTag_eq_ok_iff stands.valid).mpr read, exchanged, start_eq]
      obtain ⟨text, lead, split, textEnd_eq⟩ : ∃ text lead, text ++ lead = before ∧
          round.textEnd = Text.byteLength (front ++ text) := by
        rw [round_eq]
        exact Round.exists_textEnd_ofMargins rfl
      refine ⟨textNodes text, textEnd_eq ▸ stands.textNodes?_eq split rest_eq, ?_⟩
      simp only [ended, round_eq, Reader.accept, Round.tag_ofMargins, exchanged]
      rfl
  | some next =>
      have found := (cutSegment_eq_ok_iff stands.valid fresh reader.cursor).mpr
        ⟨before, written, behind, kind, name, next, opened, read,
          inForceBehind_iff.mp exchanged, rfl⟩
      rw [found, start_eq, ← Text.byteLength_append, cutBehind]
      dsimp only
      cases atMargins : margins kind fresh before behind with
      | none =>
          rw [atMargins] at round_eq
          refine ⟨textNodes before, ?_, ?_⟩
          · rw [round_eq]
            exact stands.textNodes?_eq (List.append_nil before) rest_eq
          · simp only [round_eq, Reader.accept, Round.tag_ofMargins, exchanged]
            rfl
      | some pieces =>
          obtain ⟨text, lead, trail, after⟩ := pieces
          rw [atMargins] at round_eq
          refine ⟨textNodes text, ?_, ?_⟩
          · rw [round_eq]
            exact stands.textNodes?_eq (text_append_lead_of_margins atMargins) rest_eq
          · simp only [round_eq, Reader.accept, Round.tag_ofMargins, exchanged]
            rfl

/-- A round does what the scan does with the next segment. -/
theorem turn?_eq (stands : reader.StandsBetween source front rest fresh) :
    reader.turn? source =
      some (reader.follow (cutSegment reader.inForce fresh reader.cursor rest)) := by
  have openingNonempty := Delimiters.opening_ne_nil stands.valid
  obtain ⟨finding, found, finds⟩ := stands.exists_find?
  rw [Reader.turn?, found, Option.bind_eq_bind, Option.bind_some]
  cases finds with
  | noTag untagged =>
      rw [cutSegment, (Text.cutAround?_eq_none_iff openingNonempty).mpr untagged, Reader.follow]
      cases reader.sections with
      | cons innermost sections => rfl
      | nil =>
          have last := stands.textNodes?_eq (List.append_nil rest) (List.append_nil rest).symm
          rw [← stands.whole] at last
          simp only [last]
          rfl
  | unreadable opened unread =>
      rw [cutSegment, (Text.cutAround?_eq_some_iff openingNonempty).mpr opened]
      simp only [unread, stands.cursor, Text.byteLength_append]
      rfl
  | round opened read =>
      obtain ⟨nodes, text, accepted⟩ := stands.exists_accept_eq opened read rfl
      dsimp only
      rw [text, ← accepted]
      rfl

end Reader.StandsBetween

/-- Between the bytes of a character there is nothing to read. -/
example : ((⟨1, .standard, [], []⟩ : Reader).turn? ['é']).isNone := by
  decide

end Scaffold.Template
