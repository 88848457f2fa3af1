import Scaffold.Proofs.Template.Rounds
import Scaffold.Proofs.Template.Shift

/-!
# Progress in a template

The reader that takes slices of a template by their places reads every text to
its end, and what it makes of the text is the template.  Each round moves the
cursor forward and leaves it at a place of the text, so there are at most as many
rounds as there are places, and every slice is there.

If there is no template, the error is at the tag that is to blame.  For a section
that is left open, the cursor has moved on from this tag long before the error is
found.  What leads back to the tag are the sections that are open in between.
-/

namespace Scaffold.Template

variable {source front rest : List Char} {fresh : Bool} {reader next : Reader}

/-! ## One tag -/

/-- What taking a tag in can lead to. -/
inductive Reader.Takes (reader : Reader) (kind : TagKind) (name : String) (position : Nat) :
    Outcome → Prop where
  | inside (nodes : List Node) : Takes reader kind name position (.goesOn { reader with nodes })
  | opened {inverted : Bool} (opens : kind.opensSection) :
      Takes reader kind name position
        (.goesOn { reader with
          nodes := []
          sections := ⟨name, inverted, position, reader.nodes⟩ :: reader.sections })
  | closed {innermost : OpenSection} {sections : List OpenSection} (nodes : List Node)
      (closes : reader.sections = innermost :: sections) :
      Takes reader kind name position (.goesOn { reader with nodes, sections })
  | refused {fault : Fault} (other : ∀ name, fault ≠ .unclosedSection name) :
      Takes reader kind name position (.ends (.error ⟨fault, position⟩))

theorem Reader.takes_take (reader : Reader) (kind : TagKind) (name : String) (position : Nat) :
    reader.Takes kind name position (reader.take kind name position) := by
  cases kind with
  | escaped | raw | comment | setDelimiters => exact .inside _
  | opening | inverted => exact .opened rfl
  | closing =>
      rw [Reader.take]
      cases closes : reader.sections with
      | nil => exact .refused (by simp)
      | cons innermost sections =>
          dsimp only
          split
          · exact .closed _ closes
          · exact .refused (by simp)

/-- Taking a tag in does not move the reader. -/
theorem Reader.eq_of_take_goesOn {kind : TagKind} {name : String} {position : Nat}
    (taken : reader.take kind name position = .goesOn next) :
    next.cursor = reader.cursor ∧ next.inForce = reader.inForce := by
  have takes := reader.takes_take kind name position
  rw [taken] at takes
  cases takes <;> exact ⟨rfl, rfl⟩

/-- The nodes take a segment in as the reader does, wherever it is. -/
theorem assemble_cons_eq_take (ending : Ending) (sections : List OpenSection) (nodes : List Node)
    (segment : Segment) (segments : List Segment) (cursor : Nat) (inForce : Delimiters) :
    assemble ending sections nodes (segment :: segments) =
      match Reader.take ⟨cursor, inForce, nodes ++ textNodes segment.text, sections⟩
          segment.tag.kind segment.tag.name segment.tag.position with
      | .goesOn next => assemble ending next.sections next.nodes segments
      | .ends result => result := by
  obtain ⟨text, lead, ⟨kind, name, source, position⟩, trail⟩ := segment
  cases kind with
  | escaped | raw | comment | setDelimiters | opening | inverted => rfl
  | closing =>
      rw [assemble, Reader.take]
      cases sections with
      | nil => rfl
      | cons innermost sections =>
          dsimp only
          split <;> rfl

/-! ## One round -/

/-- A round that goes on moves the cursor forward, to a place where the reader
stands as well. -/
theorem Reader.StandsBetween.behind_cut (stands : reader.StandsBetween source front rest fresh)
    {cut : Cut} (found : cutSegment reader.inForce fresh reader.cursor rest = .ok cut)
    (cursor_eq : next.cursor = cut.position) (inForce_eq : next.inForce = cut.inForce) :
    reader.cursor < next.cursor ∧
      next.StandsBetween source (front ++ cut.segment.written) cut.rest cut.fresh := by
  obtain ⟨whole, place, valid, line⟩ := stands
  have shorter := length_lt_of_cutSegment found
  have nonempty : rest ≠ [] := by
    rintro rfl
    cases shorter
  have counted := position_of_cutSegment valid found
  rw [place] at found
  obtain ⟨rest_eq, _, lineBehind⟩ :=
    standsBetween_of_cutSegment valid (line.resolve_left nonempty) found
  obtain ⟨skipped, _, first⟩ := firstTag_of_cutSegment valid found
  have writtenNonempty : cut.segment.written ≠ [] := by
    intro empty
    rw [rest_eq, empty] at shorter
    exact Nat.lt_irrefl _ shorter
  have positive := Text.byteLength_pos writtenNonempty
  have rest_size := congrArg Text.byteLength rest_eq
  rw [Text.byteLength_append] at rest_size
  refine ⟨by omega, ?_, ?_, ?_, lineBehind⟩
  · rw [whole, List.append_assoc, ← rest_eq]
  · rw [Text.byteLength_append]
    omega
  · rw [inForce_eq]
    exact first.isValid_next valid

theorem Reader.StandsBetween.advances (stands : reader.StandsBetween source front rest fresh)
    (went : reader.turn? source = some (.goesOn next)) :
    reader.cursor < next.cursor ∧ ∃ front rest fresh, next.StandsBetween source front rest fresh := by
  rw [stands.turn?_eq, Option.some.injEq] at went
  cases segment : cutSegment reader.inForce fresh reader.cursor rest with
  | error ending =>
      rw [segment] at went
      cases went
  | ok cut =>
      rw [segment, Reader.follow] at went
      obtain ⟨cursor_eq, inForce_eq⟩ := Reader.eq_of_take_goesOn went
      obtain ⟨forward, standsBehind⟩ := stands.behind_cut segment cursor_eq inForce_eq
      exact ⟨forward, _, _, _, standsBehind⟩

/-! ## All rounds -/

/-- The reader comes to an end without being stuck, with the nodes of the
scan. -/
theorem Reader.StandsBetween.exists_run (stands : reader.StandsBetween source front rest fresh) :
    let scan := scan reader.inForce fresh reader.cursor rest
    ∃ readers, Run source reader readers
      (assemble scan.ending reader.sections reader.nodes scan.segments) := by
  -- Each round leaves less to read.
  generalize left : rest.length = length
  induction length using Nat.strong_induction_on generalizing reader front rest fresh with
  | h length ih =>
      have turn_eq := stands.turn?_eq
      cases segment : cutSegment reader.inForce fresh reader.cursor rest with
      | error ending =>
          rw [segment] at turn_eq
          rw [scan_of_cutSegment_error segment]
          exact ⟨[reader], .last turn_eq⟩
      | ok cut =>
          rw [segment, Reader.follow] at turn_eq
          rw [scan_of_cutSegment_ok segment]
          dsimp only at turn_eq ⊢
          rw [assemble_cons_eq_take _ _ _ _ _ cut.position cut.inForce]
          cases taken : Reader.take ⟨cut.position, cut.inForce,
              reader.nodes ++ textNodes cut.segment.text, reader.sections⟩
              cut.segment.tag.kind cut.segment.tag.name cut.segment.tag.position with
          | ends result =>
              rw [taken] at turn_eq
              exact ⟨[reader], .last turn_eq⟩
          | goesOn next =>
              rw [taken] at turn_eq
              obtain ⟨cursor_eq, inForce_eq⟩ := Reader.eq_of_take_goesOn taken
              obtain ⟨_, standsBehind⟩ := stands.behind_cut segment cursor_eq inForce_eq
              have shorter := length_lt_of_cutSegment segment
              obtain ⟨readers, run⟩ := ih _ (left ▸ shorter) standsBehind rfl
              rw [cursor_eq, inForce_eq] at run
              exact ⟨reader :: readers, .turn turn_eq run⟩

/-- In every round of a run the reader stands between two pieces of the text,
further on than before. -/
theorem Run.standsBetween {readers : List Reader} {result : Except Error (List Node)}
    (run : Run source reader readers result)
    (stands : reader.StandsBetween source front rest fresh) :
    (∀ later ∈ readers, reader.cursor ≤ later.cursor ∧
      ∃ front rest fresh, later.StandsBetween source front rest fresh) ∧
    readers.Pairwise fun earlier later => earlier.cursor < later.cursor := by
  induction run generalizing front rest fresh with
  | last ended =>
      refine ⟨?_, List.pairwise_singleton _ _⟩
      intro later member
      obtain rfl := List.mem_singleton.mp member
      exact ⟨Nat.le_refl _, _, _, _, stands⟩
  | turn went behind ih =>
      obtain ⟨forward, _, _, _, standsNext⟩ := stands.advances went
      obtain ⟨reached, ordered⟩ := ih standsNext
      refine ⟨?_, .cons ?_ ordered⟩
      · intro later member
        rcases List.mem_cons.mp member with rfl | member
        · exact ⟨Nat.le_refl _, _, _, _, stands⟩
        · obtain ⟨further, standsLater⟩ := reached later member
          exact ⟨Nat.le_trans (Nat.le_of_lt forward) further, standsLater⟩
      · intro later member
        exact Nat.lt_of_lt_of_le forward (reached later member).1

/-! ## Places of a round -/

/-- The places of a round are in order between the places `cursor` and `stop`. -/
structure Round.IsWithin (round : Round) (cursor stop : Nat) : Prop where
  textEnd : cursor ≤ round.textEnd
  start : round.textEnd ≤ round.tag.start
  tag : round.tag.start < round.tag.stop
  next : round.tag.stop ≤ round.next
  bound : round.next ≤ stop

/-- A reader is well within its text: its cursor is at a place of the text, its
delimiters are valid, and what it finds stands in order ahead of its cursor. -/
structure Reader.IsWithin (reader : Reader) (source : List Char) : Prop where
  place : Text.IsPlace source reader.cursor
  valid : reader.inForce.isValid
  round : ∀ round, reader.find? source = some (.round round) →
    round.IsWithin reader.cursor (Text.byteLength source)

theorem Finds.isWithin {inForce : Delimiters} {round : Round} (valid : inForce.isValid)
    (finds : Finds inForce fresh front rest (.round round)) :
    round.IsWithin (Text.byteLength front) (Text.byteLength (front ++ rest)) := by
  have positive := Text.byteLength_pos (Delimiters.opening_ne_nil valid)
  cases finds with
  | @round before written behind name kind opened read =>
      have rest_size := congrArg Text.byteLength opened.1
      cases atMargins : margins kind fresh before behind with
      | none =>
          simp only [Text.byteLength_append] at rest_size
          constructor <;> simp only [Round.ofMargins, Text.byteLength_append] <;> omega
      | some pieces =>
          obtain ⟨text, lead, trail, after⟩ := pieces
          have before_size := congrArg Text.byteLength (text_append_lead_of_margins atMargins)
          have behind_size := congrArg Text.byteLength (blank_trail_of_margins atMargins).1
          simp only [Text.byteLength_append] at rest_size before_size behind_size
          constructor <;> simp only [Round.ofMargins, Text.byteLength_append] <;> omega

theorem Reader.StandsBetween.finds (stands : reader.StandsBetween source front rest fresh)
    {finding : Finding} (found : reader.find? source = some finding) :
    Finds reader.inForce fresh front rest finding := by
  obtain ⟨finding', found', finds⟩ := stands.exists_find?
  obtain rfl : finding' = finding := Option.some.inj (found'.symm.trans found)
  exact finds

theorem Reader.StandsBetween.isWithin (stands : reader.StandsBetween source front rest fresh) :
    reader.IsWithin source where
  place := ⟨front, rest, stands.whole, stands.cursor⟩
  valid := stands.valid
  round round found := by
    rw [stands.whole, stands.cursor]
    exact (stands.finds found).isWithin stands.valid

/-- A run has at most one round for each place from its cursor on. -/
theorem Run.length_le {readers : List Reader} {result : Except Error (List Node)}
    (run : Run source reader readers result)
    (stands : reader.StandsBetween source front rest fresh) :
    readers.length + reader.cursor ≤ Text.byteLength source + 1 := by
  induction run generalizing front rest fresh with
  | last ended =>
      have bound := stands.isWithin.place.le
      rw [List.length_singleton]
      omega
  | turn went behind ih =>
      obtain ⟨forward, _, _, _, standsNext⟩ := stands.advances went
      have bound := ih standsNext
      rw [List.length_cons]
      omega

/-! ## The place of an error -/

/-- From the cursor on, the opening delimiter in force occurs first at the given
place. -/
def Reader.SeesTagAt (reader : Reader) (source : List Char) (place : Nat) : Prop :=
  ∃ front before behind,
    source = front ++ (before ++ reader.inForce.opening.toList ++ behind) ∧
      reader.cursor = Text.byteLength front ∧ place = Text.byteLength (front ++ before) ∧
      Text.FirstOccurrence reader.inForce.opening.toList
        (before ++ reader.inForce.opening.toList ++ behind) before behind

/-- A run fails because of the tag that `reader` sees.  If a section is left open
this is the tag that opens it: when the text ends, the section is the innermost
one, within those that were open before its tag.  Any other error is that of the
last tag. -/
inductive Blames (source : List Char) (readers : List Reader) : Error → Reader → Prop where
  | opening {reader last : Reader} {round : Round} {opened : OpenSection}
      (member : reader ∈ readers) (found : reader.find? source = some (.round round))
      (opens : round.tag.kind.opensSection) (name_eq : opened.name = String.ofList round.tag.name)
      (position_eq : opened.position = round.tag.start) (atEnd : last ∈ readers.getLast?)
      (isOpen : last.sections = opened :: reader.sections) :
      Blames source readers ⟨.unclosedSection opened.name, opened.position⟩ reader
  | last {reader : Reader} {error : Error} (atEnd : reader ∈ readers.getLast?)
      (other : ∀ name, error.fault ≠ .unclosedSection name) : Blames source readers error reader

theorem Blames.cons {readers : List Reader} {error : Error} {blamed : Reader}
    (blames : Blames source readers error blamed) (reader : Reader) :
    Blames source (reader :: readers) error blamed := by
  cases blames with
  | opening member found opens name_eq position_eq atEnd isOpen =>
      exact .opening (List.mem_cons_of_mem _ member) found opens name_eq position_eq
        (List.mem_getLast?_cons atEnd) isOpen
  | last atEnd other => exact .last (List.mem_getLast?_cons atEnd) other

/-- What a round leads to, by what it finds. -/
inductive Reader.Turns (reader : Reader) (source : List Char) : Outcome → Prop where
  | leftOpen {opened : OpenSection} {below : List OpenSection}
      (isOpen : reader.sections = opened :: below) :
      Turns reader source (.ends (.error ⟨.unclosedSection opened.name, opened.position⟩))
  | done (nodes : List Node) : Turns reader source (.ends (.ok nodes))
  | unreadable {error : Error} (found : reader.find? source = some (.unreadable error)) :
      Turns reader source (.ends (.error error))
  | unnamed {round : Round} {body : String} (found : reader.find? source = some (.round round)) :
      Turns reader source (.ends (.error ⟨.invalidSetDelimiters body, round.tag.start⟩))
  | takes {round : Round} {outcome : Outcome} (behind : Reader)
      (found : reader.find? source = some (.round round))
      (sections_eq : behind.sections = reader.sections)
      (taken : behind.Takes round.tag.kind (String.ofList round.tag.name) round.tag.start outcome) :
      Turns reader source outcome

theorem Reader.turns_of_turn? {outcome : Outcome} (turned : reader.turn? source = some outcome) :
    reader.Turns source outcome := by
  obtain ⟨finding, found, turned⟩ := Option.bind_eq_some_iff.mp turned
  cases finding with
  | noTag =>
      cases isOpen : reader.sections with
      | nil =>
          rw [isOpen] at turned
          obtain ⟨text, _, ended⟩ := Option.bind_eq_some_iff.mp turned
          cases ended
          exact .done _
      | cons opened below =>
          rw [isOpen] at turned
          cases turned
          exact .leftOpen isOpen
  | unreadable error =>
      cases turned
      exact .unreadable found
  | round round =>
      obtain ⟨text, _, accepted⟩ := Option.bind_eq_some_iff.mp turned
      cases accepted
      rw [Reader.accept]
      dsimp only
      split
      · exact .unnamed found
      · exact .takes ⟨round.next, _, _, reader.sections⟩ found rfl (Reader.takes_take _ _ _ _)

theorem fault_of_readTag {delimiters : Delimiters} {content : List Char} {fault : Fault}
    (unread : readTag delimiters content = .error fault) (name : String) :
    fault ≠ .unclosedSection name := by
  unfold readTag at unread
  dsimp only at unread
  rintro rfl
  split at unread
  · split at unread <;> cases unread
  · split at unread <;> cases unread

theorem Reader.StandsBetween.seesTagAt (stands : reader.StandsBetween source front rest fresh)
    {before content : List Char}
    (opened : Text.FirstOccurrence reader.inForce.opening.toList rest before content) :
    reader.SeesTagAt source (Text.byteLength (front ++ before)) := by
  refine ⟨front, before, content, ?_, stands.cursor, rfl, ?_⟩
  · rw [stands.whole, ← opened.1]
  · rw [← opened.1]
    exact opened

theorem Reader.StandsBetween.seesTagAt_start (stands : reader.StandsBetween source front rest fresh)
    {round : Round} (found : reader.find? source = some (.round round)) :
    reader.SeesTagAt source round.tag.start := by
  cases stands.finds found with
  | round opened read =>
      rw [Round.tag_ofMargins]
      exact stands.seesTagAt opened

/-- A round that fails does so because of a section that is left open, or of the
tag that the reader sees. -/
theorem Reader.StandsBetween.cases_of_error (stands : reader.StandsBetween source front rest fresh)
    {error : Error} (failed : reader.turn? source = some (.ends (.error error))) :
    (∃ opened below, reader.sections = opened :: below ∧
      error = ⟨.unclosedSection opened.name, opened.position⟩) ∨
    (reader.SeesTagAt source error.position ∧ ∀ name, error.fault ≠ .unclosedSection name) := by
  cases Reader.turns_of_turn? failed with
  | leftOpen isOpen => exact .inl ⟨_, _, isOpen, rfl⟩
  | unreadable found =>
      cases stands.finds found with
      | unreadable opened unread => exact .inr ⟨stands.seesTagAt opened, fault_of_readTag unread⟩
  | unnamed found => exact .inr ⟨stands.seesTagAt_start found, by simp⟩
  | takes behind found sections_eq taken =>
      cases taken with
      | refused other => exact .inr ⟨stands.seesTagAt_start found, other⟩

/-- A section that is open behind a round was open before, or the round has
opened it. -/
theorem Reader.opens_of_turn? (went : reader.turn? source = some (.goesOn next))
    {opened : OpenSection} {below : List OpenSection}
    (inside : opened :: below <:+ next.sections) :
    opened :: below <:+ reader.sections ∨
      below = reader.sections ∧ ∃ round, reader.find? source = some (.round round) ∧
        round.tag.kind.opensSection ∧ opened.name = String.ofList round.tag.name ∧
        opened.position = round.tag.start := by
  cases Reader.turns_of_turn? went with
  | takes behind found sections_eq taken =>
      cases taken with
      | inside nodes => exact .inl (sections_eq ▸ inside)
      | opened opens =>
          rcases List.suffix_cons_iff.mp inside with same | outside
          · obtain ⟨rfl, rfl⟩ := List.cons.inj same
            exact .inr ⟨sections_eq, _, found, opens, rfl, rfl⟩
          · exact .inl (sections_eq ▸ outside)
      | @closed innermost sections nodes closes =>
          have outside : sections <:+ reader.sections := by
            rw [← sections_eq, closes]
            exact List.suffix_cons innermost sections
          exact .inl (inside.trans outside)

/-- A run that fails blames a tag of its rounds, or a section that was open
before them. -/
theorem Run.blames {readers : List Reader} {result : Except Error (List Node)} {error : Error}
    (run : Run source reader readers result) (failed : result = .error error)
    (stands : reader.StandsBetween source front rest fresh) :
    (∃ blamed, Blames source readers error blamed ∧ blamed.SeesTagAt source error.position) ∨
      ∃ last ∈ readers.getLast?, ∃ opened below, last.sections = opened :: below ∧
        opened :: below <:+ reader.sections ∧
        error = ⟨.unclosedSection opened.name, opened.position⟩ := by
  induction run generalizing front rest fresh with
  | @last reader result ended =>
      subst failed
      rcases stands.cases_of_error ended with ⟨opened, below, isOpen, error_eq⟩ | ⟨sees, other⟩
      · exact .inr ⟨reader, rfl, opened, below, isOpen, isOpen ▸ List.suffix_refl _, error_eq⟩
      · exact .inl ⟨reader, .last rfl other, sees⟩
  | @turn reader next readers result went behind ih =>
      obtain ⟨_, _, _, _, standsNext⟩ := stands.advances went
      rcases ih failed standsNext with ⟨blamed, blames, sees⟩ |
        ⟨last, atEnd, opened, below, isOpen, inside, error_eq⟩
      · exact .inl ⟨blamed, blames.cons reader, sees⟩
      · have atEnd' := List.mem_getLast?_cons (y := reader) atEnd
        rcases Reader.opens_of_turn? went inside with outside |
          ⟨rfl, round, found, opens, name_eq, position_eq⟩
        · exact .inr ⟨last, atEnd', opened, below, isOpen, outside, error_eq⟩
        · subst error_eq
          have sees := stands.seesTagAt_start found
          rw [← position_eq] at sees
          exact .inl ⟨reader, .opening List.mem_cons_self found opens name_eq position_eq atEnd' isOpen,
            sees⟩

/-! ## Templates -/

theorem Reader.standsBetween_initial {delimiters : Delimiters} (valid : delimiters.isValid)
    (source : List Char) : (initial delimiters).StandsBetween source [] source true where
  whole := rfl
  cursor := rfl
  valid := valid
  line := .inr (.start (.inl ⟨rfl, rfl⟩))

/-- Under valid delimiters, the reader that takes slices of the text by their
places is never stuck and comes to an end, with the nodes or the error of the
template, in at most one round for each place.  In each round its cursor is
further on, at a place of the text, and the delimiters in force are valid; the
text before a tag ends neither before the cursor nor behind the tag.  If it fails,
the place of the error is that of the opening delimiter in force for the tag that
is to blame.  Other delimiters are refused at the start of the text. -/
theorem parse_keeps_to_bounds (delimiters : Delimiters) (source : String) :
    (¬delimiters.isValid →
      parse delimiters source = .error ⟨.invalidDelimiters delimiters, 0⟩) ∧
    (delimiters.isValid →
      ∃ readers result,
        Run source.toList (.initial delimiters) readers result ∧
        parse delimiters source = result.map Template.mk ∧
        readers.length ≤ Text.byteLength source.toList + 1 ∧
        (readers.Pairwise fun earlier later => earlier.cursor < later.cursor) ∧
        (∀ reader ∈ readers, reader.IsWithin source.toList) ∧
        ∀ error, result = .error error →
          ∃ blamed, Blames source.toList readers error blamed ∧
            blamed.SeesTagAt source.toList error.position) := by
  refine ⟨fun invalid => parse_of_not_isValid invalid source, fun valid => ?_⟩
  have stands := Reader.standsBetween_initial valid source.toList
  obtain ⟨readers, run⟩ := stands.exists_run
  obtain ⟨reached, ordered⟩ := run.standsBetween stands
  refine ⟨readers, _, run, parse_of_isValid valid source, run.length_le stands, ordered, ?_, ?_⟩
  · intro reader member
    obtain ⟨_, _, _, _, standsLater⟩ := reached reader member
    exact standsLater.isWithin
  · intro error failed
    rcases run.blames failed stands with blamed | ⟨_, _, _, _, _, inside, _⟩
    · exact blamed
    · cases List.suffix_nil.mp inside

end Scaffold.Template
