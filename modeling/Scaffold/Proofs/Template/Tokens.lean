import Scaffold.Proofs.Template.Delimiters
import Scaffold.Proofs.Text.Cuts
import Scaffold.Template.Segment

/-!
# The tokens of a template

A template is read from left to right.  Each time the opening delimiter in
force is looked for, a tag is read behind it, and the tag may exchange the
delimiters for those of the tags that follow.  This file says so by relations
between texts, which know nothing of lines and positions, and shows that the
scan finds exactly these tags and ends without a fault exactly if the relations
go through.

The scan also drops the rest of a line behind a tag that stands alone.  It may
do so because blanks are dropped only, and no delimiter starts with a blank.
-/

namespace Scaffold.Template

/-! ## What a tag says -/

/-- What a tag says, wherever it stands. -/
structure Token where
  kind : TagKind
  name : String
deriving DecidableEq, Repr

/-- What a tag says. -/
def Tag.token (tag : Tag) : Token :=
  ⟨tag.kind, tag.name⟩

/-- What the tag of a segment says. -/
def Segment.token (segment : Segment) : Token :=
  segment.tag.token

/-- A text starts with the sigil of a tag, or with none.  With its kind come
what repeats the sigil before the closing delimiter, and what follows it. -/
inductive HasSigil : List Char → TagKind → List Char → List Char → Prop where
  | sigil {c : Char} {kind : TagKind} {repetition : List Char} (body : List Char)
      (known : sigil? c = some (kind, repetition)) : HasSigil (c :: body) kind repetition body
  | plain {body : List Char} (unknown : ∀ c ∈ body.head?, sigil? c = none) :
      HasSigil body .escaped [] body

/-- A tag stands at the start of a text, without its opening delimiter.  Blanks
may precede its sigil, it ends where it can end first, and it may be blank only
if it is a comment. -/
inductive IsTag (delimiters : Delimiters) :
    List Char → TagKind → List Char → List Char → Prop where
  | intro {blanks marked repetition body inner rest : List Char} {kind : TagKind}
      (indented : Text.isBlankText blanks)
      (flush : ∀ c ∈ marked.head?, Text.isBlank c = false)
      (sigil : HasSigil marked kind repetition body)
      (terminated :
        Text.FirstOccurrence (repetition ++ delimiters.closing.toList) body inner rest)
      (named : kind = .comment ∨ ¬Text.isBlankText inner) :
      IsTag delimiters (blanks ++ marked) kind (Text.trim inner) rest

/-- The delimiters in force behind a tag. -/
inductive InForceBehind (current : Delimiters) : TagKind → List Char → Delimiters → Prop where
  | exchanged {body : List Char} {next : Delimiters} (named : next.IsNamedBy body) :
      InForceBehind current .setDelimiters body next
  | kept {kind : TagKind} {name : List Char} (other : kind ≠ .setDelimiters) :
      InForceBehind current kind name current

/-- A text starts with some text without tags and a tag.  With what the tag
says come the delimiters in force behind it, and what follows it. -/
inductive FirstTag (delimiters : Delimiters) (source : List Char) :
    Token → Delimiters → List Char → Prop where
  | intro {before content name rest : List Char} {kind : TagKind} {next : Delimiters}
      (opened : Text.FirstOccurrence delimiters.opening.toList source before content)
      (tag : IsTag delimiters content kind name rest)
      (inForce : InForceBehind delimiters kind name next) :
      FirstTag delimiters source ⟨kind, String.ofList name⟩ next rest

/-- What the tags of a text say, in their order, if all of them can be read. -/
inductive Tokens : Delimiters → List Char → List Token → Prop where
  | done {delimiters : Delimiters} {source : List Char}
      (untagged : ¬delimiters.opening.toList <:+: source) : Tokens delimiters source []
  | tag {delimiters next : Delimiters} {source rest : List Char} {token : Token}
      {tokens : List Token} (first : FirstTag delimiters source token next rest)
      (following : Tokens next rest tokens) : Tokens delimiters source (token :: tokens)

/-! ## Reading a tag -/

variable {delimiters : Delimiters}

theorem readSigil_eq_iff {content repetition body : List Char} {kind : TagKind} :
    readSigil content = (kind, repetition, body) ↔ HasSigil content kind repetition body := by
  constructor
  · intro read
    cases content with
    | nil =>
        cases read
        exact .plain (by simp)
    | cons c content =>
        simp only [readSigil] at read
        split at read
        · next known =>
            cases read
            exact .sigil _ known
        · next unknown =>
            cases read
            exact .plain (by simpa using unknown)
  · intro marked
    cases marked with
    | sigil body known => simp [readSigil, known]
    | plain unknown =>
        cases content with
        | nil => rfl
        | cons c content => simp [readSigil, unknown c rfl]

/-- A tag is read exactly if there is one. -/
theorem readTag_eq_ok_iff (valid : delimiters.isValid) {content name rest : List Char}
    {kind : TagKind} :
    readTag delimiters content = .ok ⟨kind, name, rest⟩ ↔
      IsTag delimiters content kind name rest := by
  have closingNonempty := Delimiters.closing_ne_nil valid
  have terminatorNonempty : ∀ repetition, repetition ++ delimiters.closing.toList ≠ [] := by
    simp [closingNonempty]
  constructor
  · intro read
    obtain ⟨blanks, split_eq, indented, flush⟩ := Text.exists_eq_append_trimStart content
    rw [readTag] at read
    generalize sigil_eq : readSigil (Text.trimStart content) = sigil at read
    obtain ⟨kind', repetition, body⟩ := sigil
    dsimp only at read
    split at read
    · split at read <;> cases read
    · next inner rest' cut =>
        split at read
        · cases read
        · next notEmpty =>
            cases read
            rw [split_eq]
            refine .intro indented flush (readSigil_eq_iff.mp sigil_eq)
              ((Text.cutAround?_eq_some_iff (terminatorNonempty repetition)).mp cut) ?_
            rw [← Text.trim_eq_nil_iff, ← List.isEmpty_iff]
            simpa [or_iff_not_imp_left] using notEmpty
  · intro isTag
    cases isTag with
    | intro indented flush sigil terminated named =>
        have cut := (Text.cutAround?_eq_some_iff (terminatorNonempty _)).mpr terminated
        simp only [readTag, Text.trimStart_append_of_isBlankText indented flush,
          readSigil_eq_iff.mpr sigil, cut]
        rw [if_neg]
        rw [← Text.trim_eq_nil_iff, ← List.isEmpty_iff] at named
        simpa [or_iff_not_imp_left] using named

/-! ## Cutting off a segment -/

variable {next : Delimiters} {token : Token} {source rest : List Char}

/-- Behind a tag, only blanks are dropped. -/
theorem blank_trail_of_margins {kind : TagKind} {fresh : Bool}
    {before rest text lead trail rest' : List Char}
    (found : margins kind fresh before rest = some (text, lead, trail, rest')) :
    rest = trail ++ rest' ∧ Text.isBlankText trail := by
  simp only [margins] at found
  split at found
  · next alone =>
      simp only [Bool.and_eq_true] at alone
      cases found
      exact ⟨(cutLine_append rest).symm, alone.2⟩
  · cases found

/-- The delimiters of the next segment are those in force behind the tag. -/
theorem inForceBehind_iff {kind : TagKind} {name : List Char} :
    (if kind = .setDelimiters then Delimiters.ofBody? name else some delimiters) = some next ↔
      InForceBehind delimiters kind name next := by
  constructor
  · intro chosen
    split at chosen
    · next isExchange =>
        subst isExchange
        exact .exchanged (Delimiters.ofBody?_eq_some_iff.mp chosen)
    · next other =>
        cases chosen
        exact .kept other
  · intro inForce
    cases inForce with
    | exchanged named => rw [if_pos rfl, Delimiters.ofBody?_eq_some_iff.mpr named]
    | kept other => rw [if_neg other]

/-- A tag ends with its closing delimiter. -/
theorem IsTag.exists_eq_append {content name : List Char} {kind : TagKind}
    (tag : IsTag delimiters content kind name rest) :
    ∃ front, content = front ++ delimiters.closing.toList ++ rest := by
  cases tag with
  | @intro blanks marked repetition body inner rest kind indented flush sigil terminated named =>
      have body_eq := terminated.1
      cases sigil with
      | @sigil c _ _ body known =>
          exact ⟨blanks ++ c :: (inner ++ repetition), by simp [body_eq]⟩
      | plain unknown => exact ⟨blanks ++ inner, by simp [body_eq]⟩

/-- The cut behind a tag, between the text before it and what follows it. -/
def cutBehind (fresh : Bool) (before : List Char) (tag : Tag) (inForce : Delimiters)
    (position : Nat) (rest : List Char) : Cut :=
  match margins tag.kind fresh before rest with
  | some (text, lead, trail, rest) =>
      ⟨⟨text, lead, tag, trail⟩, inForce, true, position + Text.byteLength trail, rest⟩
  | none => ⟨⟨before, [], tag, []⟩, inForce, false, position, rest⟩

/-- A segment is cut off exactly where a first tag can be read. -/
theorem cutSegment_eq_ok_iff (valid : delimiters.isValid) (fresh : Bool) (position : Nat)
    {cut : Cut} :
    cutSegment delimiters fresh position source = .ok cut ↔
      ∃ before written rest kind name next,
        Text.FirstOccurrence delimiters.opening.toList source before (written ++ rest) ∧
          IsTag delimiters (written ++ rest) kind name rest ∧
          InForceBehind delimiters kind name next ∧
          cut =
            cutBehind fresh before
              ⟨kind, String.ofList name, delimiters.opening.toList ++ written,
                position + Text.byteLength before⟩
              next
              (position + Text.byteLength before +
                Text.byteLength (delimiters.opening.toList ++ written))
              rest := by
  have openingNonempty := Delimiters.opening_ne_nil valid
  have writtenOf : ∀ written rest : List Char,
      (written ++ rest).take ((written ++ rest).length - rest.length) = written := by
    intro written rest
    rw [List.length_append, Nat.add_sub_cancel, List.take_left]
  constructor
  · intro found
    unfold cutSegment at found
    split at found
    · cases found
    · next before content around =>
        have opened := (Text.cutAround?_eq_some_iff openingNonempty).mp around
        dsimp only at found
        split at found
        · cases found
        · next kind name rest read =>
            have tag := (readTag_eq_ok_iff valid).mp read
            obtain ⟨front, content_eq⟩ := tag.exists_eq_append
            split at found
            · cases found
            · next inForce chosen =>
                refine ⟨before, front ++ delimiters.closing.toList, rest, kind, name, inForce,
                  content_eq ▸ opened, content_eq ▸ tag, inForceBehind_iff.mp chosen, ?_⟩
                rw [content_eq, writtenOf] at found
                rw [cutBehind]
                cases atMargins : margins kind fresh before rest <;>
                  · rw [atMargins] at found
                    exact (Except.ok.inj found).symm
  · rintro ⟨before, written, rest, kind, name, next, opened, tag, inForce, rfl⟩
    simp only [cutSegment, (Text.cutAround?_eq_some_iff openingNonempty).mpr opened,
      (readTag_eq_ok_iff valid).mpr tag, inForceBehind_iff.mpr inForce, writtenOf, cutBehind]
    cases margins kind fresh before rest <;> rfl

@[simp]
theorem tag_cutBehind (fresh : Bool) (before : List Char) (tag : Tag) (inForce : Delimiters)
    (position : Nat) (rest : List Char) :
    (cutBehind fresh before tag inForce position rest).segment.tag = tag := by
  rw [cutBehind]
  split <;> rfl

@[simp]
theorem token_cutBehind (fresh : Bool) (before : List Char) (tag : Tag) (inForce : Delimiters)
    (position : Nat) (rest : List Char) :
    (cutBehind fresh before tag inForce position rest).segment.token = tag.token := by
  rw [Segment.token, tag_cutBehind]

@[simp]
theorem inForce_cutBehind (fresh : Bool) (before : List Char) (tag : Tag) (inForce : Delimiters)
    (position : Nat) (rest : List Char) :
    (cutBehind fresh before tag inForce position rest).inForce = inForce := by
  rw [cutBehind]
  split <;> rfl

/-- Behind a tag, perhaps blanks are dropped. -/
theorem exists_eq_append_rest_cutBehind (fresh : Bool) (before : List Char) (tag : Tag)
    (inForce : Delimiters) (position : Nat) (rest : List Char) :
    ∃ skipped, rest = skipped ++ (cutBehind fresh before tag inForce position rest).rest ∧
      Text.isBlankText skipped := by
  rw [cutBehind]
  split
  · next atMargins => exact ⟨_, blank_trail_of_margins atMargins⟩
  · exact ⟨[], rfl, rfl⟩

/-- A first tag is cut off, perhaps with blanks behind it. -/
theorem cutSegment_of_firstTag (valid : delimiters.isValid)
    (first : FirstTag delimiters source token next rest) (fresh : Bool) (position : Nat) :
    ∃ cut skipped, cutSegment delimiters fresh position source = .ok cut ∧
      cut.segment.token = token ∧ cut.inForce = next ∧
        rest = skipped ++ cut.rest ∧ Text.isBlankText skipped := by
  cases first with
  | intro opened tag inForce =>
      obtain ⟨front, content_eq⟩ := tag.exists_eq_append
      rw [content_eq] at opened tag
      have found := (cutSegment_eq_ok_iff valid fresh position).mpr
        ⟨_, _, rest, _, _, next, opened, tag, inForce, rfl⟩
      obtain ⟨skipped, rest_eq, blank⟩ := exists_eq_append_rest_cutBehind fresh _ _ next _ rest
      exact ⟨_, skipped, found, token_cutBehind .., inForce_cutBehind .., rest_eq, blank⟩

/-- What is cut off is the first tag, perhaps with blanks behind it. -/
theorem firstTag_of_cutSegment (valid : delimiters.isValid) {fresh : Bool} {position : Nat}
    {cut : Cut} (found : cutSegment delimiters fresh position source = .ok cut) :
    ∃ skipped, Text.isBlankText skipped ∧
      FirstTag delimiters source cut.segment.token cut.inForce (skipped ++ cut.rest) := by
  obtain ⟨before, written, rest, kind, name, next, opened, tag, inForce, rfl⟩ :=
    (cutSegment_eq_ok_iff valid fresh position).mp found
  obtain ⟨skipped, rest_eq, blank⟩ := exists_eq_append_rest_cutBehind fresh before _ next _ rest
  refine ⟨skipped, blank, ?_⟩
  rw [token_cutBehind, inForce_cutBehind, ← rest_eq]
  exact .intro opened tag inForce

theorem FirstTag.isValid_next (valid : delimiters.isValid)
    (first : FirstTag delimiters source token next rest) : next.isValid := by
  cases first with
  | intro opened tag inForce =>
      cases inForce with
      | exchanged named =>
          obtain ⟨gap, _, _, _, nextValid⟩ := named
          exact nextValid
      | kept other => exact valid

/-- A text without a tag is the end of a scan. -/
theorem cutSegment_eq_error_text_iff (valid : delimiters.isValid) (fresh : Bool)
    (position : Nat) :
    (∃ rest inForce, cutSegment delimiters fresh position source = .error (.text rest inForce)) ↔
      ¬delimiters.opening.toList <:+: source := by
  have openingNonempty := Delimiters.opening_ne_nil valid
  rw [← Text.cutAround?_eq_none_iff openingNonempty]
  constructor
  · rintro ⟨rest, inForce, ended⟩
    unfold cutSegment at ended
    split at ended
    · next untagged => exact untagged
    · dsimp only at ended
      split at ended
      · cases ended
      · split at ended
        · cases ended
        · split at ended <;> cases ended
  · intro untagged
    exact ⟨source, delimiters, by rw [cutSegment, untagged]⟩

/-! ## Blanks before a tag -/

/-- No delimiter starts among blanks. -/
theorem cutAround?_opening_append (valid : delimiters.isValid) {skipped : List Char}
    (blank : Text.isBlankText skipped) (source : List Char) :
    Text.cutAround? delimiters.opening.toList (skipped ++ source) =
      (Text.cutAround? delimiters.opening.toList source).map fun (before, rest) =>
        (skipped ++ before, rest) := by
  obtain ⟨first, pattern, opening_eq, notBlank⟩ :=
    Delimiters.exists_cons_of_isMark (Delimiters.isValid_iff.mp valid).1
  have absent : first ∉ skipped := by
    intro member
    have isBlank := List.all_eq_true.mp blank first member
    rw [notBlank] at isBlank
    contradiction
  rw [opening_eq]
  exact Text.cutAround?_append_of_head_not_mem absent pattern source

theorem firstTag_append_iff (valid : delimiters.isValid) {skipped : List Char}
    (blank : Text.isBlankText skipped) :
    FirstTag delimiters (skipped ++ source) token next rest ↔
      FirstTag delimiters source token next rest := by
  have openingNonempty := Delimiters.opening_ne_nil valid
  have opened_iff : ∀ content,
      (∃ before, Text.FirstOccurrence delimiters.opening.toList (skipped ++ source) before
        content) ↔
      ∃ before, Text.FirstOccurrence delimiters.opening.toList source before content := by
    intro content
    simp only [← Text.cutAround?_eq_some_iff openingNonempty,
      cutAround?_opening_append valid blank, Option.map_eq_some_iff, Prod.exists, Prod.mk.injEq]
    constructor
    · rintro ⟨_, before, content, found, rfl, rfl⟩
      exact ⟨before, found⟩
    · rintro ⟨before, found⟩
      exact ⟨_, before, content, found, rfl, rfl⟩
  constructor
  · rintro ⟨opened, tag, inForce⟩
    obtain ⟨before, opened⟩ := (opened_iff _).mp ⟨_, opened⟩
    exact .intro opened tag inForce
  · rintro ⟨opened, tag, inForce⟩
    obtain ⟨before, opened⟩ := (opened_iff _).mpr ⟨_, opened⟩
    exact .intro opened tag inForce

theorem untagged_append_iff (valid : delimiters.isValid) {skipped : List Char}
    (blank : Text.isBlankText skipped) :
    ¬delimiters.opening.toList <:+: skipped ++ source ↔
      ¬delimiters.opening.toList <:+: source := by
  have openingNonempty := Delimiters.opening_ne_nil valid
  rw [← Text.cutAround?_eq_none_iff openingNonempty, ← Text.cutAround?_eq_none_iff openingNonempty,
    cutAround?_opening_append valid blank, Option.map_eq_none_iff]

/-- Blanks in front of a text do not change its tokens. -/
theorem tokens_append_iff (valid : delimiters.isValid) {skipped : List Char}
    (blank : Text.isBlankText skipped) {tokens : List Token} :
    Tokens delimiters (skipped ++ source) tokens ↔ Tokens delimiters source tokens := by
  constructor
  · intro read
    cases read with
    | done untagged => exact .done ((untagged_append_iff valid blank).mp untagged)
    | tag first following => exact .tag ((firstTag_append_iff valid blank).mp first) following
  · intro read
    cases read with
    | done untagged => exact .done ((untagged_append_iff valid blank).mpr untagged)
    | tag first following => exact .tag ((firstTag_append_iff valid blank).mpr first) following

/-! ## Scanning -/

/-- The tokens of a text are those of its segments, and they can be read
exactly if the scan ends without a fault. -/
theorem tokens_iff_scan (valid : delimiters.isValid) (fresh : Bool) (position : Nat)
    (source : List Char) (tokens : List Token) :
    Tokens delimiters source tokens ↔
      (∃ rest inForce, (scan delimiters fresh position source).ending = .text rest inForce) ∧
        (scan delimiters fresh position source).segments.map Segment.token = tokens := by
  fun_induction scan delimiters fresh position source generalizing tokens with
  | case1 delimiters fresh position source ending ended =>
      constructor
      · intro read
        cases read with
        | done untagged =>
            obtain ⟨rest, inForce, ended'⟩ :=
              (cutSegment_eq_error_text_iff valid fresh position).mpr untagged
            rw [ended] at ended'
            exact ⟨⟨rest, inForce, Except.error.inj ended'⟩, rfl⟩
        | tag first following =>
            obtain ⟨cut, _, found, _⟩ := cutSegment_of_firstTag valid first fresh position
            rw [ended] at found
            cases found
      · rintro ⟨⟨rest, inForce, rfl⟩, rfl⟩
        exact .done ((cutSegment_eq_error_text_iff valid fresh position).mp ⟨rest, inForce, ended⟩)
  | case2 delimiters fresh position source cut found following ih =>
      obtain ⟨skipped, blank, first⟩ := firstTag_of_cutSegment valid found
      have nextValid := first.isValid_next valid
      constructor
      · intro read
        cases read with
        | done untagged =>
            obtain ⟨rest, inForce, ended⟩ :=
              (cutSegment_eq_error_text_iff valid fresh position).mpr untagged
            rw [found] at ended
            cases ended
        | tag first' following' =>
            obtain ⟨cut', skipped', found', rfl, rfl, rfl, blank'⟩ :=
              cutSegment_of_firstTag valid first' fresh position
            obtain rfl : cut = cut' := Except.ok.inj (found.symm.trans found')
            obtain ⟨ended, segments_eq⟩ :=
              (ih nextValid _).mp ((tokens_append_iff nextValid blank').mp following')
            exact ⟨ended, congrArg (cut.segment.token :: ·) segments_eq⟩
      · rintro ⟨ended, rfl⟩
        have following' := (ih nextValid _).mpr ⟨ended, rfl⟩
        exact .tag first ((tokens_append_iff nextValid blank).mpr following')

end Scaffold.Template
