import Scaffold.Proofs.Template.Delimiters
import Scaffold.Proofs.Template.Shift
import Scaffold.Proofs.Text.Cuts

/-!
# A line that exchanges the delimiters

A template whose first line is a set-delimiters tag is parsed like the rest of
it under the new delimiters.  The line leaves no node, and behind it the scan
is at the start of a line again, so only the positions tell the two apart.

The tag can be read because delimiters hold neither blanks nor equals signs:
its body ends at the first equals sign behind the sigil, and falls into the two
delimiters at its only blank.
-/

namespace Scaffold.Template

/-! ## The line -/

namespace Delimiters

/-- The body of a set-delimiters tag, with one blank between the delimiters. -/
def body (delimiters : Delimiters) : List Char :=
  delimiters.opening.toList ++ ' ' :: delimiters.closing.toList

/-- A body names the delimiters it is made of. -/
theorem ofBody?_body {delimiters : Delimiters} (valid : delimiters.isValid) :
    ofBody? delimiters.body = some delimiters :=
  ofBody?_eq_some_iff.mpr ⟨[' '], by simp [body], by simp, rfl, valid⟩

theorem trim_body {delimiters : Delimiters} (valid : delimiters.isValid) :
    Text.trim delimiters.body = delimiters.body := by
  simp only [isValid_iff, isMark_iff] at valid
  obtain ⟨⟨openingNonempty, openingChars⟩, ⟨closingNonempty, closingChars⟩⟩ := valid
  apply Text.trim_eq_self
  · intro c atHead
    have openingHead : delimiters.body.head? = delimiters.opening.toList.head? := by
      rw [body, List.head?_append, List.head?_eq_some_head openingNonempty]
      rfl
    rw [openingHead] at atHead
    exact (openingChars c (List.mem_of_mem_head? atHead)).1
  · intro c atLast
    have closingLast : delimiters.body.getLast? = delimiters.closing.toList.getLast? := by
      have split : delimiters.body =
          (delimiters.opening.toList ++ [' ']) ++ delimiters.closing.toList := by
        simp [body]
      rw [split, List.getLast?_append, List.getLast?_eq_some_getLast closingNonempty]
      rfl
    rw [closingLast] at atLast
    exact (closingChars c (List.mem_of_getLast? atLast)).1

theorem equals_not_mem_body {delimiters : Delimiters} (valid : delimiters.isValid) :
    '=' ∉ delimiters.body := by
  simp only [isValid_iff] at valid
  have inOpening := equals_not_mem_of_isMark valid.1
  have inClosing := equals_not_mem_of_isMark valid.2
  simp [body, inOpening, inClosing]

theorem body_ne_nil (delimiters : Delimiters) : delimiters.body ≠ [] := by
  simp [body]

/-- A line that exchanges the delimiters `current` for the delimiters `next`. -/
def exchangeLine (current next : Delimiters) : String :=
  current.opening ++ "=" ++ next.opening ++ " " ++ next.closing ++ "=" ++ current.closing ++ "\n"

/-- The tag of the line, from behind its opening delimiter. -/
def exchangeTag (current next : Delimiters) : List Char :=
  '=' :: (next.body ++ '=' :: current.closing.toList)

theorem toList_exchangeLine (current next : Delimiters) :
    (current.exchangeLine next).toList =
      current.opening.toList ++ current.exchangeTag next ++ ['\n'] := by
  simp [exchangeLine, exchangeTag, body]

end Delimiters

open Delimiters

/-! ## Reading the line -/

/-- The tag of the line is read up to the line break. -/
theorem readTag_exchangeTag {current next : Delimiters} (nextValid : next.isValid)
    (rest : List Char) :
    readTag current (current.exchangeTag next ++ rest) =
      .ok { kind := .setDelimiters, name := next.body, rest } := by
  have content_eq : current.exchangeTag next ++ rest =
      '=' :: (next.body ++ ('=' :: current.closing.toList) ++ rest) := by
    simp [exchangeTag]
  have trimmed := Text.trimStart_cons_of_not_isBlank (c := '=') rfl
    (next.body ++ ('=' :: current.closing.toList) ++ rest)
  have cut := Text.cutAround?_append_of_not_mem (equals_not_mem_body nextValid)
    current.closing.toList rest
  have notEmpty : next.body.isEmpty = false := by
    simp [body_ne_nil]
  rw [content_eq]
  simp only [readTag, trimmed, readSigil, sigil?, List.singleton_append, cut,
    trim_body nextValid, notEmpty, Bool.and_false, Bool.false_eq_true, if_false]

theorem margins_newline (source : List Char) :
    margins .setDelimiters true [] ('\n' :: source) = some ([], [], ['\n'], source) :=
  rfl

/-- The segment that the line makes up.  It keeps no text. -/
def exchangeSegment (current next : Delimiters) (position : Nat) : Segment where
  text := []
  lead := []
  tag :=
    { kind := .setDelimiters
      name := String.ofList next.body
      source := current.opening.toList ++ current.exchangeTag next
      position }
  trail := ['\n']

/-- The line is cut off as a whole, and the new delimiters are in force at the
start of the line behind it. -/
theorem cutSegment_exchangeLine {current next : Delimiters} (currentValid : current.isValid)
    (nextValid : next.isValid) (position : Nat) (source : List Char) :
    cutSegment current true position ((current.exchangeLine next).toList ++ source) =
      .ok ⟨exchangeSegment current next position, next, true,
        position + Text.byteLength (current.exchangeLine next).toList, source⟩ := by
  have openingNonempty := opening_ne_nil currentValid
  have source_eq : (current.exchangeLine next).toList ++ source =
      current.opening.toList ++ (current.exchangeTag next ++ '\n' :: source) := by
    simp [toList_exchangeLine]
  have around := Text.cutAround?_append_self openingNonempty
    (current.exchangeTag next ++ '\n' :: source)
  have written : (current.exchangeTag next ++ '\n' :: source).take
      ((current.exchangeTag next ++ '\n' :: source).length - ('\n' :: source).length) =
        current.exchangeTag next := by
    rw [List.length_append, Nat.add_sub_cancel, List.take_left]
  rw [source_eq, cutSegment, around]
  simp only [readTag_exchangeTag nextValid, ofBody?_body nextValid, if_true, margins_newline,
    written, Text.byteLength_nil, Nat.add_zero, toList_exchangeLine, Text.byteLength_append,
    exchangeSegment, Nat.add_assoc]

/-- A template that starts with such a line has the nodes of what follows it
under the new delimiters. -/
theorem parseFrom_exchangeLine {current next : Delimiters} (currentValid : current.isValid)
    (nextValid : next.isValid) (position : Nat) (source : List Char) :
    parseFrom current true position ((current.exchangeLine next).toList ++ source) =
      parseFrom next true (position + Text.byteLength (current.exchangeLine next).toList)
        source := by
  unfold parseFrom
  rw [scan_of_cutSegment_ok (cutSegment_exchangeLine currentValid nextValid position source)]
  rfl

/-- A first line that exchanges the delimiters only moves the place of an
error, by the length of that line. -/
theorem parse_exchangeLine {current next : Delimiters} (currentValid : current.isValid)
    (nextValid : next.isValid) (source : String) :
    parse current (current.exchangeLine next ++ source) =
      (parse next source).mapError (Error.shift (current.exchangeLine next).utf8ByteSize) := by
  rw [parse_of_isValid currentValid, parse_of_isValid nextValid, String.toList_append,
    parseFrom_exchangeLine currentValid nextValid, parseFrom_add, Text.byteLength_toList]
  cases parseFrom next true 0 source.toList <;> rfl

/-- Delimiters that a first line sets are as good as delimiters that are in
force from the start: the template is the same, and an error is the same but
for its position, which counts the bytes of that line too. -/
theorem parse_first_line_sets_delimiters (delimiters : Delimiters) (valid : delimiters.isValid)
    (source : String) :
    let line := "\x7b\x7b=" ++ delimiters.opening ++ " " ++ delimiters.closing ++ "=\x7d\x7d\n"
    parse .standard (line ++ source) =
      (parse delimiters source).mapError fun error =>
        ⟨error.fault, error.position + line.utf8ByteSize⟩ := by
  intro line
  have line_eq : line = standard.exchangeLine delimiters := by
    apply String.toList_injective
    simp [line, exchangeLine, standard]
  rw [line_eq]
  exact parse_exchangeLine isValid_standard valid source

/-- Delimiters that look like a sigil and a brace, in front of a text with a
fault of its own. -/
theorem parse_first_line_sets_sigil_delimiters :
    (⟨"#\x7b", "\x7d"⟩ : Delimiters).isValid ∧
      parse .standard ("\x7b\x7b=#\x7b \x7d=\x7d\x7d\n" ++ "a #\x7b/ b \x7d") =
        .error ⟨.unopenedSection "b", 13⟩ := by
  have valid : (⟨"#\x7b", "\x7d"⟩ : Delimiters).isValid := by decide
  have found : cutSegment ⟨"#\x7b", "\x7d"⟩ true 0 "a #\x7b/ b \x7d".toList =
      .ok ⟨⟨"a ".toList, [], ⟨.closing, "b", "#\x7b/ b \x7d".toList, 2⟩, []⟩,
        ⟨"#\x7b", "\x7d"⟩, false, 9, []⟩ :=
    rfl
  have parsed : parse ⟨"#\x7b", "\x7d"⟩ "a #\x7b/ b \x7d" =
      .error ⟨.unopenedSection "b", 2⟩ := by
    rw [parse_of_isValid valid, parseFrom, scan_of_cutSegment_ok found]
    rfl
  have shifted := parse_first_line_sets_delimiters ⟨"#\x7b", "\x7d"⟩ valid "a #\x7b/ b \x7d"
  rw [parsed] at shifted
  exact ⟨valid, shifted⟩

end Scaffold.Template
