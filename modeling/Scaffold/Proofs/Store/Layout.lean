import Mathlib.Data.List.Induction
import Scaffold.Proofs.Validation.Containment
import Scaffold.Store.FileTree
import Scaffold.Store.Memory

/-!
# Files that are laid out in a tree

A table of templates is laid out in a tree if the tree has exactly the files of
the table, each at the names that its location consists of.  Files that are
written one after another are laid out, unless one of them would have to be the
directory of another.
-/

namespace Scaffold

namespace FileTree

/-! ## What a tree holds -/

/-- What stands at the end of some names. -/
def at? : FileTree → List String → Option FileTree
  | tree, [] => some tree
  | tree, name :: names => (tree.entries.lookup name).bind fun entry => entry.at? names

/-- Whether a file of the given content stands at the end of some names. -/
def HasFile (tree : FileTree) (names : List String) (content : List UInt8) : Prop :=
  tree.at? names = some (.file content)

variable {tree : FileTree} {name other : String} {names others : List String}
  {content present : List UInt8} {update : FileTree → FileTree}

theorem at?_cons (tree : FileTree) (name : String) (names : List String) :
    tree.at? (name :: names) = (tree.entries.lookup name).bind fun entry => entry.at? names :=
  rfl

theorem not_hasFile_directory_nil {entries : List (String × FileTree)} :
    ¬HasFile (.directory entries) [] content := by
  simp [HasFile, at?]

theorem not_hasFile_file_cons : ¬HasFile (.file present) (name :: names) content := by
  simp [HasFile, at?_cons, entries]

theorem not_hasFile_empty : ¬HasFile .empty names content := by
  cases names with
  | nil => exact not_hasFile_directory_nil
  | cons name names => simp [HasFile, at?_cons, entries, empty]

/-- The entry of a name, or an empty directory in its place. -/
def entry (tree : FileTree) (name : String) : FileTree :=
  (tree.entries.lookup name).getD .empty

/-- An entry holds the files whose names start with its own. -/
theorem hasFile_entry_iff :
    (tree.entry name).HasFile names content ↔ tree.HasFile (name :: names) content := by
  unfold entry HasFile
  rw [at?_cons]
  cases tree.entries.lookup name with
  | none =>
      have absent : ¬HasFile .empty names content := not_hasFile_empty
      simpa [HasFile] using absent
  | some present => rfl

/-- A change is made in one entry, and the others stay. -/
theorem hasFile_change_cons_iff :
    (tree.change (name :: names) update).HasFile (other :: others) content ↔
      if other = name then ((tree.entry name).change names update).HasFile others content
      else tree.HasFile (other :: others) content := by
  have changed : (tree.change (name :: names) update).entries.lookup other =
      if name = other then some ((tree.entry name).change names update)
      else tree.entries.lookup other := by
    rw [change, entries, MemoryStore.lookup_cons_eq_ite]
    split
    · rfl
    · next different => rw [MemoryStore.lookup_filter_ne, if_neg different]
  rw [HasFile, at?_cons, changed]
  by_cases same : other = name
  · subst same
    simp [HasFile]
  · rw [if_neg (Ne.symm same), if_neg same]
    rfl

theorem not_hasFile_change_cons_nil :
    ¬(tree.change (name :: names) update).HasFile [] content :=
  not_hasFile_directory_nil

/-! ## Making directories -/

/-- No file stands on the way to the end of some names, nor there. -/
def IsOpen (tree : FileTree) (names : List String) : Prop :=
  ∀ before, before <+: names → ∀ content, ¬tree.HasFile before content

theorem IsOpen.entry (isOpen : tree.IsOpen (name :: names)) : (tree.entry name).IsOpen names := by
  intro before isPrefix content hasFile
  exact isOpen (name :: before) (List.cons_prefix_cons.mpr ⟨rfl, isPrefix⟩) content
    (hasFile_entry_iff.mp hasFile)

theorem IsOpen.of_prefix (isOpen : tree.IsOpen names) (isPrefix : others <+: names) :
    tree.IsOpen others :=
  fun before inOthers => isOpen before (inOthers.trans isPrefix)

/-- Two trees have the same files. -/
def SameFiles (tree other : FileTree) : Prop :=
  ∀ names content, tree.HasFile names content ↔ other.HasFile names content

theorem IsOpen.of_sameFiles {changed : FileTree} (isOpen : tree.IsOpen names)
    (same : changed.SameFiles tree) : changed.IsOpen names :=
  fun before isPrefix content hasFile => isOpen before isPrefix content
    ((same before content).mp hasFile)

/-- A directory is made without a change of any file. -/
theorem sameFiles_withDirectory (isOpen : tree.IsOpen names) :
    (tree.withDirectory names).SameFiles tree := by
  intro others content
  induction names generalizing tree others with
  | nil =>
      cases others with
      | nil => exact iff_of_false not_hasFile_directory_nil (isOpen [] List.prefix_rfl content)
      | cons other others => rfl
  | cons name names ih =>
      cases others with
      | nil =>
          exact iff_of_false not_hasFile_change_cons_nil (isOpen [] List.nil_prefix content)
      | cons other others =>
          rw [withDirectory, hasFile_change_cons_iff]
          split
          · next same =>
              subst same
              exact (ih isOpen.entry others).trans hasFile_entry_iff
          · rfl

/-- Directories are made along names without a change of any file. -/
theorem foldl_makeNext {segments : List String} (areNames : ∀ segment ∈ segments, IsName segment)
    (isOpen : tree.IsOpen (names ++ segments)) :
    (segments.foldl makeNext (tree, names)).2 = names ++ segments ∧
      (segments.foldl makeNext (tree, names)).1.SameFiles tree := by
  induction segments generalizing tree names with
  | nil => exact ⟨(List.append_nil names).symm, fun _ _ => Iff.rfl⟩
  | cons segment segments ih =>
      obtain ⟨isName, restAreNames⟩ := List.forall_mem_cons.mp areNames
      have split_eq : names ++ segment :: segments = (names ++ [segment]) ++ segments := by simp
      rw [split_eq] at isOpen ⊢
      have same := sameFiles_withDirectory (isOpen.of_prefix (List.prefix_append _ _))
      obtain ⟨names_eq, same'⟩ := ih restAreNames (isOpen.of_sameFiles same)
      rw [List.foldl_cons, makeNext, follow_of_isName isName]
      exact ⟨names_eq, fun others content => (same' others content).trans (same others content)⟩

/-! ## Writing a file -/

/-- Neither of two lists of names leads to the other. -/
def Apart (names others : List String) : Prop :=
  ¬names <+: others ∧ ¬others <+: names

instance (names others : List String) : Decidable (Apart names others) :=
  inferInstanceAs (Decidable (_ ∧ _))

/-- Nothing needs to be removed for a file at the end of some names, but a file
that stands there. -/
def HasRoom (tree : FileTree) (names : List String) : Prop :=
  ∀ others content, tree.HasFile others content → others = names ∨ Apart names others

theorem HasRoom.entry (hasRoom : tree.HasRoom (name :: names)) :
    (tree.entry name).HasRoom names := by
  intro others content hasFile
  rcases hasRoom (name :: others) content (hasFile_entry_iff.mp hasFile) with same | apart
  · exact .inl (List.cons.inj same).2
  · rw [Apart, List.cons_prefix_cons, List.cons_prefix_cons] at apart
    simp only [true_and] at apart
    exact .inr apart

theorem HasRoom.of_sameFiles {changed : FileTree} (hasRoom : tree.HasRoom names)
    (same : changed.SameFiles tree) : changed.HasRoom names :=
  fun others content hasFile => hasRoom others content ((same others content).mp hasFile)

/-- The way to a place with room is open. -/
theorem HasRoom.isOpen_dropLast (hasRoom : tree.HasRoom names) (nonempty : names ≠ []) :
    tree.IsOpen names.dropLast := by
  intro before isPrefix content hasFile
  rcases hasRoom before content hasFile with rfl | apart
  · have shorter := isPrefix.length_le
    rw [List.length_dropLast] at shorter
    have positive := List.length_pos_iff.mpr nonempty
    omega
  · exact apart.2 (isPrefix.trans (List.dropLast_prefix names))

/-- A file is put at the end of some names, and all others stay. -/
theorem hasFile_change_file_iff (hasRoom : tree.HasRoom names) :
    (tree.change names fun _ => .file present).HasFile others content ↔
      if others = names then content = present else tree.HasFile others content := by
  induction names generalizing tree others with
  | nil =>
      cases others with
      | nil => simp [change, HasFile, at?, eq_comm]
      | cons other others =>
          refine iff_of_false not_hasFile_file_cons fun hasFile => ?_
          rcases hasRoom _ content hasFile with same | apart
          · contradiction
          · exact apart.1 List.nil_prefix
  | cons name names ih =>
      cases others with
      | nil =>
          refine iff_of_false not_hasFile_change_cons_nil fun hasFile => ?_
          rcases hasRoom _ content hasFile with same | apart
          · contradiction
          · exact apart.2 List.nil_prefix
      | cons other others =>
          rw [hasFile_change_cons_iff]
          split
          · next same =>
              subst same
              simp only [ih hasRoom.entry, hasFile_entry_iff, List.cons.injEq, true_and]
          · next different => simp [different]

theorem hasFile_writeFile_iff {path : String} (namesOnly : HasNamesOnly path)
    (hasRoom : tree.HasRoom (Text.parts '/' path)) :
    (tree.writeFile path present).HasFile others content ↔
      if others = Text.parts '/' path then content = present else tree.HasFile others content := by
  have nonempty : Text.parts '/' path ≠ [] := Text.parts_ne_nil '/' path
  have whole := List.dropLast_concat_getLast nonempty
  have areNames : ∀ segment ∈ (Text.parts '/' path).dropLast, IsName segment :=
    fun segment member => namesOnly segment (List.dropLast_subset _ member)
  have isOpen := hasRoom.isOpen_dropLast nonempty
  have isOpenFromTop : tree.IsOpen ([] ++ (Text.parts '/' path).dropLast) := by simpa using isOpen
  obtain ⟨names_eq, same⟩ := foldl_makeNext areNames isOpenFromTop
  have follow_eq : follow (Text.parts '/' path).dropLast
      ((Text.parts '/' path).getLast?.getD "") = Text.parts '/' path := by
    rw [List.getLast?_eq_some_getLast nonempty, Option.getD_some,
      follow_of_isName (namesOnly _ (List.getLast_mem nonempty)), whole]
  rw [List.nil_append] at names_eq
  rw [writeFile, makeDirectories]
  dsimp only
  rw [names_eq, follow_eq, hasFile_change_file_iff (hasRoom.of_sameFiles same), same others content]

end FileTree

/-! ## Layouts -/

namespace MemoryStore

open FileTree

/-- A tree has exactly the files of a table, each at the names of its
location. -/
def IsLaidOutIn (templates : MemoryStore) (tree : FileTree) : Prop :=
  ∀ names content, tree.HasFile names content ↔
    ∃ path text, templates.find? path = some text ∧ names = Text.parts '/' path ∧
      content = Text.toBytes text

variable {templates : MemoryStore} {tree : FileTree}

theorem IsLaidOutIn.hasFile_parts_iff (laidOut : templates.IsLaidOutIn tree) {path : String}
    {content : List UInt8} :
    tree.HasFile (Text.parts '/' path) content ↔
      ∃ text, templates.find? path = some text ∧ content = Text.toBytes text := by
  rw [laidOut]
  constructor
  · rintro ⟨other, text, found, same, rfl⟩
    rw [Text.parts_injective same]
    exact ⟨text, found, rfl⟩
  · rintro ⟨text, found, rfl⟩
    exact ⟨path, text, found, rfl, rfl⟩

/-- Where nothing stands, nothing is in the table. -/
theorem IsLaidOutIn.find?_eq_none (laidOut : templates.IsLaidOutIn tree) {path : String}
    (missing : tree.at? (Text.parts '/' path) = none) : templates.find? path = none := by
  rw [Option.eq_none_iff_forall_ne_some]
  intro text found
  have hasFile := laidOut.hasFile_parts_iff.mpr ⟨text, found, rfl⟩
  rw [HasFile, missing] at hasFile
  cases hasFile

theorem isLaidOutIn_empty : empty.IsLaidOutIn .empty := by
  intro names content
  refine iff_of_false not_hasFile_empty ?_
  rintro ⟨path, text, found, _⟩
  cases found

/-- A file that is written where there is room is laid out with the others. -/
theorem IsLaidOutIn.writeFile (laidOut : templates.IsLaidOutIn tree) {path : String}
    (namesOnly : HasNamesOnly path)
    (apart : ∀ other text, templates.find? other = some text →
      other = path ∨ Apart (Text.parts '/' path) (Text.parts '/' other)) (text : String) :
    (templates.insert path text).IsLaidOutIn (tree.writeFile path (Text.toBytes text)) := by
  have hasRoom : tree.HasRoom (Text.parts '/' path) := by
    intro others content hasFile
    obtain ⟨other, text, found, rfl, _⟩ := (laidOut _ _).mp hasFile
    rcases apart other text found with rfl | apart
    · exact .inl rfl
    · exact .inr apart
  intro names content
  rw [hasFile_writeFile_iff namesOnly hasRoom, laidOut]
  simp only [find?_insert]
  split
  · next same =>
      subst same
      constructor
      · rintro rfl
        exact ⟨path, text, if_pos rfl, rfl, rfl⟩
      · rintro ⟨other, otherText, found, same, rfl⟩
        rw [if_pos (Text.parts_injective same), Option.some.injEq] at found
        rw [found]
  · next different =>
      apply exists₂_congr
      intro other otherText
      rw [and_congr_left_iff]
      rintro ⟨rfl, _⟩
      rw [if_neg (fun same => different (by rw [same]))]

/-- The table of some templates, each with its location. -/
def ofTemplates (templates : List (String × String)) : MemoryStore :=
  templates.foldl (fun store template => store.insert template.1 template.2) empty

theorem ofTemplates_concat (templates : List (String × String)) (path text : String) :
    ofTemplates (templates ++ [(path, text)]) = (ofTemplates templates).insert path text := by
  rw [ofTemplates, List.foldl_append]
  rfl

theorem exists_mem_of_find?_ofTemplates {templates : List (String × String)} {path text : String}
    (found : (ofTemplates templates).find? path = some text) :
    ∃ template ∈ templates, template.1 = path := by
  induction templates using List.reverseRecOn with
  | nil => cases found
  | append_singleton templates template ih =>
      rw [ofTemplates_concat, find?_insert] at found
      split at found
      · next same => exact ⟨template, by simp, same⟩
      · obtain ⟨earlier, member, same⟩ := ih found
        exact ⟨earlier, List.mem_append_left _ member, same⟩

end MemoryStore

/-- The tree that some templates are written to, each at its location. -/
def FileTree.ofTemplates (templates : List (String × String)) : FileTree :=
  templates.foldl (fun tree template => tree.writeFile template.1 (Text.toBytes template.2)) .empty

theorem FileTree.ofTemplates_concat (templates : List (String × String)) (path text : String) :
    ofTemplates (templates ++ [(path, text)]) =
      (ofTemplates templates).writeFile path (Text.toBytes text) := by
  rw [ofTemplates, List.foldl_append]
  rfl

/-- Templates are laid out by writing them, in any order, if no location leads
to another. -/
theorem MemoryStore.isLaidOutIn_ofTemplates {templates : List (String × String)}
    (namesOnly : ∀ template ∈ templates, HasNamesOnly template.1)
    (apart : templates.Pairwise fun first second =>
      FileTree.Apart (Text.parts '/' second.1) (Text.parts '/' first.1)) :
    (ofTemplates templates).IsLaidOutIn (.ofTemplates templates) := by
  induction templates using List.reverseRecOn with
  | nil => exact isLaidOutIn_empty
  | append_singleton templates template ih =>
      rw [List.pairwise_append] at apart
      obtain ⟨apartBefore, _, apartFromLast⟩ := apart
      have laidOut := ih (fun earlier member => namesOnly earlier (List.mem_append_left _ member))
        apartBefore
      rw [ofTemplates_concat, FileTree.ofTemplates_concat]
      apply laidOut.writeFile (namesOnly template (by simp))
      intro other text found
      obtain ⟨earlier, member, rfl⟩ := exists_mem_of_find?_ofTemplates found
      exact .inr (apartFromLast earlier member template (by simp))

end Scaffold
