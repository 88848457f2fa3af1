import Scaffold.Generation.Plan
import Scaffold.Proofs.Text.Parts
import Scaffold.Proofs.Validation.Outputs
import Scaffold.Store.FileTree

/-!
# Paths that stay in their directories

A path is resolved by its segments alone: each name goes down, `..` goes up,
and empty segments and `.` stay.  A contained path has names only, so it leads
below the directory in front of it, and a suffix at its end does not change
that.  So every template of a flawless view is read from the directory of the
screens, and every screen is written to its own directory.
-/

namespace Scaffold

/-! ## Resolving a path -/

/-- Whether a segment goes down to something of its name. -/
def IsName (segment : String) : Prop :=
  segment ≠ "" ∧ segment ≠ "." ∧ segment ≠ ".."

instance (segment : String) : Decidable (IsName segment) :=
  inferInstanceAs (Decidable (_ ∧ _))

/-- The names that a path leads to. -/
def resolve (path : String) : List String :=
  (Text.parts '/' path).foldl FileTree.follow []

/-- Whether all segments of a path are names. -/
def HasNamesOnly (path : String) : Prop :=
  ∀ segment ∈ Text.parts '/' path, IsName segment

instance (path : String) : Decidable (HasNamesOnly path) :=
  inferInstanceAs (Decidable (∀ segment ∈ _, _))

theorem follow_of_isName {segment : String} (isName : IsName segment) (names : List String) :
    FileTree.follow names segment = names ++ [segment] := by
  obtain ⟨nonempty, notHere, notUp⟩ := isName
  simp [FileTree.follow, nonempty, notHere, notUp]

theorem foldl_follow_of_isName {segments : List String}
    (areNames : ∀ segment ∈ segments, IsName segment) (names : List String) :
    segments.foldl FileTree.follow names = names ++ segments := by
  induction segments generalizing names with
  | nil => simp
  | cons segment segments ih =>
      obtain ⟨isName, restAreNames⟩ := List.forall_mem_cons.mp areNames
      rw [List.foldl_cons, follow_of_isName isName, ih restAreNames, List.append_assoc,
        List.singleton_append]

/-- Names lead down, one after another. -/
theorem resolve_of_hasNamesOnly {path : String} (namesOnly : HasNamesOnly path) :
    resolve path = Text.parts '/' path := by
  rw [resolve, foldl_follow_of_isName namesOnly, List.nil_append]

theorem HasNamesOnly.intercalate_resolve {path : String} (namesOnly : HasNamesOnly path) :
    "/".intercalate (resolve path) = path := by
  rw [resolve_of_hasNamesOnly namesOnly]
  exact Text.intercalate_parts '/' path

/-! ## Putting paths together -/

theorem parts_below (directory path : String) :
    Text.parts '/' (directory ++ "/" ++ path) =
      Text.parts '/' directory ++ Text.parts '/' path :=
  Text.parts_append directory path

theorem HasNamesOnly.below {directory path : String} (inDirectory : HasNamesOnly directory)
    (inPath : HasNamesOnly path) : HasNamesOnly (directory ++ "/" ++ path) := by
  intro segment member
  rw [parts_below, List.mem_append] at member
  exact member.elim (inDirectory segment) (inPath segment)

theorem HasNamesOnly.within {directory middle path : String} (inDirectory : HasNamesOnly directory)
    (folder : String) (middle_eq : middle = "/" ++ folder ++ "/")
    (inFolder : HasNamesOnly folder) (inPath : HasNamesOnly path) :
    HasNamesOnly (directory ++ middle ++ path) := by
  have reassociated :
      directory ++ middle ++ path = directory ++ "/" ++ (folder ++ "/" ++ path) := by
    simp only [middle_eq, String.append_assoc]
  rw [reassociated]
  exact inDirectory.below (inFolder.below inPath)

/-- What ends with a suffix of more than two characters is a name. -/
theorem isName_append {suffix : String} (long : 2 < suffix.length) (name : String) :
    IsName (name ++ suffix) := by
  have longer : 2 < (name ++ suffix).length := by
    rw [String.length_append]
    omega
  refine ⟨?_, ?_, ?_⟩ <;>
    · intro same
      rw [same] at longer
      exact absurd longer (by decide)

/-- The segment that a suffix is glued to stays a name. -/
theorem HasNamesOnly.append {path suffix : String} (namesOnly : HasNamesOnly path)
    (long : 2 < suffix.length) (flat : '/' ∉ suffix.toList) : HasNamesOnly (path ++ suffix) := by
  obtain ⟨before, last, parts_eq, glued_eq⟩ := Text.parts_append_of_not_mem flat path
  intro segment member
  rw [glued_eq] at member
  rcases List.mem_append.mp member with inBefore | isLast
  · apply namesOnly
    rw [parts_eq]
    exact List.mem_append_left _ inBefore
  · rw [List.mem_singleton.mp isLast]
    exact isName_append long last

/-! ## Contained paths -/

theorem hasNamesOnly_of_isContainedPath {path : String} (contained : isContainedPath path) :
    HasNamesOnly path := by
  simp only [isContainedPath, Bool.and_eq_true, List.all_eq_true] at contained
  intro segment member
  simpa [IsName, and_assoc] using contained.2 segment member

theorem isPlainName_iff {name : String} :
    isPlainName name ↔ '/' ∉ name.toList ∧ isContainedPath name := by
  simp [isPlainName]

/-- Whether a template lies in its directory, as output validation has it.
Only the template of a screen is in question. -/
def TemplateId.IsContained : TemplateId → Prop
  | .screen template => isContainedPath template
  | _ => True

namespace TemplateId

theorem hasNamesOnly_directory : HasNamesOnly directory := by
  decide

theorem hasNamesOnly_builderDirectory : HasNamesOnly builderDirectory := by
  decide

theorem hasNamesOnly_name {id : TemplateId} (contained : id.IsContained) :
    HasNamesOnly id.name := by
  cases id with
  | screen template =>
      exact (hasNamesOnly_of_isContainedPath contained).append (by decide) (by decide)
  | _ => decide

/-- All locations of a contained template have names only. -/
theorem hasNamesOnly_of_mem_candidates {id : TemplateId} (contained : id.IsContained)
    {candidate : String} (member : candidate ∈ id.candidates) : HasNamesOnly candidate := by
  have inDirectory := hasNamesOnly_directory
  have inName := hasNamesOnly_name contained
  have inNavigation : HasNamesOnly "src/navigation" := by decide
  cases id with
  | appConfig =>
      simp only [candidates, List.mem_cons, List.not_mem_nil, or_false] at member
      rcases member with rfl | rfl
      · exact inDirectory.below inName
      · exact inDirectory.within "app" rfl (by decide) inName
  | packageManifest | appEntry =>
      simp only [candidates, List.mem_singleton] at member
      rw [member]
      exact inDirectory.below inName
  | rootNavigator =>
      simp only [candidates, List.mem_singleton] at member
      rw [member]
      exact inDirectory.within "src/navigation" rfl inNavigation inName
  | bottomTabs | drawer =>
      simp only [candidates, List.mem_cons, List.not_mem_nil, or_false] at member
      rcases member with rfl | rfl
      · exact inDirectory.within "src/navigation" rfl inNavigation inName
      · exact hasNamesOnly_builderDirectory.within "src/navigation" rfl inNavigation inName
  | globalButton | globalTextInput =>
      simp only [candidates, List.mem_singleton] at member
      rw [member]
      exact inDirectory.within "src/components" rfl (by decide) inName
  | screen template =>
      simp only [candidates, List.mem_singleton] at member
      rw [member]
      exact inDirectory.within "src/screens" rfl (by decide) inName

end TemplateId

namespace ViewScreen

/-- The directory that the file of a screen is written to. -/
def directory (screen : ViewScreen) : String :=
  if screen.isAuth then "src/screens/Auth" else "src/screens"

theorem hasNamesOnly_directory (screen : ViewScreen) : HasNamesOnly screen.directory := by
  unfold directory
  split <;> decide

theorem outputPath_eq (screen : ViewScreen) :
    screen.outputPath = screen.directory ++ "/" ++ (screen.name ++ ".js") := by
  unfold outputPath directory
  split <;> rw [← String.append_assoc] <;> rfl

theorem resolve_directory (screen : ViewScreen) :
    resolve screen.directory =
      if screen.isAuth then ["src", "screens", "Auth"] else ["src", "screens"] := by
  unfold directory
  split <;> decide

theorem hasNamesOnly_outputPath {screen : ViewScreen} (plain : isPlainName screen.name) :
    HasNamesOnly screen.outputPath := by
  have inFile : HasNamesOnly (screen.name ++ ".js") :=
    (hasNamesOnly_of_isContainedPath (isPlainName_iff.mp plain).2).append (by decide) (by decide)
  rw [outputPath_eq]
  exact screen.hasNamesOnly_directory.below inFile

/-- A screen with a plain name is a file in its directory. -/
theorem resolve_outputPath {screen : ViewScreen} (plain : isPlainName screen.name) :
    resolve screen.outputPath = resolve screen.directory ++ [screen.name ++ ".js"] := by
  have flat : '/' ∉ (screen.name ++ ".js").toList := by
    simp [(isPlainName_iff.mp plain).1]
  rw [resolve_of_hasNamesOnly (hasNamesOnly_outputPath plain),
    resolve_of_hasNamesOnly screen.hasNamesOnly_directory, outputPath_eq, parts_below,
    Text.parts_of_not_mem flat]

end ViewScreen

namespace AppView

/-- The template of each screen of a flawless view lies below the directory of
the templates of screens.  Its output resolves to itself, and to nothing but a
file in its own directory. -/
theorem screens_stay_in_directories (view : AppView) (flawless : view.violations = []) :
    ∀ screen ∈ view.screens,
      (∃ candidate, (TemplateId.screen screen.template).candidates = [candidate] ∧
        ∃ below, below ≠ [] ∧
          resolve candidate = ["lib", "templates-appjs", "src", "screens"] ++ below) ∧
      "/".intercalate (resolve screen.outputPath) = screen.outputPath ∧
      (resolve screen.outputPath).dropLast =
        if screen.isAuth then ["src", "screens", "Auth"] else ["src", "screens"] := by
  intro screen member
  have flaws := (flaws_eq_nil_iff view).mp ((violations_eq_nil_iff view).mp flawless)
  obtain ⟨plain, contained⟩ := flaws.1 screen member
  have isContained : (TemplateId.screen screen.template).IsContained := contained
  refine ⟨⟨_, rfl, ?_⟩, ?_, ?_⟩
  · have namesOnly : HasNamesOnly (TemplateId.directory ++ "/src/screens/" ++
        (screen.template ++ ".mustache")) :=
      TemplateId.hasNamesOnly_of_mem_candidates isContained
        List.mem_cons_self
    exact ⟨Text.parts '/' (screen.template ++ ".mustache"), Text.parts_ne_nil _ _,
      (resolve_of_hasNamesOnly namesOnly).trans
        (parts_below "lib/templates-appjs/src/screens" _)⟩
  · exact (ViewScreen.hasNamesOnly_outputPath plain).intercalate_resolve
  · rw [ViewScreen.resolve_outputPath plain, List.dropLast_concat, screen.resolve_directory]

/-- An app whose screens have names and templates of dots and blanks. -/
def dottedScreens : AppView where
  appName := "Pocket Bank"
  slug := "pocket-bank"
  owner := "acme"
  useLatestExpo := true
  category := none
  routes := .empty
  screens :=
    [⟨.auth, "...", "..sign/in.. ", none, []⟩, ⟨.stack, " .", "shop/... /.cart", none, []⟩,
      ⟨.tab, "Auth", ". ./Home", none, []⟩]

theorem dottedScreens_stay_in_directories :
    dottedScreens.violations = [] ∧
      ∀ screen ∈ dottedScreens.screens,
        (∃ candidate, (TemplateId.screen screen.template).candidates = [candidate] ∧
          ∃ below, below ≠ [] ∧
            resolve candidate = ["lib", "templates-appjs", "src", "screens"] ++ below) ∧
        "/".intercalate (resolve screen.outputPath) = screen.outputPath ∧
        (resolve screen.outputPath).dropLast =
          if screen.isAuth then ["src", "screens", "Auth"] else ["src", "screens"] := by
  have flawless : dottedScreens.violations = [] := by decide
  exact ⟨flawless, screens_stay_in_directories dottedScreens flawless⟩

end AppView

end Scaffold
