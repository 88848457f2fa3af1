import Scaffold.Proofs.Store.Layout

/-!
# Walks to a location

A location below a root is walked from the directory of the root.  If all its
segments are names, the walk arrives at what the tree has there, or finds that
there is nothing, unless it is blocked on the way: by a file where a directory
is needed, or by a name that is too long to be looked up.
-/

namespace Scaffold

namespace FileTree

/-! ## Walking down -/

/-- Whether a walk along some names ends early at a file or at a name that is
too long. -/
def isBlocked : FileTree → List String → Bool
  | _, [] => false
  | .file _, _ :: _ => true
  | .directory entries, name :: names =>
      255 < name.utf8ByteSize ||
        match entries.lookup name with
        | some entry => entry.isBlocked names
        | none => false

/-- What a walk along some names is to find. -/
def destination (tree : FileTree) (names : List String) : Except WalkFault FileTree :=
  match tree.at? names with
  | some found => .ok found
  | none => .error .missing

theorem destination_cons_of_lookup {entries : List (String × FileTree)} {name : String}
    {entry : FileTree} (found : entries.lookup name = some entry) (names : List String) :
    destination (.directory entries) (name :: names) = entry.destination names := by
  rw [destination, at?_cons, FileTree.entries, found]
  rfl

/-- A step to a name goes down, if there is a directory to go down from. -/
theorem step_of_isName {name : String} (isName : IsName name) (place : Place) :
    step place name =
      match place.tree with
      | .file _ => .error (.fault .notDirectory)
      | .directory entries =>
          if 255 < name.utf8ByteSize then .error (.fault .nameTooLong)
          else
            match entries.lookup name with
            | some tree => .ok ⟨tree, place.tree :: place.above⟩
            | none => .error .missing := by
  obtain ⟨nonempty, notHere, notUp⟩ := isName
  obtain ⟨tree, above⟩ := place
  cases tree with
  | file content => rfl
  | directory entries =>
      have moves : ¬(name = "" || name = ".") := by simp [nonempty, notHere]
      exact (if_neg moves).trans (if_neg notUp)

/-- A walk along names finds what stands there, unless it is blocked. -/
theorem foldlM_step_cases {names : List String} (areNames : ∀ name ∈ names, IsName name)
    (place : Place) :
    (names.foldlM step place).map Place.tree = place.tree.destination names ∨
      place.tree.isBlocked names ∧ ∃ fault, names.foldlM step place = .error (.fault fault) := by
  induction names generalizing place with
  | nil => exact .inl rfl
  | cons name names ih =>
      obtain ⟨isName, restAreNames⟩ := List.forall_mem_cons.mp areNames
      obtain ⟨tree, above⟩ := place
      rw [List.foldlM_cons, step_of_isName isName]
      cases tree with
      | file content => exact .inr ⟨rfl, _, rfl⟩
      | directory entries =>
          dsimp only
          by_cases long : 255 < name.utf8ByteSize
          · rw [if_pos long]
            exact .inr ⟨by simp [isBlocked, long], _, rfl⟩
          · rw [if_neg long]
            cases found : entries.lookup name with
            | none =>
                apply Or.inl
                simp only [destination, at?_cons, FileTree.entries, found]
                rfl
            | some entry =>
                have isBlocked_eq : isBlocked (.directory entries) (name :: names) =
                    entry.isBlocked names := by
                  simp [isBlocked, long, found]
                rw [isBlocked_eq, destination_cons_of_lookup found]
                exact ih restAreNames ⟨entry, _⟩

end FileTree

namespace FileSystem

open FileTree

variable {system : FileSystem} {root path other : String} {place : Place}

/-! ## Locations below a root -/

/-- A path of names is relative: an absolute one starts with an empty
segment. -/
theorem isAbsolute_of_hasNamesOnly (namesOnly : HasNamesOnly path) : isAbsolute path = false := by
  rw [isAbsolute, decide_eq_false_iff_not]
  intro atHead
  obtain ⟨rest, path_eq⟩ := List.head?_eq_some_iff.mp atHead
  have first : "" ∈ Text.parts '/' path := by
    simp [Text.parts, path_eq, Text.splitAt]
  exact (namesOnly "" first).1 rfl

/-- A relative path is put behind the root and a slash, if there is a root. -/
theorem exists_join_eq (nonempty : root ≠ "") :
    ∃ front, ∀ path, isAbsolute path = false → join root path = front ++ "/" ++ path := by
  by_cases closed : root.toList.getLast? = some '/'
  · obtain ⟨front, root_eq⟩ := List.getLast?_eq_some_iff.mp closed
    have split_eq : root = String.ofList front ++ "/" := by
      apply String.toList_injective
      simp [root_eq]
    refine ⟨String.ofList front, fun path relative => ?_⟩
    rw [join, if_neg (by simp [relative, nonempty]), if_pos closed, ← split_eq]
  · refine ⟨root, fun path relative => ?_⟩
    rw [join, if_neg (by simp [relative, nonempty]), if_neg closed]

/-- The parts of a location are those of its path behind those of the root. -/
theorem exists_parts_join (root : String) :
    ∃ front, ∀ path, isAbsolute path = false →
      Text.parts '/' (join root path) = front ++ Text.parts '/' path := by
  by_cases nonempty : root = ""
  · refine ⟨[], fun path _ => ?_⟩
    simp [join, nonempty]
  · obtain ⟨front, join_eq⟩ := exists_join_eq nonempty
    refine ⟨Text.parts '/' front, fun path relative => ?_⟩
    rw [join_eq path relative, parts_below]

theorem start_join (relative : isAbsolute path = false) (otherRelative : isAbsolute other = false) :
    system.start (join root path) = system.start (join root other) := by
  by_cases nonempty : root = ""
  · simp [join, nonempty, start, relative, otherRelative]
  · obtain ⟨front, join_eq⟩ := exists_join_eq nonempty
    have sameStart : isAbsolute (front ++ "/" ++ path) = isAbsolute (front ++ "/" ++ other) := by
      cases front_eq : front.toList <;> simp [isAbsolute, front_eq]
    rw [join_eq path relative, join_eq other otherRelative, start, start, sameStart]

theorem mem_join_iff {c : Char} (relative : isAbsolute path = false) (notSlash : c ≠ '/') :
    c ∈ (join root path).toList ↔ c ∈ root.toList ∨ c ∈ path.toList := by
  rw [join]
  split
  · next alone =>
      have empty : root = "" := by simpa [relative] using alone
      simp [empty]
  · split <;> simp [notSlash]

/-- A walk that ends somewhere is one that the system makes. -/
theorem foldlM_of_walk_eq_ok (arrived : system.walk path = .ok place) :
    '\x00' ∉ path.toList ∧ (Text.parts '/' path).foldlM step (system.start path) = .ok place := by
  rw [walk] at arrived
  split at arrived
  · cases arrived
  · next noNul =>
      split at arrived
      · cases arrived
      · split at arrived
        · cases arrived
        · exact ⟨by simpa using noNul, arrived⟩

/-- A walk to a location below a root goes on where the root leads to. -/
theorem foldlM_parts_join (rooted : system.walk (join root ".") = .ok place)
    (relative : isAbsolute path = false) :
    (Text.parts '/' (join root path)).foldlM step (system.start (join root path)) =
      (Text.parts '/' path).foldlM step place := by
  obtain ⟨front, parts_eq⟩ := exists_parts_join root
  have arrived := (foldlM_of_walk_eq_ok rooted).2
  have stays : Text.parts '/' "." = ["."] := by decide
  have here : isAbsolute "." = false := by decide
  rw [start_join here relative, parts_eq "." here, stays,
    List.foldlM_append] at arrived
  rw [parts_eq path relative, List.foldlM_append]
  cases reached : front.foldlM step (system.start (join root path)) with
  | error fault =>
      rw [reached] at arrived
      cases arrived
  | ok before =>
      rw [reached] at arrived
      have same : before = place := by
        obtain ⟨tree, above⟩ := before
        cases tree with
        | file content => cases arrived
        | directory entries => exact Except.ok.inj arrived
      rw [same]
      rfl

theorem walk_join (rooted : system.walk (join root ".") = .ok place)
    (namesOnly : HasNamesOnly path) :
    system.walk (join root path) =
      if '\x00' ∈ path.toList then .error (.fault .nulInPath)
      else if 4095 < (join root path).utf8ByteSize then .error (.fault .nameTooLong)
      else (Text.parts '/' path).foldlM step place := by
  have relative := isAbsolute_of_hasNamesOnly namesOnly
  have rootNoNul : '\x00' ∉ root.toList := by
    have noNul := (foldlM_of_walk_eq_ok rooted).1
    rw [mem_join_iff (by decide) (by decide), not_or] at noNul
    exact noNul.1
  have nonempty : join root path ≠ "" := by
    intro empty
    obtain ⟨front, parts_eq⟩ := exists_parts_join root
    obtain ⟨segment, member⟩ := List.exists_mem_of_ne_nil _ (Text.parts_ne_nil '/' path)
    have inJoin : segment ∈ Text.parts '/' (join root path) := by
      rw [parts_eq path relative]
      exact List.mem_append_right front member
    rw [empty, Text.parts_of_not_mem (by decide), List.mem_singleton] at inJoin
    exact (namesOnly segment member).1 inJoin
  have nul_iff : (join root path).toList.contains '\x00' = decide ('\x00' ∈ path.toList) := by
    rw [Bool.eq_iff_iff]
    simp [mem_join_iff relative, rootNoNul]
  rw [walk, nul_iff, if_neg nonempty, foldlM_parts_join rooted relative]
  simp

/-! ## Reading a location -/

/-- Whether a walk to a location is made and is not blocked. -/
def isPassable (root : String) (tree : FileTree) (path : String) : Bool :=
  !path.toList.contains '\x00' && (join root path).utf8ByteSize ≤ 4095 &&
    !tree.isBlocked (Text.parts '/' path)

theorem walk_join_of_isPassable (rooted : system.walk (join root ".") = .ok place)
    (namesOnly : HasNamesOnly path) (passable : isPassable root place.tree path) :
    (system.walk (join root path)).map Place.tree =
      place.tree.destination (Text.parts '/' path) := by
  simp only [isPassable, Bool.and_eq_true, Bool.not_eq_true', decide_eq_true_eq] at passable
  obtain ⟨⟨noNul, short⟩, notBlocked⟩ := passable
  rw [walk_join rooted namesOnly, if_neg (by simpa using noNul), if_neg (Nat.not_lt.mpr short)]
  rcases foldlM_step_cases namesOnly place with found | ⟨blocked, _⟩
  · exact found
  · rw [notBlocked] at blocked
    contradiction

/-- Whether or not a walk is blocked, what it finds is what there is. -/
theorem walk_join_cases (rooted : system.walk (join root ".") = .ok place)
    (namesOnly : HasNamesOnly path) :
    (system.walk (join root path)).map Place.tree =
        place.tree.destination (Text.parts '/' path) ∨
      ∃ fault, system.walk (join root path) = .error (.fault fault) := by
  rw [walk_join rooted namesOnly]
  split
  · exact .inr ⟨_, rfl⟩
  · split
    · exact .inr ⟨_, rfl⟩
    · rcases foldlM_step_cases namesOnly place with found | ⟨_, faulty⟩
      · exact .inl found
      · exact .inr faulty

end FileSystem

end Scaffold
