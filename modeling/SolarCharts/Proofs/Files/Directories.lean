import Mathlib.Data.List.Basic
import SolarCharts.Files.Tree

/-!
# Directories that a path leads through

The last part of a path names what the path is about; the parts before it lead to the directory that
it lies in. `FileTree.walk` goes there, and whether it arrives depends on the directories of the
tree alone. So a tree that keeps its directories keeps what its paths lead through
(`walk_of_retains`), and three things follow that every writer of files relies on.

* `isOpen_of_makeDirectories` — a directory that was made can be entered from then on.
* `IsOpen.makeDirectories_eq` — making it again changes nothing.
* `contains_write_of_ne` — a file written into it hides and reveals no other file of it.
-/

namespace SolarCharts

/-! ## Parts that lead somewhere -/

namespace Path

/-- The parts of a directory that stand in front of the name of a file in it. -/
def stem (directory : Path) : List String :=
  if directory.parts.getLast? = some "" then directory.parts.dropLast else directory.parts

/-- A name that leads to what it names: a single part, and no name of a directory itself or of the one
above it. -/
structure Ordinary (name : String) : Prop where
  single : '/' ∉ name.toList
  leads : stays name = false
  onward : name ≠ ".."

/-- Without a slash a name is the path of one part. -/
theorem ofText_of_single {name : String} (h : '/' ∉ name.toList) : ofText name = ⟨[name]⟩ := by
  simp [ofText, Text.parts, Text.splitAt_of_not_mem h]

/-- The path of an ordinary name in a directory ends in that name. -/
theorem parts_join (directory : Path) {name : String} (hName : Ordinary name) :
    (directory.join name).parts = directory.stem ++ [name] := by
  have hRelative : isAbsolute ⟨[name]⟩ = false := by simp [isAbsolute]
  unfold join stem
  simp only [ofText_of_single hName.single, hRelative, Bool.false_eq_true, if_false]
  split <;> rfl

theorem steps_cons_of_stays {part : String} (h : stays part = true) (parts : List String) :
    steps (part :: parts) = steps parts := by
  simp [steps, h]

theorem steps_cons_of_not_stays {part : String} (h : ¬ stays part = true) (parts : List String) :
    steps (part :: parts) = part :: steps parts := by
  simp [steps, h]

theorem up_mem_steps {parts : List String} : ".." ∈ steps parts ↔ ".." ∈ parts := by
  simp [steps, stays]

/-- A slash at the end of a directory is no step. -/
theorem steps_stem (directory : Path) : steps directory.stem = steps directory.parts := by
  unfold stem
  split
  · next hLast =>
    have hSplit := List.dropLast_append_getLast? "" hLast
    rw [steps, steps, ← hSplit, List.dropLast_concat, List.filter_append]
    simp [stays]
  · rfl

/-- Neither are slashes and lone dots at the start. -/
theorem steps_dropWhile (parts : List String) : steps (parts.dropWhile stays) = steps parts := by
  induction parts with
  | nil => rfl
  | cons part parts ih =>
    by_cases hStays : stays part = true
    · rw [List.dropWhile_cons_of_pos hStays, ih, steps_cons_of_stays hStays]
    · rw [List.dropWhile_cons_of_neg hStays]

theorem steps_reverse (parts : List String) : steps parts.reverse = (steps parts).reverse :=
  List.filter_reverse

/-- So slashes and lone dots at the end are no steps. -/
theorem steps_dropEnd (parts : List String) : steps (Text.dropEnd stays parts) = steps parts := by
  rw [Text.dropEnd, steps_reverse, steps_dropWhile, steps_reverse, List.reverse_reverse]

theorem steps_cons (part : String) (parts : List String) :
    steps (part :: parts) = steps [part] ++ steps parts := by
  rw [steps, steps, steps, ← List.filter_append]
  rfl

/-- Trimming takes away only parts that lead nowhere. -/
theorem steps_trimmed (path : Path) : steps path.trimmed.parts = steps path.parts := by
  rcases path with ⟨_ | ⟨first, rest⟩⟩
  · rfl
  · have hRest := steps_dropEnd rest
    unfold trimmed
    simp only
    split
    · -- the root is kept as a slash, which is no step
      next hRoot =>
      obtain ⟨hFirst, hKept, -⟩ := hRoot
      rw [List.isEmpty_iff.mp hKept] at hRest
      rw [steps_cons first, ← hRest, hFirst]
      rfl
    · rw [steps_cons first, hRest, ← steps_cons]

theorem isAbsolute_cons (first second : String) (rest : List String) :
    isAbsolute ⟨first :: second :: rest⟩ = (first == "") := by
  simp [isAbsolute]

/-- Trimming such a path does not change where it starts. -/
theorem isAbsolute_trimmed_cons (first second : String) (rest : List String) :
    (trimmed ⟨first :: second :: rest⟩).isAbsolute = (first == "") := by
  unfold trimmed
  simp only
  split
  · next hRoot =>
    rw [hRoot.1]
    rfl
  · next hRoot =>
    cases hKept : Text.dropEnd stays (second :: rest) with
    | nil =>
      -- nothing is left after the first part, so it is not the root
      have hFirst : first ≠ "" := fun hEq => hRoot (by simp [hEq, hKept])
      simp [isAbsolute, hFirst]
    | cons kept more => exact isAbsolute_cons first kept more

theorem isAbsolute_trimmed (path : Path) : path.trimmed.isAbsolute = path.isAbsolute := by
  rcases path with ⟨_ | ⟨first, _ | ⟨second, rest⟩⟩⟩
  · rfl
  · simp [trimmed, isAbsolute, Text.dropEnd]
  · rw [isAbsolute_trimmed_cons, isAbsolute_cons]

/-- A file in a directory is looked for from where the directory is. -/
theorem isAbsolute_join (directory : Path) {name : String} (hName : Ordinary name) :
    (directory.join name).isAbsolute = directory.trimmed.isAbsolute := by
  have hParts := parts_join directory hName
  -- a first part is the root only if it is empty and another part follows it
  rcases directory with ⟨_ | ⟨first, _ | ⟨second, rest⟩⟩⟩
  · have hAlone : stem ⟨[]⟩ = [] := rfl
    rw [isAbsolute, hParts, hAlone]
    simp [trimmed, isAbsolute]
  · by_cases hFirst : first = ""
    · rw [isAbsolute, hParts]
      simp [stem, trimmed, isAbsolute, hFirst, Text.dropEnd]
    · rw [isAbsolute, hParts]
      simp [stem, trimmed, isAbsolute, hFirst, Text.dropEnd]
  · obtain ⟨tail, hStem⟩ : ∃ tail, stem ⟨first :: second :: rest⟩ = first :: tail := by
      unfold stem
      split
      · exact ⟨_, rfl⟩
      · exact ⟨_, rfl⟩
    obtain ⟨next, more, hMore⟩ := List.exists_cons_of_ne_nil (List.concat_ne_nil name tail)
    rw [hStem, List.cons_append, hMore] at hParts
    rw [isAbsolute_trimmed_cons, ← isAbsolute_cons first next more, ← hParts]

theorem dropEnd_append_slash (parts : List String) :
    Text.dropEnd stays (parts ++ [""]) = Text.dropEnd stays parts := by
  rw [Text.dropEnd, List.reverse_append, List.reverse_singleton, List.singleton_append,
    List.dropWhile_cons_of_pos rfl, Text.dropEnd]

/-- Without a slash that ends it, a directory of several parts is trimmed to the same. -/
theorem trimmed_stem {first second : String} {rest : List String}
    (hStem : stem ⟨first :: second :: rest⟩ ≠ [""]) :
    trimmed ⟨stem ⟨first :: second :: rest⟩⟩ = trimmed ⟨first :: second :: rest⟩ := by
  unfold stem at hStem ⊢
  split
  · next hLast =>
    have hSplit := List.dropLast_append_getLast? "" hLast
    rw [if_pos hLast, List.dropLast_cons_cons] at hStem
    rw [List.dropLast_cons_cons] at hSplit ⊢
    have hRest : (second :: rest).dropLast ++ [""] = second :: rest := (List.cons.inj hSplit).2
    -- where the first part is empty, others are left after it, or it would be the root
    have hMore : first = "" → ¬ (second :: rest).dropLast.isEmpty = true := fun hFirst hEmpty =>
      hStem (by rw [hFirst, List.isEmpty_iff.mp hEmpty])
    have hKept := dropEnd_append_slash (second :: rest).dropLast
    rw [hRest] at hKept
    simp only [trimmed, hKept]
    by_cases hFirst : first = ""
    · simp [hFirst, hMore hFirst]
    · simp [hFirst]
  · rfl

/-- A file of a directory lies in that directory. -/
theorem folder_join {directory : Path} (hParts : directory.parts ≠ []) {name : String}
    (hName : Ordinary name) : (directory.join name).folder = directory.trimmed := by
  rw [folder, parts_join directory hName, List.dropLast_concat]
  rcases directory with ⟨_ | ⟨first, _ | ⟨second, rest⟩⟩⟩
  · exact absurd rfl hParts
  · -- the empty path, or a single name
    by_cases hFirst : first = ""
    · rw [hFirst]
      rfl
    · simp [stem, trimmed, hFirst, Text.dropEnd]
  · -- a directory that is written as slashes alone is the root
    by_cases hRoot : stem ⟨first :: second :: rest⟩ = [""]
    · obtain ⟨rfl, rfl, rfl⟩ : first = "" ∧ second = "" ∧ rest = [] := by
        unfold stem at hRoot
        split at hRoot
        · next hLast =>
          have hSplit := List.dropLast_append_getLast? "" hLast
          rw [hRoot] at hSplit
          simpa [eq_comm] using hSplit
        · simp at hRoot
      rfl
    · split
      · next hNone =>
        have hLength := congrArg List.length hNone
        unfold stem at hLength
        split at hLength
        · simp at hLength
        · simp at hLength
      · next hOne => exact absurd hOne hRoot
      · exact trimmed_stem hRoot

end Path

namespace FileTree

variable {tree tree' : FileTree}

/-! ## Walking -/

/-- The directory that the parts of a path lead to, each through the one before it. -/
def walk (tree : FileTree) (place : Place) : List String → Except FileError Place
  | [] => .ok place
  | part :: parts =>
    match tree.enter place part with
    | .ok next => walk tree next parts
    | .error e => .error e

/-- Nothing of a tree is missing from another tree with the same working directory, and what was a
directory is one. -/
structure Keeps (tree tree' : FileTree) : Prop where
  home : tree'.home = tree.home
  directory : ∀ place, tree.entryAt? place = some .directory → tree'.entryAt? place = some .directory
  present : ∀ place, (tree.entryAt? place).isSome → (tree'.entryAt? place).isSome

/-- What was a directory of a tree is one of another tree with the same working directory. Files may be
missing from it. -/
structure Retains (tree tree' : FileTree) : Prop where
  home : tree'.home = tree.home
  directory : ∀ place, tree.entryAt? place = some .directory → tree'.entryAt? place = some .directory

theorem Keeps.retains (h : tree.Keeps tree') : tree.Retains tree' := ⟨h.home, h.directory⟩

theorem Retains.refl (tree : FileTree) : tree.Retains tree := ⟨rfl, fun _ h => h⟩

theorem Retains.trans {tree'' : FileTree} (h : tree.Retains tree') (h' : tree'.Retains tree'') :
    tree.Retains tree'' :=
  ⟨h'.home.trans h.home, fun place hPlace => h'.directory place (h.directory place hPlace)⟩

theorem Keeps.refl (tree : FileTree) : tree.Keeps tree := ⟨rfl, fun _ h => h, fun _ h => h⟩

theorem Keeps.trans {tree'' : FileTree} (h : tree.Keeps tree') (h' : tree'.Keeps tree'') :
    tree.Keeps tree'' :=
  ⟨h'.home.trans h.home, fun place hPlace => h'.directory place (h.directory place hPlace),
    fun place hPlace => h'.present place (h.present place hPlace)⟩

/-- Something stands where an entry is put. -/
theorem entryAt?_put_isSome (tree : FileTree) (place : Place) (entry : Entry) :
    ((tree.put place entry).entryAt? place).isSome := by
  by_cases hHome : place.isPrefixOf tree.home
  · have hAbove : place.isPrefixOf (tree.put place entry).home := hHome
    rw [entryAt?_of_isPrefixOf hAbove]
    rfl
  · rw [entryAt?_put_self entry hHome]
    rfl

/-- Where no directory is, the working directory is neither there nor below. -/
theorem not_isPrefixOf_home {place : Place} (h : tree.entryAt? place ≠ some .directory) :
    ¬ place.isPrefixOf tree.home :=
  fun hHome => h (entryAt?_of_isPrefixOf hHome)

/-- Putting an entry where no directory is keeps the tree. -/
theorem keeps_put {place : Place} (entry : Entry) (h : tree.entryAt? place ≠ some .directory) :
    tree.Keeps (tree.put place entry) := by
  refine ⟨rfl, fun other hOther => ?_, fun other hOther => ?_⟩
  · have hNe : other ≠ place := fun hEq => h (hEq ▸ hOther)
    rw [entryAt?_put_of_ne entry hNe, hOther]
  · -- what stood at that place, if anything did, is replaced and not lost
    by_cases hEq : other = place
    · rw [hEq]
      exact entryAt?_put_isSome tree place entry
    · rw [entryAt?_put_of_ne entry hEq]
      exact hOther

/-- The three ways on: staying, going up, and entering a directory. -/
theorem enter_eq_ok_iff {place next : Place} {part : String} :
    tree.enter place part = .ok next ↔
      (Path.stays part = true ∧ next = place) ∨
      (Path.stays part = false ∧ part = ".." ∧ next = place.dropLast) ∨
      (Path.stays part = false ∧ part ≠ ".." ∧ part.utf8ByteSize ≤ maxNameSize ∧
        tree.entryAt? (place ++ [part]) = some .directory ∧ next = place ++ [part]) := by
  unfold enter
  by_cases hStays : Path.stays part = true
  · simp [hStays, eq_comm]
  · by_cases hUp : part = ".."
    · simp [hUp, show Path.stays ".." = false from rfl, eq_comm]
    · by_cases hLong : maxNameSize < part.utf8ByteSize
      · simp [hStays, hUp, hLong, Nat.not_le_of_gt hLong]
      · rcases hEntry : tree.entryAt? (place ++ [part]) with _ | _ | content
        · simp [hStays, hUp, hLong]
        · simp [hStays, hUp, hLong, Nat.le_of_not_lt hLong, eq_comm]
        · simp [hStays, hUp, hLong]

theorem enter_directory {place : Place} {part : String} (hStays : ¬ Path.stays part = true)
    (hUp : part ≠ "..") (hSize : ¬ maxNameSize < part.utf8ByteSize)
    (hDirectory : tree.entryAt? (place ++ [part]) = some .directory) :
    tree.enter place part = .ok (place ++ [part]) :=
  enter_eq_ok_iff.mpr (Or.inr (Or.inr
    ⟨by simpa using hStays, hUp, Nat.le_of_not_lt hSize, hDirectory, rfl⟩))

/-- A part leads where it led. -/
theorem enter_of_retains (h : tree.Retains tree') {place next : Place} {part : String}
    (hEnter : tree.enter place part = .ok next) : tree'.enter place part = .ok next := by
  rw [enter_eq_ok_iff] at hEnter ⊢
  rcases hEnter with hStays | hUp | ⟨hStays, hUp, hSize, hDirectory, hNext⟩
  · exact Or.inl hStays
  · exact Or.inr (Or.inl hUp)
  · exact Or.inr (Or.inr ⟨hStays, hUp, hSize, h.directory _ hDirectory, hNext⟩)

/-- So do several. -/
theorem walk_of_retains (h : tree.Retains tree') {place dest : Place} {parts : List String}
    (hWalk : tree.walk place parts = .ok dest) : tree'.walk place parts = .ok dest := by
  induction parts generalizing place with
  | nil => exact hWalk
  | cons part parts ih =>
    rw [walk] at hWalk ⊢
    split at hWalk
    · -- the first part leads to the same directory, and the others go on from there
      next next hEnter =>
      rw [enter_of_retains h hEnter]
      exact ih hWalk
    · simp at hWalk

/-- Parts that lead nowhere else do not matter to a walk. -/
theorem walk_steps (tree : FileTree) (place : Place) (parts : List String) :
    tree.walk place (Path.steps parts) = tree.walk place parts := by
  induction parts generalizing place with
  | nil => rfl
  | cons part parts ih =>
    by_cases hStays : Path.stays part = true
    · have hEnter : tree.enter place part = .ok place := by rw [enter, if_pos hStays]
      rw [Path.steps_cons_of_stays hStays, ih, walk, hEnter]
    · rw [Path.steps_cons_of_not_stays hStays, walk, walk]
      cases tree.enter place part with
      | ok next => exact ih next
      | error e => rfl

/-- A part that others come after is entered. -/
theorem follow_cons (tree : FileTree) (place : Place) (part : String) {parts : List String}
    (h : parts ≠ []) :
    tree.follow place (part :: parts) =
      match tree.enter place part with
      | .ok next => tree.follow next parts
      | .error e => .error e := by
  cases parts with
  | nil => exact absurd rfl h
  | cons next more => rfl

/-- The last part of a path is looked for in the directory that the others lead to. -/
theorem follow_append_one (tree : FileTree) (place : Place) (parts : List String) (name : String) :
    tree.follow place (parts ++ [name]) =
      match tree.walk place parts with
      | .ok dest => tree.follow dest [name]
      | .error e => .error e := by
  induction parts generalizing place with
  | nil => rfl
  | cons part parts ih =>
    rw [List.cons_append, follow_cons tree place part (List.concat_ne_nil name parts), walk]
    cases tree.enter place part with
    | ok next => exact ih next
    | error e => rfl

/-! ## Making directories -/

/-- Where one can walk, nothing is left to make. -/
theorem makeFrom_of_walk {place dest : Place} {parts : List String}
    (h : tree.walk place parts = .ok dest) : tree.makeFrom place parts = (tree, .ok ()) := by
  induction parts generalizing place with
  | nil => rfl
  | cons part parts ih =>
    rw [walk] at h
    split at h
    · next next hEnter =>
      -- each way on is one that makes nothing
      rcases enter_eq_ok_iff.mp hEnter with ⟨hStays, rfl⟩ | ⟨hStays, rfl, rfl⟩ |
        ⟨hStays, hUp, hSize, hDirectory, rfl⟩
      · simp [makeFrom, hStays, ih h]
      · simp [makeFrom, hStays, ih h]
      · simp [makeFrom, hStays, hUp, Nat.not_lt.mpr hSize, hDirectory, ih h]
    · simp at h

/-- Making directories loses nothing, also when it fails half-way. -/
theorem keeps_makeFrom (tree : FileTree) (place : Place) (parts : List String) :
    tree.Keeps (tree.makeFrom place parts).1 := by
  fun_induction makeFrom tree place parts with
  | case1 tree place => exact Keeps.refl tree
  | case2 tree place part parts hStays ih => exact ih
  | case3 tree place parts hStays ih => exact ih
  | case4 tree place part parts hStays hUp hLong => exact Keeps.refl tree
  | case5 tree place part parts hStays hUp hLong hDirectory ih => exact ih
  | case6 tree place part parts hStays hUp hLong content hFile => exact Keeps.refl tree
  | case7 tree place part parts hStays hUp hLong hNone ih =>
    exact (keeps_put .directory (by simp [hNone])).trans ih

/-- A walk can be made where its first part can be entered, and the rest walked from there. -/
theorem exists_walk_cons {place next : Place} {part : String} {parts : List String}
    (hEnter : tree.enter place part = .ok next) (h : ∃ dest, tree.walk next parts = .ok dest) :
    ∃ dest, tree.walk place (part :: parts) = .ok dest := by
  obtain ⟨dest, hWalk⟩ := h
  exact ⟨dest, by rw [walk, hEnter]; exact hWalk⟩

/-- What was made can be walked. -/
theorem walk_of_makeFrom {place : Place} {parts : List String}
    (h : tree.makeFrom place parts = (tree', .ok ())) :
    ∃ dest, tree'.walk place parts = .ok dest := by
  fun_induction makeFrom tree place parts with
  | case1 tree place => exact ⟨place, rfl⟩
  | case2 tree place part parts hStays ih =>
    exact exists_walk_cons (enter_eq_ok_iff.mpr (Or.inl ⟨hStays, rfl⟩)) (ih h)
  | case3 tree place parts hStays ih =>
    exact exists_walk_cons (enter_eq_ok_iff.mpr (Or.inr (Or.inl ⟨rfl, rfl, rfl⟩))) (ih h)
  -- a name that is too long, or a file in the way, would have stopped it
  | case4 tree place part parts hStays hUp hLong => simp at h
  | case5 tree place part parts hStays hUp hLong hDirectory ih =>
    -- the directory is still there once the rest is made
    have hKeeps := keeps_makeFrom tree (place ++ [part]) parts
    rw [h] at hKeeps
    exact exists_walk_cons
      (enter_directory hStays hUp hLong (hKeeps.directory _ hDirectory)) (ih h)
  | case6 tree place part parts hStays hUp hLong content hFile => simp at h
  | case7 tree place part parts hStays hUp hLong hNone ih =>
    have hKeeps := keeps_makeFrom (tree.put (place ++ [part]) .directory) (place ++ [part]) parts
    rw [h] at hKeeps
    have hOutside : ¬ (place ++ [part]).isPrefixOf tree.home := not_isPrefixOf_home (by simp [hNone])
    have hMade := hKeeps.directory _ (entryAt?_put_self .directory hOutside)
    exact exists_walk_cons (enter_directory hStays hUp hLong hMade) (ih h)

/-- Making directories again makes nothing more, and stops where it stopped. -/
theorem makeFrom_makeFrom (tree : FileTree) (place : Place) (parts : List String) :
    (tree.makeFrom place parts).1.makeFrom place parts = tree.makeFrom place parts := by
  fun_induction makeFrom tree place parts with
  | case1 tree place => rfl
  | case2 tree place part parts hStays ih => rw [makeFrom, if_pos hStays, ih]
  | case3 tree place parts hStays ih => rw [makeFrom, if_neg hStays, if_pos rfl, ih]
  | case4 tree place part parts hStays hUp hLong => simp [makeFrom, hStays, hUp, hLong]
  | case5 tree place part parts hStays hUp hLong hDirectory ih =>
    -- what is made further on leaves this directory there
    have hMade := (keeps_makeFrom tree (place ++ [part]) parts).directory _ hDirectory
    simp [makeFrom, hStays, hUp, hLong, hMade, ih]
  | case6 tree place part parts hStays hUp hLong content hFile =>
    simp [makeFrom, hStays, hUp, hLong, hFile]
  | case7 tree place part parts hStays hUp hLong hNone ih =>
    -- the directory that was made is now one that is there
    have hOutside : ¬ (place ++ [part]).isPrefixOf tree.home := not_isPrefixOf_home (by simp [hNone])
    have hKeeps := keeps_makeFrom (tree.put (place ++ [part]) .directory) (place ++ [part]) parts
    have hMade := hKeeps.directory _ (entryAt?_put_self .directory hOutside)
    simp [makeFrom, hStays, hUp, hLong, hMade, ih]

/-- A directory that is there, and can be entered from where its path starts. -/
def IsOpen (tree : FileTree) (path : Path) : Prop :=
  path = .empty ∨
    (pathFault? path = none ∧ ∃ dest, tree.walk (tree.origin path) path.parts = .ok dest)

theorem origin_of_retains (h : tree.Retains tree') (path : Path) :
    tree'.origin path = tree.origin path := by
  rw [origin, origin, h.home]

theorem IsOpen.of_retains {path : Path} (h : tree.IsOpen path) (hRetains : tree.Retains tree') :
    tree'.IsOpen path := by
  rcases h with hEmpty | ⟨hFault, dest, hWalk⟩
  · exact Or.inl hEmpty
  · rw [← origin_of_retains hRetains] at hWalk
    exact Or.inr ⟨hFault, dest, walk_of_retains hRetains hWalk⟩

/-- Making a directory that is open changes nothing. -/
theorem IsOpen.makeDirectories_eq {path : Path} (h : tree.IsOpen path) :
    tree.makeDirectories path = (tree, .ok ()) := by
  unfold makeDirectories
  rcases h with hEmpty | ⟨hFault, dest, hWalk⟩
  · rw [if_pos hEmpty]
  · simp only [hFault, makeFrom_of_walk hWalk, ite_self]

/-- What making a directory leaves: the tree as it was, or with the directories that the parts of the
path lead through. -/
theorem tree_makeDirectories (tree : FileTree) (path : Path) :
    (tree.makeDirectories path).1 = tree ∨
      (tree.makeDirectories path).1 = (tree.makeFrom (tree.origin path) path.parts).1 := by
  unfold makeDirectories
  split
  · exact Or.inl rfl
  · split
    · exact Or.inl rfl
    · refine Or.inr ?_
      split
      · next made hMade => rw [hMade]
      · rfl

/-- A directory is made when nothing stops what its parts lead through, or when it is the empty path. -/
theorem makeDirectories_eq_ok {path : Path} (h : tree.makeDirectories path = (tree', .ok ())) :
    (path = .empty ∧ tree' = tree) ∨
      (pathFault? path = none ∧ tree.makeFrom (tree.origin path) path.parts = (tree', .ok ())) := by
  unfold makeDirectories at h
  split at h
  · next hEmpty => exact Or.inl ⟨hEmpty, (Prod.mk.inj h).1.symm⟩
  · split at h
    · cases (Prod.mk.inj h).2
    · next hFault =>
      refine Or.inr ⟨hFault, ?_⟩
      split at h
      · cases (Prod.mk.inj h).2
      · exact h

/-- Making a directory loses nothing, also when it fails half-way. -/
theorem keeps_makeDirectories (tree : FileTree) (path : Path) :
    tree.Keeps (tree.makeDirectories path).1 := by
  rcases tree_makeDirectories tree path with hSame | hMade
  · rw [hSame]
    exact Keeps.refl tree
  · rw [hMade]
    exact keeps_makeFrom tree (tree.origin path) path.parts

/-- Making a directory again makes nothing more, also where it could not be made the first time. -/
theorem makeDirectories_makeDirectories (tree : FileTree) (path : Path) :
    ((tree.makeDirectories path).1.makeDirectories path).1 = (tree.makeDirectories path).1 := by
  have hOrigin := origin_of_retains (keeps_makeDirectories tree path).retains path
  rcases tree_makeDirectories tree path with hSame | hMade
  · rw [hSame, hSame]
  · rcases tree_makeDirectories (tree.makeDirectories path).1 path with hSame' | hMade'
    · exact hSame'
    · rw [hMade', hOrigin, hMade, makeFrom_makeFrom]

/-- A directory is open once it is made. -/
theorem isOpen_of_makeDirectories {path : Path}
    (h : tree.makeDirectories path = (tree', .ok ())) : tree'.IsOpen path := by
  have hKeeps := keeps_makeDirectories tree path
  rw [h] at hKeeps
  rcases makeDirectories_eq_ok h with ⟨hEmpty, -⟩ | ⟨hFault, hMade⟩
  · exact Or.inl hEmpty
  · have hWalk := walk_of_makeFrom hMade
    rw [← origin_of_retains hKeeps.retains] at hWalk
    exact Or.inr ⟨hFault, hWalk⟩

/-- What is open after an attempt to make it was made by that attempt. -/
theorem makeDirectories_of_isOpen {path : Path}
    (h : (tree.makeDirectories path).1.IsOpen path) :
    tree.makeDirectories path = ((tree.makeDirectories path).1, .ok ()) := by
  rcases h with hEmpty | ⟨hFault, dest, hWalk⟩
  · simp [makeDirectories, hEmpty]
  · by_cases hEmpty : path = .empty
    · simp [makeDirectories, hEmpty]
    · have hOrigin := origin_of_retains (keeps_makeDirectories tree path).retains path
      have hAgain := makeFrom_makeFrom tree (tree.origin path) path.parts
      rcases hMade : tree.makeFrom (tree.origin path) path.parts with ⟨made, result⟩
      have hTree : (tree.makeDirectories path).1 = made := by
        rw [makeDirectories, if_neg hEmpty, hFault, hMade]
        dsimp only
        split
        · next hEnd => rw [← (Prod.mk.inj hEnd).1]
        · rfl
      -- one can walk where it stopped, so it did not stop
      rw [hOrigin, hTree] at hWalk
      rw [hMade, makeFrom_of_walk hWalk] at hAgain
      obtain rfl := (Prod.mk.inj hAgain).2
      simp [makeDirectories, hEmpty, hFault, hMade]

/-- The directory of a file is made as the file's own folder. -/
theorem makeDirectories_folder_join (tree : FileTree) (directory : Path) {name : String}
    (hName : Path.Ordinary name) :
    tree.makeDirectories (directory.join name).folder = tree.makeDirectories directory.trimmed := by
  by_cases hParts : directory.parts = []
  · -- a path of no parts, like the empty one, asks for nothing
    obtain rfl : directory = ⟨[]⟩ := congrArg Path.mk hParts
    rw [Path.folder, Path.parts_join _ hName, List.dropLast_concat, makeDirectories, makeDirectories]
    rfl
  · rw [Path.folder_join hParts hName]

/-- The folder of a file is open exactly if the directory is that the file is named in. -/
theorem isOpen_folder_join (tree : FileTree) (directory : Path) {name : String}
    (hName : Path.Ordinary name) :
    tree.IsOpen (directory.join name).folder ↔ tree.IsOpen directory.trimmed := by
  by_cases hParts : directory.parts = []
  · obtain rfl : directory = ⟨[]⟩ := congrArg Path.mk hParts
    rw [Path.folder, Path.parts_join _ hName, List.dropLast_concat]
    exact iff_of_true (Or.inl rfl) (Or.inr ⟨by decide, tree.origin ⟨[]⟩, rfl⟩)
  · rw [Path.folder_join hParts hName]

/-! ## Files -/

/-- A path leads where it led. -/
theorem placeOf_of_retains (h : tree.Retains tree') {path : Path} {place : Place}
    (hPlace : tree.placeOf path = .ok place) : tree'.placeOf path = .ok place := by
  unfold placeOf at hPlace ⊢
  split
  · next hFault => simp [hFault] at hPlace
  · next hFault =>
    simp only [hFault] at hPlace
    rw [origin_of_retains h]
    -- all parts but the last are walked, and the last one does not depend on the tree
    rcases List.eq_nil_or_concat path.parts with hNil | ⟨parts, name, hParts⟩
    · rw [hNil] at hPlace ⊢
      exact hPlace
    · rw [hParts, List.concat_eq_append, follow_append_one] at hPlace ⊢
      split at hPlace
      · next dest hWalk =>
        rw [walk_of_retains h hWalk]
        exact hPlace
      · simp at hPlace

/-- A path leads to something if it has a place, and something is there. -/
theorem contains_iff {path : Path} :
    tree.contains path = true ↔
      ∃ place, tree.placeOf path = .ok place ∧ (tree.entryAt? place).isSome := by
  unfold contains find
  cases tree.placeOf path with
  | error e => simp [Except.isOk, Except.toBool]
  | ok place => cases h : tree.entryAt? place <;> simp [h, Except.isOk, Except.toBool]

theorem contains_of_keeps (h : tree.Keeps tree') {path : Path} (hPath : tree.contains path = true) :
    tree'.contains path = true := by
  obtain ⟨place, hPlace, hEntry⟩ := contains_iff.mp hPath
  exact contains_iff.mpr ⟨place, placeOf_of_retains h.retains hPlace, h.present place hEntry⟩

/-- The names in front of a file's name lead where those of its directory do. -/
theorem walk_stem (tree : FileTree) (place : Place) (directory : Path) :
    tree.walk place directory.stem = tree.walk place directory.trimmed.parts := by
  rw [← walk_steps, Path.steps_stem, ← Path.steps_trimmed, walk_steps]

/-- The way to the files of an open directory can be walked. -/
theorem IsOpen.exists_walk {directory : Path} (h : tree.IsOpen directory.trimmed) :
    ∃ dest, tree.walk (tree.origin directory.trimmed) directory.stem = .ok dest := by
  simp only [walk_stem]
  -- the empty path stands for the working directory, where one is already
  rcases h with hEmpty | ⟨-, hWalk⟩
  · rw [hEmpty]
    exact ⟨_, rfl⟩
  · exact hWalk

/-- A file in a directory is looked for from where the directory is. -/
theorem origin_join (tree : FileTree) (directory : Path) {name : String}
    (hName : Path.Ordinary name) :
    tree.origin (directory.join name) = tree.origin directory.trimmed := by
  rw [origin, origin, Path.isAbsolute_join directory hName]

/-- A file can be looked for only where its directory can be walked to. -/
theorem exists_walk_of_placeOf_join {directory : Path} {name : String} {place : Place}
    (hName : Path.Ordinary name) (h : tree.placeOf (directory.join name) = .ok place) :
    ∃ dest, tree.walk (tree.origin directory.trimmed) directory.stem = .ok dest := by
  rw [placeOf, origin_join tree directory hName, Path.parts_join directory hName,
    follow_append_one] at h
  split at h
  · simp at h
  · split at h
    · next dest hWalk => exact ⟨dest, hWalk⟩
    · simp at h

/-- The place of a file in a directory: under its name, where the directory is. -/
theorem placeOf_join {directory : Path} {dest : Place} {name : String} (hName : Path.Ordinary name)
    (h : tree.walk (tree.origin directory.trimmed) directory.stem = .ok dest) :
    tree.placeOf (directory.join name) =
      match pathFault? (directory.join name) with
      | some e => .error e
      | none =>
        if maxNameSize < name.utf8ByteSize then .error .nameTooLong else .ok (dest ++ [name]) := by
  rw [placeOf, origin_join tree directory hName, Path.parts_join directory hName,
    follow_append_one, h]
  cases pathFault? (directory.join name) with
  | some e => rfl
  | none => simp only [follow, hName.leads, hName.onward, Bool.false_eq_true, if_false]

/-- The place of a file in a directory is the one under its name. -/
theorem eq_of_placeOf_join {directory : Path} {dest place : Place} {name : String}
    (hName : Path.Ordinary name)
    (h : tree.walk (tree.origin directory.trimmed) directory.stem = .ok dest)
    (hPlace : tree.placeOf (directory.join name) = .ok place) : place = dest ++ [name] := by
  rw [placeOf_join hName h] at hPlace
  split at hPlace
  · simp at hPlace
  · split at hPlace
    · simp at hPlace
    · exact (Except.ok.inj hPlace).symm

/-- A file that is written stands at the place of its path, where no directory was. -/
theorem write_eq_ok {path : Path} {content : Content} (h : tree.write path content = .ok tree') :
    ∃ place, tree.placeOf path = .ok place ∧ tree.entryAt? place ≠ some .directory ∧
      tree' = tree.put place (.file content) := by
  unfold write at h
  split at h
  · simp at h
  · next place hPlace =>
    split at h
    · simp at h
    · next hFree => exact ⟨place, hPlace, hFree, (Except.ok.inj h).symm⟩

/-- A file that is there can be written, and then holds what was written. -/
theorem exists_write_of_file {path : Path} {place : Place} {old : Content}
    (hPlace : tree.placeOf path = .ok place) (hFile : tree.entryAt? place = some (.file old))
    (content : Content) :
    ∃ tree', tree.write path content = .ok tree' ∧
      tree'.entryAt? place = some (.file content) := by
  have hOutside : ¬ place.isPrefixOf tree.home := not_isPrefixOf_home (by simp [hFile])
  refine ⟨tree.put place (.file content), ?_, entryAt?_put_self _ hOutside⟩
  simp only [write, hPlace, hFile]

/-- Writing a file loses nothing but what the file held. -/
theorem keeps_write {path : Path} {content : Content} (h : tree.write path content = .ok tree') :
    tree.Keeps tree' := by
  obtain ⟨place, -, hFree, rfl⟩ := write_eq_ok h
  exact keeps_put _ hFree

/-- Writing a file in a directory that is open leaves the other files of the directory. -/
theorem contains_write_of_ne {directory : Path} (hOpen : tree.IsOpen directory.trimmed)
    {name other : String} (hName : Path.Ordinary name) (hOther : Path.Ordinary other)
    (hNe : other ≠ name) {content : Content}
    (hWrite : tree.write (directory.join name) content = .ok tree') :
    tree'.contains (directory.join other) = tree.contains (directory.join other) := by
  obtain ⟨dest, hWalk⟩ := hOpen.exists_walk
  have hKeeps := keeps_write hWrite
  have hWalk' : tree'.walk (tree'.origin directory.trimmed) directory.stem = .ok dest := by
    rw [origin_of_retains hKeeps.retains]
    exact walk_of_retains hKeeps.retains hWalk
  have hPlaceOf : tree'.placeOf (directory.join other) = tree.placeOf (directory.join other) := by
    rw [placeOf_join hOther hWalk, placeOf_join hOther hWalk']
  -- the two files have different names in one directory, so they are in different places
  have hEntry : tree'.entryAt? (dest ++ [other]) = tree.entryAt? (dest ++ [other]) := by
    obtain ⟨place, hPlace, -, rfl⟩ := write_eq_ok hWrite
    rw [eq_of_placeOf_join hName hWalk hPlace]
    exact entryAt?_put_of_ne _ fun hEq => hNe (by simpa using hEq)
  rw [Bool.eq_iff_iff, contains_iff, contains_iff, hPlaceOf]
  constructor
  · rintro ⟨place, hPlace, hSome⟩
    have hEq := eq_of_placeOf_join hOther hWalk hPlace
    exact ⟨place, hPlace, by rw [hEq] at hSome ⊢; rwa [← hEntry]⟩
  · rintro ⟨place, hPlace, hSome⟩
    have hEq := eq_of_placeOf_join hOther hWalk hPlace
    exact ⟨place, hPlace, by rw [hEq] at hSome ⊢; rwa [hEntry]⟩

end FileTree

end SolarCharts
