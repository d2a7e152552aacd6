import SolarCharts.Proofs.Files.Directories

/-!
# Trees whose entries lie in directories

A `FileTree` lists its entries, and the list alone does not say that what a file lies in is a
directory. A tree is `Rooted` when that holds at every place. An empty tree is, and nothing that
changes a tree breaks it.

* `Rooted.makeDirectories`, `Rooted.write` — a tree stays rooted when directories are made in it and
  files are written into it.
* `Rooted.contains_makeDirectories` — making a directory brings no file of it into view, where the
  path of the directory never goes up. With `..` it can: `missing/../charts` leads nowhere before
  `missing` is made, and to `charts` after.
-/

namespace SolarCharts

namespace FileTree

variable {tree tree' : FileTree}

/-! ## Rooted trees -/

/-- Every entry lies in a directory. -/
def Rooted (tree : FileTree) : Prop :=
  ∀ place name, (tree.entryAt? (place ++ [name])).isSome → tree.entryAt? place = some .directory

/-- What lies above an entry that is above the working directory is above that too. -/
theorem isPrefixOf_of_append {place : Place} {name : String} {home : Place}
    (h : (place ++ [name]).isPrefixOf home) : place.isPrefixOf home := by
  rw [List.isPrefixOf_iff_prefix] at h ⊢
  exact (List.prefix_append place [name]).trans h

theorem rooted_empty (home : Place) : (empty home).Rooted := by
  intro place name hSome
  by_cases hHome : (place ++ [name]).isPrefixOf home
  · exact entryAt?_of_isPrefixOf (isPrefixOf_of_append hHome)
  · simp [entryAt?, empty, hHome] at hSome

/-- What holds a directory, however far above it, is a directory. -/
theorem Rooted.above (h : tree.Rooted) {place : Place} (names : List String)
    (hEntry : tree.entryAt? (place ++ names) = some .directory) :
    tree.entryAt? place = some .directory := by
  induction names generalizing place with
  | nil => rwa [List.append_nil] at hEntry
  | cons name names ih =>
    rw [List.append_cons] at hEntry
    exact h place name (by rw [ih hEntry]; rfl)

/-- Going up from a directory leads to a directory. -/
theorem Rooted.dropLast (h : tree.Rooted) {place : Place}
    (hPlace : tree.entryAt? place = some .directory) :
    tree.entryAt? place.dropLast = some .directory := by
  rcases List.eq_nil_or_concat place with rfl | ⟨above, name, rfl⟩
  · exact hPlace
  · rw [List.concat_eq_append] at hPlace ⊢
    rw [List.dropLast_concat]
    exact h.above [name] hPlace

/-- A tree stays rooted when an entry is put into a directory of it, over no directory. -/
theorem Rooted.put (h : tree.Rooted) {place : Place} {name : String} (entry : Entry)
    (hIn : tree.entryAt? place = some .directory)
    (hFree : tree.entryAt? (place ++ [name]) ≠ some .directory) :
    (tree.put (place ++ [name]) entry).Rooted := by
  have hKeeps := keeps_put entry hFree
  intro other last hSome
  -- the new entry lies where it is put, and every other one where it lay
  by_cases hEq : other ++ [last] = place ++ [name]
  · obtain ⟨rfl, -⟩ := List.append_inj' hEq rfl
    exact hKeeps.directory _ hIn
  · rw [entryAt?_put_of_ne entry hEq] at hSome
    exact hKeeps.directory _ (h other last hSome)

/-- A path starts at a directory: the root, or the working directory. -/
theorem entryAt?_origin (tree : FileTree) (path : Path) :
    tree.entryAt? (tree.origin path) = some .directory := by
  apply entryAt?_of_isPrefixOf
  rw [origin, List.isPrefixOf_iff_prefix]
  split
  · exact List.nil_prefix
  · exact List.prefix_rfl

/-! ## Changes -/

/-- A tree stays rooted when directories are made on the way through some parts. -/
theorem Rooted.makeFrom (h : tree.Rooted) {place : Place} {parts : List String}
    (hIn : tree.entryAt? place = some .directory) : (tree.makeFrom place parts).1.Rooted := by
  fun_induction FileTree.makeFrom tree place parts with
  | case1 tree place => exact h
  | case2 tree place part parts hStays ih => exact ih h hIn
  | case3 tree place parts hStays ih => exact ih h (h.dropLast hIn)
  | case4 tree place part parts hStays hUp hLong => exact h
  | case5 tree place part parts hStays hUp hLong hDirectory ih => exact ih h hDirectory
  | case6 tree place part parts hStays hUp hLong content hFile => exact h
  | case7 tree place part parts hStays hUp hLong hNone ih =>
    -- a directory is made only where nothing was, and the next part is below it
    have hFree : tree.entryAt? (place ++ [part]) ≠ some .directory := by simp [hNone]
    exact ih (h.put .directory hIn hFree) (entryAt?_put_self .directory (not_isPrefixOf_home hFree))

/-- A tree stays rooted when a directory is made, also where that stops half-way. -/
theorem Rooted.makeDirectories (h : tree.Rooted) (path : Path) :
    (tree.makeDirectories path).1.Rooted := by
  rcases tree_makeDirectories tree path with hSame | hMade
  · rwa [hSame]
  · rw [hMade]
    exact h.makeFrom (entryAt?_origin tree path)

/-- Parts that can be walked lead to a directory. -/
theorem Rooted.entryAt?_of_walk (h : tree.Rooted) {place dest : Place} {parts : List String}
    (hIn : tree.entryAt? place = some .directory) (hWalk : tree.walk place parts = .ok dest) :
    tree.entryAt? dest = some .directory := by
  induction parts generalizing place with
  | nil =>
    obtain rfl := Except.ok.inj hWalk
    exact hIn
  | cons part parts ih =>
    rw [walk] at hWalk
    split at hWalk
    · next next hEnter =>
      -- a part stays, goes up, or enters a directory
      rcases enter_eq_ok_iff.mp hEnter with ⟨-, rfl⟩ | ⟨-, -, rfl⟩ | ⟨-, -, -, hDirectory, rfl⟩
      · exact ih hIn hWalk
      · exact ih (h.dropLast hIn) hWalk
      · exact ih hDirectory hWalk
    · simp at hWalk

/-- A path leads to a directory or to a place in one. -/
theorem Rooted.placeOf (h : tree.Rooted) {path : Path} {place : Place}
    (hPlace : tree.placeOf path = .ok place) :
    tree.entryAt? place = some .directory ∨
      ∃ dest name, place = dest ++ [name] ∧ tree.entryAt? dest = some .directory := by
  have hOrigin := entryAt?_origin tree path
  unfold FileTree.placeOf at hPlace
  split at hPlace
  · simp at hPlace
  · rcases List.eq_nil_or_concat path.parts with hNil | ⟨parts, name, hParts⟩
    · rw [hNil, follow] at hPlace
      rw [← Except.ok.inj hPlace]
      exact Or.inl hOrigin
    · rw [hParts, List.concat_eq_append, follow_append_one] at hPlace
      split at hPlace
      · next dest hWalk =>
        -- the last part stays, goes up, or names something in the directory
        have hDest := h.entryAt?_of_walk hOrigin hWalk
        rw [follow] at hPlace
        split at hPlace
        · rw [← Except.ok.inj hPlace]
          exact Or.inl hDest
        · split at hPlace
          · rw [← Except.ok.inj hPlace]
            exact Or.inl (h.dropLast hDest)
          · split at hPlace
            · simp at hPlace
            · exact Or.inr ⟨dest, name, (Except.ok.inj hPlace).symm, hDest⟩
      · simp at hPlace

/-- A tree stays rooted when a file is written into it. -/
theorem Rooted.write (h : tree.Rooted) {path : Path} {content : Content}
    (hWrite : tree.write path content = .ok tree') : tree'.Rooted := by
  obtain ⟨place, hPlace, hFree, rfl⟩ := write_eq_ok hWrite
  -- a file is not written over a directory, so it lies in one
  rcases h.placeOf hPlace with hDirectory | ⟨dest, name, rfl, hDest⟩
  · exact absurd hDirectory hFree
  · exact h.put _ hDest hFree

/-! ## Paths that never go up -/

/-- Without going up, a path leads through the places under its names. -/
theorem eq_of_walk {place dest : Place} {parts : List String} (hPlain : ".." ∉ parts)
    (hWalk : tree.walk place parts = .ok dest) : dest = place ++ Path.steps parts := by
  induction parts generalizing place with
  | nil => simpa [walk, Path.steps, eq_comm] using hWalk
  | cons part parts ih =>
    rw [List.mem_cons, not_or] at hPlain
    rw [walk] at hWalk
    split at hWalk
    · next next hEnter =>
      rw [ih hPlain.2 hWalk]
      -- going up is excluded, so a part leads nowhere or one name further
      rcases enter_eq_ok_iff.mp hEnter with ⟨hStays, rfl⟩ | ⟨-, hUp, -⟩ | ⟨hStays, -, -, -, rfl⟩
      · rw [Path.steps_cons_of_stays hStays]
      · exact absurd hUp.symm hPlain.1
      · rw [Path.steps_cons_of_not_stays (by simpa using hStays), ← List.append_cons]
    · simp at hWalk

/-- Making directories without going up changes nothing deeper than they are. -/
theorem entryAt?_makeFrom {place other : Place} {parts : List String} (hPlain : ".." ∉ parts)
    (hDeep : (place ++ Path.steps parts).length < other.length) :
    (tree.makeFrom place parts).1.entryAt? other = tree.entryAt? other := by
  fun_induction makeFrom tree place parts with
  | case1 tree place => rfl
  | case2 tree place part parts hStays ih =>
    rw [Path.steps_cons_of_stays hStays] at hDeep
    exact ih (fun hMem => hPlain (List.mem_cons_of_mem _ hMem)) hDeep
  | case3 tree place parts hStays ih => exact absurd List.mem_cons_self hPlain
  | case4 tree place part parts hStays hUp hLong => rfl
  | case5 tree place part parts hStays hUp hLong hDirectory ih =>
    rw [Path.steps_cons_of_not_stays hStays, List.append_cons] at hDeep
    exact ih (fun hMem => hPlain (List.mem_cons_of_mem _ hMem)) hDeep
  | case6 tree place part parts hStays hUp hLong content hFile => rfl
  | case7 tree place part parts hStays hUp hLong hNone ih =>
    rw [Path.steps_cons_of_not_stays hStays, List.append_cons] at hDeep
    rw [ih (fun hMem => hPlain (List.mem_cons_of_mem _ hMem)) hDeep]
    -- the new directory is not as deep
    refine entryAt?_put_of_ne _ fun hEq => ?_
    rw [hEq, List.length_append] at hDeep
    omega

/-- Nor does making a directory whose path does not go up. -/
theorem entryAt?_makeDirectories {path : Path} {other : Place} (hPlain : ".." ∉ path.parts)
    (hDeep : (tree.origin path ++ Path.steps path.parts).length < other.length) :
    (tree.makeDirectories path).1.entryAt? other = tree.entryAt? other := by
  rcases tree_makeDirectories tree path with hSame | hMade
  · rw [hSame]
  · rw [hMade]
    exact entryAt?_makeFrom hPlain hDeep

/-- Where a path that never goes up leads once directories are made, it led before, if there was a
directory. -/
theorem Rooted.walk_of_walk (h : tree.Rooted) {place dest : Place} {parts : List String}
    (hPlain : ".." ∉ parts) (hWalk : tree'.walk place parts = .ok dest)
    (hDest : tree.entryAt? dest = some .directory) : tree.walk place parts = .ok dest := by
  induction parts generalizing place with
  | nil => exact hWalk
  | cons part parts ih =>
    rw [List.mem_cons, not_or] at hPlain
    rw [walk] at hWalk ⊢
    split at hWalk
    · next next hEnter =>
      have hSame : tree.enter place part = .ok next := by
        rw [enter_eq_ok_iff] at hEnter ⊢
        rcases hEnter with hStays | hUp | ⟨hStays, hUp, hSize, -, rfl⟩
        · exact Or.inl hStays
        · exact Or.inr (Or.inl hUp)
        · -- the directory at the end lies in this one
          refine Or.inr (Or.inr ⟨hStays, hUp, hSize, h.above (Path.steps parts) ?_, rfl⟩)
          rw [← eq_of_walk hPlain.2 hWalk]
          exact hDest
      rw [hSame]
      exact ih hPlain.2 hWalk
    · simp at hWalk

/-- Making a directory whose path never goes up brings no file of it into view. -/
theorem Rooted.contains_makeDirectories (h : tree.Rooted) {directory : Path}
    (hPlain : ".." ∉ directory.parts) {name : String} (hName : Path.Ordinary name) :
    (tree.makeDirectories directory.trimmed).1.contains (directory.join name) =
      tree.contains (directory.join name) := by
  have hKeeps := keeps_makeDirectories tree directory.trimmed
  obtain ⟨made, hMade⟩ : ∃ made, (tree.makeDirectories directory.trimmed).1 = made := ⟨_, rfl⟩
  rw [hMade] at hKeeps ⊢
  have hTrimmed : ".." ∉ directory.trimmed.parts := by
    rwa [← Path.up_mem_steps, Path.steps_trimmed, Path.up_mem_steps]
  have hStem : ".." ∉ directory.stem := by
    rwa [← Path.up_mem_steps, Path.steps_stem, Path.up_mem_steps]
  have hOrigin := origin_of_retains hKeeps.retains directory.trimmed
  rw [Bool.eq_iff_iff]
  -- what was there is there still, so only what has come into view is in question
  refine ⟨fun hContains => ?_, contains_of_keeps hKeeps⟩
  obtain ⟨place, hPlace, hSome⟩ := contains_iff.mp hContains
  obtain ⟨dest, hWalk⟩ := exists_walk_of_placeOf_join hName hPlace
  obtain rfl := eq_of_placeOf_join hName hWalk hPlace
  -- the file lies deeper than every directory that was made
  have hEntry : made.entryAt? (dest ++ [name]) = tree.entryAt? (dest ++ [name]) := by
    have hDest : dest = tree.origin directory.trimmed ++ Path.steps directory.trimmed.parts := by
      rw [eq_of_walk hStem hWalk, hOrigin, Path.steps_stem, Path.steps_trimmed]
    rw [← hMade]
    refine entryAt?_makeDirectories hTrimmed ?_
    rw [← hDest, List.length_append]
    exact Nat.lt_succ_self _
  rw [hEntry] at hSome
  -- the file was there, so the directory that holds it was, and led there already
  have hBefore : tree.walk (tree.origin directory.trimmed) directory.stem = .ok dest := by
    rw [← hOrigin]
    exact h.walk_of_walk hStem hWalk (h dest name hSome)
  refine contains_iff.mpr ⟨dest ++ [name], ?_, hSome⟩
  rw [placeOf_join hName hBefore, ← placeOf_join hName hWalk]
  exact hPlace

end FileTree

end SolarCharts
