import SolarCharts.Proofs.Files.Directories

/-!
# What making directories touches

The parts of a path name one place after the other, each below the last or above it. Making the
directories of a path puts a directory at some of those places, where nothing was, and changes nothing
else: `grows_makeDirectories`. That holds also when it stops half-way.
-/

namespace SolarCharts.FileTree

variable {tree tree' tree'' : FileTree} {places : List Place}

/-- The places below a directory that the parts of a path name, one after the other. -/
def trail (place : Place) : List String → List Place
  | [] => []
  | part :: parts =>
    if Path.stays part then trail place parts
    else if part = ".." then trail place.dropLast parts
    else (place ++ [part]) :: trail (place ++ [part]) parts

/-- Nothing is changed but that directories stand at some places where nothing was. -/
def Grows (tree tree' : FileTree) (places : List Place) : Prop :=
  ∀ place, tree'.entryAt? place = tree.entryAt? place ∨
    (place ∈ places ∧ tree.entryAt? place = none ∧ tree'.entryAt? place = some .directory)

theorem Grows.refl (tree : FileTree) (places : List Place) : tree.Grows tree places :=
  fun _ => Or.inl rfl

/-- What grows twice has grown at the places of both times. -/
theorem Grows.trans (h : tree.Grows tree' places) (h' : tree'.Grows tree'' places) :
    tree.Grows tree'' places := by
  intro place
  rcases h place with hSame | ⟨hMem, hNone, hMade⟩
  · rcases h' place with hSame' | ⟨hMem', hNone', hMade'⟩
    · exact Or.inl (hSame'.trans hSame)
    · exact Or.inr ⟨hMem', hSame.symm.trans hNone', hMade'⟩
  · rcases h' place with hSame' | ⟨-, hNone', -⟩
    · exact Or.inr ⟨hMem, hNone, hSame'.trans hMade⟩
    · -- the directory is there by now
      rw [hMade] at hNone'
      cases hNone'

theorem Grows.mono {more : List Place} (h : tree.Grows tree' places)
    (hMore : ∀ place ∈ places, place ∈ more) : tree.Grows tree' more := by
  intro place
  rcases h place with hSame | ⟨hMem, hMade⟩
  · exact Or.inl hSame
  · exact Or.inr ⟨hMore place hMem, hMade⟩

/-- What stands in a tree stands in the grown one as it was. -/
theorem Grows.entryAt?_eq (h : tree.Grows tree' places) {place : Place} {entry : Entry}
    (hEntry : tree.entryAt? place = some entry) : tree'.entryAt? place = some entry := by
  rcases h place with hSame | ⟨-, hNone, -⟩
  · rw [hSame, hEntry]
  · rw [hEntry] at hNone
    cases hNone

/-- A directory that is put where nothing was grows the tree there. -/
theorem grows_put {place : Place} (hNone : tree.entryAt? place = none) :
    tree.Grows (tree.put place .directory) [place] := by
  intro other
  by_cases hHere : other = place
  · -- nothing was there, so it is not above the working directory
    have hOutside : ¬ place.isPrefixOf tree.home := not_isPrefixOf_home (by simp [hNone])
    rw [hHere]
    exact Or.inr ⟨List.mem_singleton_self place, hNone, entryAt?_put_self .directory hOutside⟩
  · exact Or.inl (entryAt?_put_of_ne .directory hHere)

/-- What is made on the way through some parts stands at the places that they name. -/
theorem grows_makeFrom (tree : FileTree) (place : Place) (parts : List String) :
    tree.Grows (tree.makeFrom place parts).1 (trail place parts) := by
  fun_induction makeFrom tree place parts with
  | case1 tree place => exact Grows.refl tree _
  | case2 tree place part parts hStays ih =>
    rw [trail, if_pos hStays]
    exact ih
  | case3 tree place parts hStays ih =>
    rw [trail, if_neg hStays, if_pos rfl]
    exact ih
  -- where a part is refused nothing more is made, and neither is it where a file is in the way
  | case4 tree place part parts hStays hUp hLong => exact Grows.refl tree _
  | case5 tree place part parts hStays hUp hLong hDirectory ih =>
    rw [trail, if_neg hStays, if_neg hUp]
    exact ih.mono fun other hOther => List.mem_cons_of_mem _ hOther
  | case6 tree place part parts hStays hUp hLong content hFile => exact Grows.refl tree _
  | case7 tree place part parts hStays hUp hLong hNone ih =>
    rw [trail, if_neg hStays, if_neg hUp]
    -- the new directory is the first of the trail, and the rest grows below it
    have hFirst : tree.Grows (tree.put (place ++ [part]) .directory)
        ((place ++ [part]) :: trail (place ++ [part]) parts) :=
      (grows_put hNone).mono fun other hOther => by
        rw [List.mem_singleton.mp hOther]
        exact List.mem_cons_self
    exact hFirst.trans (ih.mono fun other hOther => List.mem_cons_of_mem _ hOther)

/-- Making a directory grows a tree along the parts of its path. -/
theorem grows_makeDirectories (tree : FileTree) (path : Path) :
    tree.Grows (tree.makeDirectories path).1 (trail (tree.origin path) path.parts) := by
  -- a path that is refused as a whole makes nothing
  rcases tree_makeDirectories tree path with hSame | hMade
  · rw [hSame]
    exact Grows.refl tree _
  · rw [hMade]
    exact grows_makeFrom tree (tree.origin path) path.parts

end SolarCharts.FileTree
