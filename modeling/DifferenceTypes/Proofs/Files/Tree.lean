import DifferenceTypes.Files.Tree

/-!
# What operations on files leave as it was

A path is followed through directories only, so it leads where it led as long as the directories on
the way stay. Making directories, also several at once and also when it fails half-way, only adds
directories to a tree; writing a file changes one location and takes no directory away. Where a path leads does not
depend on what is there: `follow` either fails or gives the location that `FilePath.locate` gives.
-/

namespace DifferenceTypes.FileTree

/-- The later tree is the tree with some directories added where nothing was. -/
structure Grows (tree later : FileTree) : Prop where
  workingDirectory : later.workingDirectory = tree.workingDirectory
  added : ∀ location, later.find? location = tree.find? location ∨
    tree.find? location = none ∧ later.find? location = some .directory

theorem Grows.refl (tree : FileTree) : tree.Grows tree :=
  ⟨rfl, fun _ => .inl rfl⟩

/-- Everything that was in the tree is in the later one. -/
theorem Grows.kept {tree later : FileTree} (grows : tree.Grows later) (location : Location)
    (entry : FileEntry) (found : tree.find? location = some entry) :
    later.find? location = some entry := by
  rcases grows.added location with same | ⟨absent, -⟩
  · exact same.trans found
  · exact nomatch absent.symm.trans found

theorem Grows.trans {tree middle later : FileTree} (first : tree.Grows middle)
    (second : middle.Grows later) : tree.Grows later := by
  refine ⟨second.workingDirectory.trans first.workingDirectory, fun location => ?_⟩
  rcases first.added location with same | ⟨absent, made⟩
  · rw [← same]
    exact second.added location
  · exact .inr ⟨absent, second.kept _ _ made⟩

theorem workingDirectory_put (tree : FileTree) (location : Location) (entry : FileEntry) :
    (tree.put location entry).workingDirectory = tree.workingDirectory :=
  rfl

/-! ### Following a path -/

/-- A step that succeeds starts in a directory and goes where steps go. -/
theorem enter_eq_ok {tree : FileTree} {location next : Location} {part : Text}
    (entered : tree.enter location part = .ok next) :
    tree.find? location = some .directory ∧ next = FilePath.step location part := by
  unfold enter at entered
  split at entered
  · simp at entered
  · simp at entered
  · rename_i found
    split at entered
    · simp at entered
    · exact ⟨found, (Except.ok.inj entered).symm⟩

/-- Steps that succeed go where steps go. -/
theorem foldlM_enter_eq_ok {tree : FileTree} {parts : List Text} {location last : Location}
    (entered : parts.foldlM tree.enter location = .ok last) :
    last = parts.foldl FilePath.step location := by
  induction parts generalizing location with
  | nil => exact (Except.ok.inj entered).symm
  | cons part rest inductionHypothesis =>
    rw [List.foldlM_cons] at entered
    cases step : tree.enter location part with
    | error error => simp [step, bind, Except.bind] at entered
    | ok next =>
      simp only [step, bind, Except.bind] at entered
      rw [inductionHypothesis entered, (enter_eq_ok step).2, List.foldl_cons]

/-- A path that can be followed leads where it is located. -/
theorem follow_eq_locate {tree : FileTree} {path : FilePath} {location : Location}
    (followed : tree.follow path = .ok location) :
    location = path.locate tree.workingDirectory := by
  unfold follow at followed
  cases checked : checkPath path with
  | error error => simp [checked, bind, Except.bind] at followed
  | ok done =>
    simp only [checked, bind, Except.bind] at followed
    rw [foldlM_enter_eq_ok followed]
    rfl

/-- Steps that succeed go on succeeding where all directories stay. -/
theorem foldlM_enter_of_directories {tree later : FileTree}
    (kept : ∀ location, tree.find? location = some .directory →
      later.find? location = some .directory)
    {parts : List Text} {location last : Location}
    (entered : parts.foldlM tree.enter location = .ok last) :
    parts.foldlM later.enter location = .ok last := by
  induction parts generalizing location with
  | nil => exact entered
  | cons part rest inductionHypothesis =>
    rw [List.foldlM_cons] at entered ⊢
    cases step : tree.enter location part with
    | error error => simp [step, bind, Except.bind] at entered
    | ok next =>
      have same : later.enter location part = tree.enter location part := by
        simp [enter, (enter_eq_ok step).1, kept _ (enter_eq_ok step).1]
      simp only [step, bind, Except.bind] at entered
      simp only [same, step, bind, Except.bind]
      exact inductionHypothesis entered

/-- A path leads where it led if the working directory and all directories stay. -/
theorem follow_of_directories {tree later : FileTree}
    (directory : later.workingDirectory = tree.workingDirectory)
    (kept : ∀ location, tree.find? location = some .directory →
      later.find? location = some .directory)
    {path : FilePath} {location : Location} (followed : tree.follow path = .ok location) :
    later.follow path = .ok location := by
  unfold follow at followed ⊢
  cases checked : checkPath path with
  | error error => simp [checked, bind, Except.bind] at followed
  | ok done =>
    simp only [checked, bind, Except.bind] at followed ⊢
    rw [directory]
    exact foldlM_enter_of_directories kept followed

/-! ### Reading -/

/-- A file is read from where its path leads. -/
theorem read_eq_ok {tree : FileTree} {path : FilePath} {bytes : List UInt8}
    (found : tree.read path = .ok bytes) :
    ∃ location, tree.follow path = .ok location ∧ tree.find? location = some (.file bytes) := by
  unfold read at found
  cases followed : tree.follow path with
  | error error => simp [followed, bind, Except.bind] at found
  | ok location =>
    simp only [followed, bind, Except.bind] at found
    split at found
    · rename_i entry
      exact ⟨location, rfl, Except.ok.inj found ▸ entry⟩
    · simp [throw, throwThe, MonadExceptOf.throw] at found
    · simp [throw, throwThe, MonadExceptOf.throw] at found

/-- A path to a file finds its bytes, and something is there. -/
theorem read_of_follow {tree : FileTree} {path : FilePath} {location : Location}
    {bytes : List UInt8} (followed : tree.follow path = .ok location)
    (found : tree.find? location = some (.file bytes)) :
    tree.read path = .ok bytes ∧ tree.isPresent path = .ok true := by
  simp [read, isPresent, followed, found, bind, Except.bind, pure, Except.pure]

/-! ### Making directories -/

/-- A directory is made where nothing was. -/
theorem grows_of_makeDirectory {tree later : FileTree} {path : FilePath}
    (made : tree.makeDirectory path = .ok later) : tree.Grows later := by
  unfold makeDirectory at made
  cases followed : tree.follow path with
  | error error => simp [followed, bind, Except.bind] at made
  | ok target =>
    simp only [followed, bind, Except.bind] at made
    split at made
    · simp [throw, throwThe, MonadExceptOf.throw] at made
    · rename_i free
      cases Except.ok.inj made
      refine ⟨rfl, fun location => ?_⟩
      by_cases same : location = target
      · subst same
        have below : location ≠ [] := by
          intro root
          simp [root, find?] at free
        exact .inr ⟨free, find?_put_self tree .directory below⟩
      · exact .inl (find?_put_of_ne tree .directory same)

/-- A computation that does nothing to a tree but add directories. -/
def OnlyGrows {α : Type} (computation : StateM FileTree α) : Prop :=
  ∀ tree : FileTree, tree.Grows (computation.run tree).2

theorem OnlyGrows.pure {α : Type} (value : α) : OnlyGrows (pure value) :=
  fun tree => Grows.refl tree

theorem OnlyGrows.bind {α β : Type} {computation : StateM FileTree α} {next : α → StateM FileTree β}
    (first : OnlyGrows computation) (second : ∀ value, OnlyGrows (next value)) :
    OnlyGrows (computation >>= next) :=
  fun tree => (first tree).trans (second _ _)

/-- A tree only grows when a directory is asked for, whether it is made or not. -/
theorem onlyGrows_makeDirectory (path : FilePath) : OnlyGrows (access.makeDirectory path) := by
  intro tree
  cases made : tree.makeDirectory path with
  | ok later =>
    have ran : ((access.makeDirectory path).run tree).2 = later := by
      simp [access, update, made]
      rfl
    rw [ran]
    exact grows_of_makeDirectory made
  | error error =>
    have ran : ((access.makeDirectory path).run tree).2 = tree := by
      simp [access, update, made]
      rfl
    rw [ran]
    exact Grows.refl tree

/-- Looking for a directory changes nothing. -/
theorem onlyGrows_unlessDirectory (path : FilePath) (error : FileError) :
    OnlyGrows (access.unlessDirectory path error) := by
  refine OnlyGrows.bind (fun tree => Grows.refl tree) fun found => ?_
  cases found with
  | true => exact OnlyGrows.pure _
  | false => exact OnlyGrows.pure _

/-- A tree only grows when several directories are made. The induction follows the parts from the
last one up: what is asked for first, what is made above it, and what is asked for again. -/
theorem onlyGrows_ensureParts (anchor : Anchor) (parts : List Text) :
    OnlyGrows (access.ensureParts anchor parts) := by
  induction parts with
  | nil =>
    unfold FileAccess.ensureParts
    refine OnlyGrows.bind (onlyGrows_makeDirectory _) fun made => ?_
    split
    · exact OnlyGrows.pure _
    · exact OnlyGrows.pure _
    · exact onlyGrows_unlessDirectory _ _
  | cons last above inductionHypothesis =>
    unfold FileAccess.ensureParts
    refine OnlyGrows.bind (onlyGrows_makeDirectory _) fun made => ?_
    split
    · exact OnlyGrows.pure _
    · refine OnlyGrows.bind inductionHypothesis fun higher => ?_
      split
      · exact OnlyGrows.pure _
      · refine OnlyGrows.bind (onlyGrows_makeDirectory _) fun again => ?_
        split
        · exact OnlyGrows.pure _
        · exact OnlyGrows.pure _
        · exact onlyGrows_unlessDirectory _ _
    · exact onlyGrows_unlessDirectory _ _

/-- A tree only grows when a directory and those above it are made. -/
theorem onlyGrows_ensureDirectory (path : FilePath) : OnlyGrows (access.ensureDirectory path) :=
  onlyGrows_ensureParts path.anchor path.parts.reverse

/-- Where there is a directory none is made. -/
theorem run_ensureDirectory_of_isDirectory {tree : FileTree} {path : FilePath}
    (there : tree.isDirectory path = true) :
    (access.ensureDirectory path).run tree = (.ok (), tree) := by
  have taken : tree.makeDirectory path = .error .taken := by
    unfold isDirectory at there
    cases followed : tree.follow path with
    | error error => simp [followed] at there
    | ok location =>
      simp only [followed, beq_iff_eq] at there
      simp [makeDirectory, followed, there, bind, Except.bind, throw, throwThe, MonadExceptOf.throw]
  have refused : (access.makeDirectory path).run tree = (.error .taken, tree) := by
    simp [access, update, taken]
    rfl
  have settled : (access.unlessDirectory path .taken).run tree = (.ok (), tree) := by
    simp [FileAccess.unlessDirectory, access, there]
    rfl
  unfold FileAccess.ensureDirectory
  cases parts : path.parts.reverse with
  | nil =>
    have whole : path = ⟨path.anchor, []⟩ := by
      rw [← List.reverse_eq_nil_iff.1 parts]
    rw [FileAccess.ensureParts, ← whole, StateT.run_bind, refused]
    exact settled
  | cons last above =>
    have whole : path = ⟨path.anchor, (last :: above).reverse⟩ := by
      rw [← parts, List.reverse_reverse]
    simp only [FileAccess.ensureParts]
    rw [← whole, StateT.run_bind, refused]
    exact settled

/-! ### Writing -/

/-- A file is written where its path leads, in place of no directory. -/
theorem write_eq_ok {tree later : FileTree} {path : FilePath} {bytes : List UInt8}
    (wrote : tree.write path bytes = .ok later) :
    ∃ location, tree.follow path = .ok location ∧ tree.find? location ≠ some .directory ∧
      later = tree.put location (.file bytes) := by
  unfold write at wrote
  cases followed : tree.follow path with
  | error error => simp [followed, bind, Except.bind] at wrote
  | ok location =>
    simp only [followed, bind, Except.bind] at wrote
    split at wrote
    · simp [throw, throwThe, MonadExceptOf.throw] at wrote
    · rename_i free
      exact ⟨location, rfl, free, (Except.ok.inj wrote).symm⟩

/-- Where no directory was, a file takes none away. -/
theorem find?_put_file_directory {tree : FileTree} {target location : Location}
    {bytes : List UInt8} (free : tree.find? target ≠ some .directory)
    (found : tree.find? location = some .directory) :
    (tree.put target (.file bytes)).find? location = some .directory := by
  have different : location ≠ target := by
    intro same
    exact free (same ▸ found)
  rw [find?_put_of_ne tree _ different]
  exact found

/-- Writing keeps the working directory. -/
theorem workingDirectory_of_write {tree later : FileTree} {path : FilePath} {bytes : List UInt8}
    (wrote : tree.write path bytes = .ok later) :
    later.workingDirectory = tree.workingDirectory := by
  obtain ⟨location, -, -, rfl⟩ := write_eq_ok wrote
  exact workingDirectory_put tree location _

/-- A file that was written can be read under the path that it was written under. -/
theorem read_of_write {tree later : FileTree} {path : FilePath} {bytes : List UInt8}
    (wrote : tree.write path bytes = .ok later) :
    later.read path = .ok bytes ∧ later.isPresent path = .ok true := by
  obtain ⟨location, followed, free, rfl⟩ := write_eq_ok wrote
  have below : location ≠ [] := by
    intro root
    simp [root, find?] at free
  have kept : ∀ other, tree.find? other = some .directory →
      (tree.put location (.file bytes)).find? other = some .directory :=
    fun _ found => find?_put_file_directory free found
  exact read_of_follow (follow_of_directories (tree.workingDirectory_put _ _) kept followed) (find?_put_self tree _ below)

/-- A file elsewhere can be read as before. -/
theorem read_of_write_of_ne {tree later : FileTree} {path other : FilePath}
    {bytes content : List UInt8} (wrote : tree.write path bytes = .ok later)
    (found : tree.read other = .ok content)
    (apart : path.locate tree.workingDirectory ≠ other.locate tree.workingDirectory) :
    later.read other = .ok content ∧ later.isPresent other = .ok true := by
  obtain ⟨target, followed, free, rfl⟩ := write_eq_ok wrote
  obtain ⟨location, otherFollowed, entry⟩ := read_eq_ok found
  have different : location ≠ target := by
    rw [follow_eq_locate followed, follow_eq_locate otherFollowed]
    exact apart.symm
  have kept : ∀ other, tree.find? other = some .directory →
      (tree.put target (.file bytes)).find? other = some .directory :=
    fun _ found => find?_put_file_directory free found
  exact read_of_follow (follow_of_directories (tree.workingDirectory_put _ _) kept otherFollowed)
    ((find?_put_of_ne tree _ different).trans entry)

/-- A file can be read as before from a tree that has grown. -/
theorem Grows.read {tree later : FileTree} (grows : tree.Grows later) {path : FilePath}
    {bytes : List UInt8} (found : tree.read path = .ok bytes) : later.read path = .ok bytes := by
  obtain ⟨location, followed, entry⟩ := read_eq_ok found
  exact (read_of_follow
    (follow_of_directories grows.workingDirectory (fun _ => grows.kept _ _) followed)
    (grows.kept _ _ entry)).1

end DifferenceTypes.FileTree
