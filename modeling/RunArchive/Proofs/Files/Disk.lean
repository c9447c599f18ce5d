import RunArchive.Files.Change
import RunArchive.Proofs.Outcome

/-!
# Written files

A path names the file at which it arrives through every link, or the place in a directory where a
file can be made.  Different paths may name one file.

Writing a file has two effects.  The path opens as a regular file with just the octets that were
written, and so does every other path that names the same file.  And nothing else changes: every
path names what it named before, and a path that names another file opens as it did.  The step
lemma is `write_opened`; `writeAll_opened` is about files that are written one after the other, by
induction on those that are left.
-/

namespace RunArchive.Disk

/-! ## Places -/

/-- What is put at a place stands there, and everything else stands where it stood. -/
theorem node?_put
    (disk : Disk) {location : Location} (node : Node) (inside : location ≠ [])
    (other : Location) :
    (disk.put location node).node? other =
      if other = location then some node else disk.node? other := by
  have others (different : other ≠ location) (nodes : List (Location × Node)) :
      List.lookup other (nodes.filter (·.1 ≠ location)) = List.lookup other nodes := by
    induction nodes with
    | nil => rfl
    | cons first rest ih =>
        by_cases here : first.1 = location
        · have elsewhere : (other == first.1) = false := by
            rw [here]
            exact beq_false_of_ne different
          rw [List.filter_cons_of_neg (by simpa using here), List.lookup_cons, elsewhere, ih]
        · rw [List.filter_cons_of_pos (by simpa using here), List.lookup_cons, List.lookup_cons, ih]
  unfold node? put
  by_cases same : other = location
  · rw [if_pos same, if_neg (by rw [same]; exact inside), same, List.lookup_cons_self]
  · have elsewhere : (other == location) = false := beq_false_of_ne same
    rw [if_neg same, List.lookup_cons, elsewhere]
    split
    · rfl
    · exact others same disk.nodes

/-- The place of the file at which a path arrives, or of the one that can be made there. -/
def Arrival.file? : Arrival → Option Location
  | .there location (.file _ _) | .absent location => some location
  | .there _ .directory | .there _ (.link _) | .refused _ => none

/-- An arrival says what stands at a place, as far as files are concerned. -/
def Arrival.Sound (disk : Disk) : Arrival → Prop
  | .there location (.file size content) => disk.node? location = some (.file size content)
  | .absent location => disk.node? location = none
  | .there _ .directory | .there _ (.link _) | .refused _ => True

/-- The place of the file that a path names. -/
def fileAt? (disk : Disk) (path : Path) : Option Location :=
  (disk.locate .newFile path).file?

/-! ## Where paths arrive -/

theorem walk_sound
    {disk : Disk} {purpose : Purpose} {directory : Location} {segments : List (List UInt8)}
    {arrival : Arrival}
    (arrived : disk.walk purpose directory segments = .arrived arrival) :
    arrival.Sound disk := by
  induction segments generalizing directory with
  | nil =>
      rw [walk] at arrived
      rw [← Walk.arrived.inj arrived]
      exact trivial
  | cons name rest ih =>
      rw [walk] at arrived
      split at arrived
      · exact ih arrived
      split at arrived
      · exact ih arrived
      split at arrived
      · rw [← Walk.arrived.inj arrived]
        exact trivial
      split at arrived
      · rw [← Walk.arrived.inj arrived]
        exact trivial
      dsimp only at arrived
      split at arrived
      · rename_i nothing
        rw [← Walk.arrived.inj arrived]
        split
        · exact nothing
        · exact trivial
      · exact ih arrived
      · cases arrived
      · rename_i standing
        rw [← Walk.arrived.inj arrived]
        split
        · exact standing
        · exact trivial

theorem follow_sound
    (disk : Disk) (purpose : Purpose) (links : Nat) (directory : Location)
    (segments : List (List UInt8)) :
    (disk.follow purpose links directory segments).Sound disk := by
  induction links generalizing directory segments with
  | zero =>
      rw [follow]
      split
      · rename_i arrived
        exact walk_sound arrived
      · split <;> exact trivial
  | succ links ih =>
      rw [follow]
      split
      · rename_i arrived
        exact walk_sound arrived
      · split
        · exact trivial
        · exact ih _ _

theorem locate_sound (disk : Disk) (purpose : Purpose) (path : Path) :
    (disk.locate purpose path).Sound disk := by
  unfold locate
  split
  · exact trivial
  split
  · exact trivial
  split
  · exact trivial
  · exact follow_sound disk purpose _ _ _

/-- Where a file is wanted a last slash is an obstacle; apart from that the walk is the same. -/
theorem walk_target
    (disk : Disk) (directory : Location) (segments : List (List UInt8)) :
    disk.walk .newFile directory segments = .arrived (.refused .isDirectory) ∨
      disk.walk .target directory segments = disk.walk .newFile directory segments := by
  induction segments generalizing directory with
  | nil => exact Or.inr rfl
  | cons name rest ih =>
      rw [walk, walk]
      split
      · exact ih directory
      split
      · exact ih directory.dropLast
      rw [if_neg (fun both : Purpose.target = .newFile ∧ _ => nomatch both.1)]
      split
      · exact Or.inl rfl
      split
      · exact Or.inr rfl
      dsimp only
      split
      · exact Or.inr rfl
      · exact ih _
      · exact Or.inr rfl
      · exact Or.inr rfl

theorem follow_target
    {disk : Disk} {links : Nat} {directory : Location} {segments : List (List UInt8)}
    (named : (disk.follow .newFile links directory segments).file?.isSome = true) :
    disk.follow .target links directory segments =
      disk.follow .newFile links directory segments := by
  induction links generalizing directory segments with
  | zero =>
      rw [follow] at named ⊢
      rw [follow]
      rcases disk.walk_target directory segments with obstacle | same
      · rw [obstacle] at named
        exact absurd named (by simp [Arrival.file?])
      · rw [same]
        split <;> rfl
  | succ links ih =>
      rw [follow] at named ⊢
      rw [follow]
      rcases disk.walk_target directory segments with obstacle | same
      · rw [obstacle] at named
        exact absurd named (by simp [Arrival.file?])
      · rw [same]
        split
        · rfl
        · rename_i arrived
          rw [arrived] at named
          exact ih named

/-- A path that names a file leads to it. -/
theorem locate_target
    {disk : Disk} {path : Path}
    (named : (disk.fileAt? path).isSome = true) :
    disk.locate .target path = disk.locate .newFile path := by
  unfold fileAt? locate at named
  unfold locate
  split
  · rfl
  split
  · rfl
  split
  · rfl
  · rename_i clean present short
    rw [if_neg clean, if_neg present, if_neg short] at named
    exact follow_target named

/-- A path that names a file arrives at its place, where nothing stands or a file. -/
theorem locate_of_fileAt?
    {disk : Disk} {path : Path} {location : Location}
    (named : disk.fileAt? path = some location) :
    disk.locate .newFile path = .absent location ∧ disk.node? location = none ∨
      ∃ size content, disk.locate .newFile path = .there location (.file size content) ∧
        disk.node? location = some (.file size content) := by
  have sound := disk.locate_sound .newFile path
  unfold fileAt? at named
  generalize disk.locate .newFile path = arrival at named sound ⊢
  cases arrival with
  | refused fault => cases named
  | absent place =>
      cases named
      exact Or.inl ⟨rfl, sound⟩
  | there place node =>
      cases node with
      | directory => cases named
      | link target => cases named
      | file size content =>
          cases named
          exact Or.inr ⟨size, content, rfl, sound⟩

/-! ## Opening files -/

/-- What a path opens that names a file is what stands at the place of the file. -/
theorem opened_eq
    {disk : Disk} {path : Path} {location : Location}
    (named : disk.fileAt? path = some location) :
    disk.opened path =
      match disk.node? location with
      | some (.file size content) => .regular size content
      | _ => .refused .notFound := by
  have leads : disk.locate .target path = disk.locate .newFile path :=
    locate_target (by rw [named]; rfl)
  unfold opened
  rcases locate_of_fileAt? named with ⟨free, nothing⟩ | ⟨size, content, taken, standing⟩
  · rw [leads, free, nothing]
  · rw [leads, taken, standing]

/-- Whether a file may be put at a place: nothing stands there, or a file. -/
def HasRoom (disk : Disk) (location : Location) : Prop :=
  match disk.node? location with
  | none | some (.file _ _) => True
  | some .directory | some (.link _) => False

theorem HasRoom.ne_root
    {disk : Disk} {location : Location} (room : disk.HasRoom location) :
    location ≠ [] := by
  intro root
  rw [HasRoom, root] at room
  exact room

/-- There is room where a path names a file. -/
theorem hasRoom_of_fileAt?
    {disk : Disk} {path : Path} {location : Location}
    (named : disk.fileAt? path = some location) :
    disk.HasRoom location := by
  unfold HasRoom
  rcases locate_of_fileAt? named with ⟨_, nothing⟩ | ⟨size, content, _, standing⟩
  · rw [nothing]
    exact trivial
  · rw [standing]
    exact trivial

/-! ## Paths after a file has been put down -/

/-- Two walks come to the same link, or to ends that name the same file. -/
inductive Walk.Alike : Walk → Walk → Prop where
  | arrived {left right : Arrival} (same : left.file? = right.file?) :
      Alike (.arrived left) (.arrived right)
  | link (directory location : Location) (target : Path) (rest : List (List UInt8)) :
      Alike (.link directory location target rest) (.link directory location target rest)

theorem Walk.Alike.refl (walk : Walk) : walk.Alike walk := by
  cases walk with
  | arrived arrival => exact .arrived rfl
  | link directory location target rest => exact .link directory location target rest

section Put

variable {disk : Disk} {location : Location} (size : Nat)
  (content : Content)

/-- No walk passes through a file, so it does not matter which files there are. -/
theorem walk_put
    (room : disk.HasRoom location) (directory : Location) (segments : List (List UInt8)) :
    ((disk.put location (.file size content)).walk .newFile directory segments).Alike
      (disk.walk .newFile directory segments) := by
  induction segments generalizing directory with
  | nil => exact .refl _
  | cons name rest ih =>
      rw [walk, walk]
      split
      · exact ih directory
      split
      · exact ih directory.dropLast
      split
      · exact .refl _
      split
      · exact .refl _
      rename_i noSlash _
      have last : onlySlashes rest = true ↔ rest = [] := by
        constructor
        · intro slashes
          exact Decidable.byContradiction fun more => noSlash ⟨rfl, more, slashes⟩
        · intro ends
          rw [ends]
          rfl
      dsimp only
      rw [node?_put disk _ room.ne_root]
      by_cases here : directory ++ [name] = location
      · -- The walk meets the new file, where nothing or another file was met before.
        rw [if_pos here, here]
        unfold HasRoom at room
        split at room
        · rename_i nothing
          rw [nothing]
          refine .arrived ?_
          by_cases ends : rest = []
          · rw [if_pos ends, if_pos (last.mpr ends)]
            rfl
          · rw [if_neg ends, if_neg (mt last.mp ends)]
            rfl
        · rename_i standing
          rw [standing]
          refine .arrived ?_
          by_cases ends : rest = []
          · rw [if_pos ends, if_pos ends]
            rfl
          · rw [if_neg ends, if_neg ends]
        · exact room.elim
        · exact room.elim
      · rw [if_neg here]
        split
        · exact .refl _
        · exact ih _
        · exact .refl _
        · exact .refl _

theorem follow_put
    (room : disk.HasRoom location) (links : Nat) (directory : Location)
    (segments : List (List UInt8)) :
    ((disk.put location (.file size content)).follow .newFile links directory segments).file? =
      (disk.follow .newFile links directory segments).file? := by
  induction links generalizing directory segments with
  | zero =>
      have alike := walk_put size content room directory segments
      rw [follow, follow]
      generalize (disk.put location (.file size content)).walk .newFile directory segments = after
        at alike
      generalize disk.walk .newFile directory segments = before at alike
      cases alike with
      | arrived same => exact same
      | link directory location target rest => rfl
  | succ links ih =>
      have alike := walk_put size content room directory segments
      rw [follow, follow]
      generalize (disk.put location (.file size content)).walk .newFile directory segments = after
        at alike
      generalize disk.walk .newFile directory segments = before at alike
      cases alike with
      | arrived same => exact same
      | link directory location target rest => exact ih _ _

/-- Every path names what it named before a file was put down. -/
theorem fileAt?_put
    (room : disk.HasRoom location) (path : Path) :
    (disk.put location (.file size content)).fileAt? path = disk.fileAt? path := by
  unfold fileAt? locate
  split
  · rfl
  split
  · rfl
  split
  · rfl
  · exact follow_put size content room _ _ _

end Put

/-! ## Writing files -/

/-- A file is written to the place that the path names. -/
theorem write_eq
    {disk : Disk} {path : Path} {location : Location} (octets : List UInt8)
    (named : disk.fileAt? path = some location) :
    disk.write path octets = .ok (disk.put location (.ofOctets octets)) := by
  unfold write
  rcases locate_of_fileAt? named with ⟨free, _⟩ | ⟨size, content, taken, _⟩
  · rw [free]
  · rw [taken]

/-- A path opens as a regular file with these octets. -/
def Holds (disk : Disk) (path : Path) (octets : List UInt8) : Prop :=
  disk.opened path = .regular octets.length (.whole octets)

/--
A file can be written to any path that names one.  The path holds what was written, all paths name
what they named before, and a path that names another file opens as before.
-/
theorem write_opened
    {disk : Disk} {path : Path} (octets : List UInt8)
    (named : (disk.fileAt? path).isSome = true) :
    ∃ next, disk.write path octets = .ok next ∧ next.Holds path octets ∧
      (∀ other, next.fileAt? other = disk.fileAt? other) ∧
      ∀ other, (disk.fileAt? other).isSome = true → disk.fileAt? path ≠ disk.fileAt? other →
        next.opened other = disk.opened other := by
  rcases Option.isSome_iff_exists.mp named with ⟨location, place⟩
  have room := hasRoom_of_fileAt? place
  have names (other : Path) :
      (disk.put location (.ofOctets octets)).fileAt? other = disk.fileAt? other :=
    fileAt?_put _ _ room other
  have nodes := node?_put disk (.ofOctets octets) room.ne_root
  refine ⟨_, write_eq octets place, ?_, names, ?_⟩
  · rw [Holds, opened_eq ((names path).trans place), nodes, if_pos rfl]
    rfl
  · intro other otherNamed different
    rcases Option.isSome_iff_exists.mp otherNamed with ⟨otherLocation, otherPlace⟩
    have apart : otherLocation ≠ location := by
      intro same
      rw [place, otherPlace, same] at different
      exact different rfl
    rw [opened_eq ((names other).trans otherPlace), opened_eq otherPlace, nodes, if_neg apart]

/-- The tree after files have been written one after the other, each under its path. -/
def writeAll (disk : Disk) : List (Path × List UInt8) → Except FileFault Disk
  | [] => .ok disk
  | (path, octets) :: rest => do (← disk.write path octets).writeAll rest

/--
Different files can be written one after the other, in any order.  In the end every one of their
paths holds what was written to it, and a path that names none of them opens as before.
-/
theorem writeAll_opened
    {disk : Disk} {files : List (Path × List UInt8)}
    (named : ∀ file ∈ files, (disk.fileAt? file.1).isSome = true)
    (apart : files.Pairwise fun left right => disk.fileAt? left.1 ≠ disk.fileAt? right.1) :
    ∃ final, disk.writeAll files = .ok final ∧
      (∀ file ∈ files, final.Holds file.1 file.2) ∧
      ∀ other, (disk.fileAt? other).isSome = true →
        (∀ file ∈ files, disk.fileAt? file.1 ≠ disk.fileAt? other) →
        final.opened other = disk.opened other := by
  induction files generalizing disk with
  | nil =>
      refine ⟨disk, rfl, ?_, fun _ _ _ => rfl⟩
      intro file member
      exact absurd member List.not_mem_nil
  | cons first rest ih =>
      rcases first with ⟨path, octets⟩
      rcases List.pairwise_cons.mp apart with ⟨firstApart, restApart⟩
      have firstNamed : (disk.fileAt? path).isSome = true :=
        named (path, octets) List.mem_cons_self
      rcases write_opened octets firstNamed with ⟨next, written, holds, names, untouched⟩
      -- No write changes what a path names, so the hypotheses still hold of the next tree.
      have restNamed : ∀ file ∈ rest, (next.fileAt? file.1).isSome = true := by
        intro file member
        rw [names]
        exact named file (List.mem_cons_of_mem (path, octets) member)
      have nextApart :
          rest.Pairwise fun left right => next.fileAt? left.1 ≠ next.fileAt? right.1 := by
        simp only [names]
        exact restApart
      rcases ih restNamed nextApart with ⟨final, writtenAll, allHold, allUntouched⟩
      simp only [names] at allUntouched
      refine ⟨final, ?_, ?_, ?_⟩
      · rw [writeAll, written, ok_bind]
        exact writtenAll
      · intro file member
        rcases List.mem_cons.mp member with equal | later
        · rw [equal, Holds, allUntouched path firstNamed fun other later =>
            (firstApart other later).symm]
          exact holds
        · exact allHold file later
      · intro other otherNamed different
        have fromRest := allUntouched other otherNamed fun file member =>
          different file (List.mem_cons_of_mem _ member)
        rw [fromRest]
        exact untouched other otherNamed (different (path, octets) List.mem_cons_self)

end RunArchive.Disk
