import LaunchPolicy.Files.Tree
import LaunchPolicy.Proofs.Outcome

/-!
Writing in trees of files. A file is written below directories that are there already, so that a
written file makes no directories, every other path leads where it led, and only the file at the
place that the path leads to is changed.
-/

namespace LaunchPolicy.FileTree

variable {tree after : FileTree} {place other start : Place} {octets : List UInt8}
  {path otherPath text : String}

/-- The tree with new contents of the file at a place. -/
def set (tree : FileTree) (place : Place) (octets : List UInt8) : FileTree :=
  { tree with contents := put tree.contents place octets }

theorem find_put (contents : List (Place × List UInt8)) (place other : Place) (octets : List UInt8) :
    ((put contents place octets).find? (·.1 = other)).map (·.2) =
      if place = other then some octets else (contents.find? (·.1 = other)).map (·.2) := by
  induction contents with
  | nil => by_cases same : place = other <;> simp [put, same]
  | cons entry contents ih =>
      rw [put]
      by_cases here : entry.1 = place
      · by_cases same : place = other <;> simp [here, same]
      · by_cases found : entry.1 = other
        · have different : place ≠ other := fun same => here (found.trans same.symm)
          rw [if_neg here, if_neg different, List.find?_cons_of_pos (by simpa using found),
            List.find?_cons_of_pos (by simpa using found)]
        · simp only [here, if_false, List.find?_cons, found, decide_false]
          exact ih

theorem content_set (tree : FileTree) (place other : Place) (octets : List UInt8) :
    (tree.set place octets).content? other =
      if place = other then some octets else tree.content? other :=
  find_put tree.contents place other octets

theorem mem_put_places {contents : List (Place × List UInt8)} :
    (∃ entry ∈ put contents place octets, entry.1 = other) ↔
      place = other ∨ ∃ entry ∈ contents, entry.1 = other := by
  induction contents with
  | nil => simp [put]
  | cons entry contents ih =>
      rw [put]
      by_cases here : entry.1 = place
      · simp [here]
      · simp only [here, if_false, List.exists_mem_cons_iff, ih]
        exact or_left_comm

/-- The place of a file, or a place above one. -/
theorem is_directory_iff :
    tree.isDirectory place = true ↔
      place ∈ tree.directories ∨ (∀ name ∈ place, name = "..") ∨
        ∃ file, (∃ entry ∈ tree.contents, entry.1 = file) ∧ place <+: file ∧ place ≠ file := by
  have below : ∀ file : Place, (place.length < file.length ∧ place <+: file) ↔
      place <+: file ∧ place ≠ file := by
    intro file
    constructor
    · rintro ⟨shorter, leads⟩
      exact ⟨leads, fun same => absurd (congrArg List.length same) (Nat.ne_of_lt shorter)⟩
    · rintro ⟨leads, different⟩
      exact ⟨Nat.lt_of_le_of_ne leads.length_le fun same => different (leads.eq_of_length same), leads⟩
  simp [isDirectory, or_assoc, below]

/-- All that lies above a place is a directory. -/
def Reachable (tree : FileTree) (place : Place) : Prop :=
  ∀ above, above <+: place → above ≠ place → tree.isDirectory above = true

theorem reachable_of_prefix (reachable : tree.Reachable place) (leads : other <+: place) :
    tree.Reachable other := by
  intro above here different
  refine reachable above (here.trans leads) fun same => ?_
  subst same
  exact different (here.eq_of_length (Nat.le_antisymm here.length_le leads.length_le))

theorem reachable_of_up (up : ∀ name ∈ place, name = "..") : tree.Reachable place :=
  fun _ leads _ => is_directory_iff.mpr (.inr (.inl fun name member => up name (leads.subset member)))

theorem reachable_above (reachable : tree.Reachable place) : tree.Reachable (above place) := by
  rw [above]
  split_ifs with top up
  · exact reachable
  · have up : ∀ name ∈ place, name = ".." := by simpa using up
    refine reachable_of_up fun name member => ?_
    rcases List.mem_append.mp member with known | last
    · exact up name known
    · exact List.mem_singleton.mp last
  · exact reachable_of_prefix reachable (List.dropLast_prefix place)

theorem reachable_within (reachable : tree.Reachable place) (directory : tree.isDirectory place = true)
    (name : String) : tree.Reachable (place ++ [name]) := by
  intro above leads different
  rcases List.prefix_concat_iff.mp leads with same | leads
  · exact absurd same different
  · by_cases same : above = place
    · exact same ▸ directory
    · exact reachable above leads same

theorem follow_reachable {names : List String} {last : Bool} (reachable : tree.Reachable start)
    (followed : tree.follow start names = .ok (place, last)) : tree.Reachable place := by
  induction names generalizing start with
  | nil =>
      obtain ⟨rfl, -⟩ := Prod.mk.inj (Except.ok.inj followed)
      exact reachable
  | cons name names ih =>
      rw [follow] at followed
      split_ifs at followed with empty final
      · obtain ⟨rfl, -⟩ := Prod.mk.inj (Except.ok.inj followed)
        exact reachable
      · exact ih reachable followed
      · exact ih (reachable_above reachable) followed
      · exact ih (reachable_within reachable (by simp_all) name) followed

/-- A path that ends like that of a directory does not lead to a file. -/
theorem content_of_follow {names : List String} (followed : tree.follow start names = .ok (place, true)) :
    tree.content? place = none := by
  induction names generalizing start with
  | nil => cases followed
  | cons name names ih =>
      rw [follow] at followed
      split_ifs at followed with empty final file
      · obtain ⟨rfl, -⟩ := Prod.mk.inj (Except.ok.inj followed)
        simpa using file
      · exact ih followed
      · exact ih followed
      · exact ih followed

theorem is_directory_set (reachable : tree.Reachable place) (other : Place) :
    (tree.set place octets).isDirectory other = tree.isDirectory other := by
  rw [Bool.eq_iff_iff, is_directory_iff]
  simp only [set, mem_put_places]
  constructor
  · rintro (listed | up | ⟨file, rfl | known, leads, different⟩)
    · exact is_directory_iff.mpr (.inl listed)
    · exact is_directory_iff.mpr (.inr (.inl up))
    · exact reachable other leads different
    · exact is_directory_iff.mpr (.inr (.inr ⟨file, known, leads, different⟩))
  · intro directory
    rcases is_directory_iff.mp directory with listed | up | ⟨file, known, leads, different⟩
    · exact .inl listed
    · exact .inr (.inl up)
    · exact .inr (.inr ⟨file, .inr known, leads, different⟩)

/-- A file that is written is in nobody's way: it was not a directory before. -/
theorem follow_set_iff {names : List String} (reachable : tree.Reachable place)
    (file : tree.isDirectory place = false) :
    (tree.set place octets).follow start names = .ok (other, false) ↔
      tree.follow start names = .ok (other, false) := by
  induction names generalizing start with
  | nil => rfl
  | cons name names ih =>
      rw [follow, follow, is_directory_set reachable]
      by_cases empty : name.isEmpty = true ∨ name = "."
      · rw [if_pos empty, if_pos empty]
        by_cases final : names.isEmpty = true
        · rw [if_pos final, if_pos final]
          constructor <;> intro followed <;> split_ifs at followed <;> simp at followed
        · rw [if_neg final, if_neg final]
          exact ih
      · rw [if_neg empty, if_neg empty, content_set]
        by_cases here : place = start
        · subst here
          simp [file]
          split_ifs <;> simp
        · simp only [if_neg here]
          split_ifs <;> first | exact ih | rfl

/-- Where a path begins. -/
def beginning (path : String) : Place := if path.toList.head? = some '/' then ["/"] else []

theorem reachable_beginning (tree : FileTree) (path : String) : tree.Reachable (beginning path) := by
  rw [beginning]
  split_ifs
  · intro above leads different
    rcases List.prefix_cons_iff.mp leads with rfl | ⟨_, rfl, below⟩
    · exact is_directory_iff.mpr (.inr (.inl (by simp)))
    · obtain rfl := List.prefix_nil.mp below
      contradiction
  · exact reachable_of_up (by simp)

theorem place_ok_iff {last : Bool} :
    tree.place path = .ok (place, last) ↔
      ('\x00' ∉ path.toList ∧ path ≠ "" ∧ path.utf8ByteSize ≤ longestPath) ∧
        tree.follow (beginning path) (names path) = .ok (place, last) := by
  rw [FileTree.place]
  by_cases null : '\x00' ∈ path.toList
  · simp [null]
  by_cases empty : path = ""
  · simp [empty]
  by_cases long : longestPath < path.utf8ByteSize
  · simp [null, empty, long, Nat.not_le.mpr long]
  · simp [null, empty, long, Nat.not_lt.mp long, Outcome.map_error_ok_iff, beginning]

theorem place_set_iff (reachable : tree.Reachable place) (file : tree.isDirectory place = false) :
    (tree.set place octets).place path = .ok (other, false) ↔ tree.place path = .ok (other, false) := by
  rw [place_ok_iff, place_ok_iff, follow_set_iff reachable file]

theorem place_reachable {last : Bool} (led : tree.place path = .ok (place, last)) :
    tree.Reachable place :=
  follow_reachable (reachable_beginning tree path) (place_ok_iff.mp led).2

theorem content_of_place (led : tree.place path = .ok (place, true)) : tree.content? place = none :=
  content_of_follow (place_ok_iff.mp led).2

theorem read_ok_iff :
    tree.read path = .ok octets ↔ ∃ place, tree.place path = .ok (place, false) ∧
      tree.isDirectory place = false ∧ tree.content? place = some octets := by
  rw [read]
  constructor
  · intro found
    obtain ⟨⟨place, last⟩, led, found⟩ := Outcome.bind_ok_iff.mp found
    dsimp only at found
    split_ifs at found with directory
    · cases found
    · split at found
      · rename_i known content
        obtain rfl := Except.ok.inj found
        cases last with
        | true => exact absurd (content_of_place led) (by simp [content])
        | false => exact ⟨place, led, by simpa using directory, content⟩
      · cases found
  · rintro ⟨place, led, directory, content⟩
    refine Outcome.bind_ok_iff.mpr ⟨_, led, ?_⟩
    simp only [directory, content]
    rfl

theorem write_text_ok_iff :
    tree.writeText path text = .ok after ↔ ∃ place, tree.place path = .ok (place, false) ∧
      tree.isDirectory place = false ∧ after = tree.set place text.toUTF8.toList := by
  rw [writeText]
  constructor
  · intro written
    obtain ⟨⟨place, last⟩, led, written⟩ := Outcome.bind_ok_iff.mp written
    dsimp only at written
    split_ifs at written with refused
    · cases written
    · obtain ⟨rfl, file⟩ : last = false ∧ tree.isDirectory place = false := by simpa using refused
      exact ⟨place, led, file, (Except.ok.inj written).symm⟩
  · rintro ⟨place, led, file, rfl⟩
    refine Outcome.bind_ok_iff.mpr ⟨_, led, ?_⟩
    simp only [file, or_self]
    rfl

/-- Paths that do not lead to the same file. -/
def Apart (tree : FileTree) (path otherPath : String) : Prop :=
  ∀ place, tree.place path = .ok (place, false) → tree.place otherPath ≠ .ok (place, false)

theorem read_written (written : tree.writeText path text = .ok after) :
    after.read path = .ok text.toUTF8.toList := by
  obtain ⟨place, led, file, rfl⟩ := write_text_ok_iff.mp written
  have reachable := place_reachable led
  refine read_ok_iff.mpr ⟨place, (place_set_iff reachable file).mpr led, ?_, ?_⟩
  · rw [is_directory_set reachable, file]
  · rw [content_set, if_pos rfl]

/-- What another path leads to is read as before. -/
theorem read_apart (written : tree.writeText path text = .ok after) (apart : tree.Apart otherPath path)
    (known : tree.read otherPath = .ok octets) : after.read otherPath = .ok octets := by
  obtain ⟨place, led, file, rfl⟩ := write_text_ok_iff.mp written
  obtain ⟨other, otherLed, otherFile, content⟩ := read_ok_iff.mp known
  have reachable := place_reachable led
  have different : place ≠ other := fun same => apart other otherLed (same ▸ led)
  refine read_ok_iff.mpr ⟨other, (place_set_iff reachable file).mpr otherLed, ?_, ?_⟩
  · rw [is_directory_set reachable, otherFile]
  · rw [content_set, if_neg different, content]

theorem Apart.written {first second : String} (apart : tree.Apart first second)
    (written : tree.writeText path text = .ok after) : after.Apart first second := by
  obtain ⟨place, led, file, rfl⟩ := write_text_ok_iff.mp written
  intro other otherLed same
  rw [place_set_iff (place_reachable led) file] at otherLed same
  exact apart other otherLed same

end LaunchPolicy.FileTree
