import RelayCollections.Files.Directory
import RelayCollections.Proofs.Traversal

namespace RelayCollections.Files.Directory

/-!
# Writing to a directory

A text that is written at a path becomes the content of the file there, and nothing else
changes. What stands at the place is then no directory, as it was none before, so paths lead
where they led: in particular the path leads to the file that was written.

* `place?` — the place that a path names;
* `Wrote` — one directory comes of another by writing;
* `walk_put`, `locate_put` — a file that is put does not change where paths lead;
* `locate_name` — where a path leads that is one name;
* `wrote_of_write` — writing does what it should;
* `read_of_write` — what was written is read.
-/

/-- The place of a name in a directory that is there, where a path leads to one. -/
def place? (d : Directory) (path : String) : Option Place :=
  match d.locate path with
  | .ok (place, some name) => some (place.child name)
  | _ => none

/-- The one directory is the other after a text was written at a path: the file there holds
    the text, and at every other place stands what stood there. -/
def Wrote (d after : Directory) (path text : String) : Prop :=
  ∃ place, d.place? path = some place ∧ after.place? path = some place
    ∧ after.find? place = some (.file text.toUTF8)
    ∧ ∀ other, other ≠ place → after.find? other = d.find? other

/-! ### Paths -/

variable {d : Directory} {place : Place} {bytes : ByteArray}

/-- A path through directories leads through them when a file is put where no directory
    is. -/
theorem walk_put (h : d.find? place ≠ some .directory) {parts : List String}
    {start reached : Place} (hwalk : d.walk start parts = .ok reached) :
    (d.put place (.file bytes)).walk start parts = .ok reached := by
  induction parts generalizing start with
  | nil => exact hwalk
  | cons part rest ih =>
    rw [walk] at hwalk ⊢
    split at hwalk
    case isTrue hstays =>
      rw [if_pos hstays]
      exact ih hwalk
    case isFalse hstays =>
      rw [if_neg hstays]
      split at hwalk
      case isTrue hup =>
        rw [if_pos hup]
        exact ih hwalk
      case isFalse hup =>
        rw [if_neg hup]
        cases hchild : d.find? (start.child part) with
        | none => simp [hchild] at hwalk
        | some entry =>
          cases entry with
          | file bytes => simp [hchild] at hwalk
          | directory =>
            have hne : start.child part ≠ place := by
              rintro rfl
              exact h hchild
            rw [find?_put_of_ne d hne, hchild]
            simp only [hchild] at hwalk
            exact ih hwalk

/-- A path that leads somewhere leads there when a file is put where no directory is. -/
theorem locate_put (h : d.find? place ≠ some .directory) {path : String}
    {reached : Place × Option String} (hlocate : d.locate path = .ok reached) :
    (d.put place (.file bytes)).locate path = .ok reached := by
  unfold locate at hlocate ⊢
  split at hlocate
  case isTrue => contradiction
  case isFalse hpath =>
    rw [if_neg hpath]
    dsimp only at hlocate ⊢
    split at hlocate
    case isTrue hlast =>
      obtain ⟨parent, hwalk, hreached⟩ := bind_eq_ok_iff.1 hlocate
      rw [if_pos hlast, walk_put h hwalk]
      exact hreached
    case isFalse hlast =>
      obtain ⟨parent, hwalk, hreached⟩ := bind_eq_ok_iff.1 hlocate
      rw [if_neg hlast, walk_put h hwalk]
      exact hreached

/-- A path that is one name leads to that name at the top. -/
theorem locate_name {name : String} (hparts : parts name = [name]) (hstays : stays name = false)
    (hup : name ≠ "..") : d.locate name = .ok ({}, some name) := by
  have hne : name ≠ "" := by
    rintro rfl
    contradiction
  have htrimmed : trimmedParts name = [name] := by
    rw [trimmedParts, hparts]
    simp [hne]
  have hstart : start name = {} := by
    rw [start, hparts]
    simp [hne]
  rw [locate, if_neg hne, htrimmed, hstart]
  simp only [List.getLastD_cons, List.getLastD_nil, hstays, hup, Bool.false_eq_true, or_self,
    if_false]
  rfl

/-- Such a path does not end in a slash. -/
theorem endsInSlash_name {name : String} (hparts : parts name = [name]) (hne : name ≠ "") :
    endsInSlash name = false := by
  rw [endsInSlash, hparts]
  simp [hne]

/-! ### Writing -/

/-- A write succeeds iff the path names a place where no directory is, and then the text is
    put there. -/
theorem write_eq_ok_iff {path text : String} {after : Directory} :
    d.write path text = .ok after ↔
      ∃ place name, d.locate path = .ok (place, some name) ∧ endsInSlash path = false
        ∧ d.find? (place.child name) ≠ some .directory
        ∧ after = d.put (place.child name) (.file text.toUTF8) := by
  constructor
  · intro h
    obtain ⟨⟨place, name?⟩, hlocate, hput⟩ := bind_eq_ok_iff.1 h
    cases name? with
    | none => contradiction
    | some name =>
      dsimp only at hput
      split at hput
      case isTrue => contradiction
      case isFalse hslash =>
        split at hput
        case h_1 => contradiction
        case h_2 hfile =>
          injection hput with hput
          exact ⟨place, name, hlocate, by simpa using hslash, hfile, hput.symm⟩
  · rintro ⟨place, name, hlocate, hslash, hfile, rfl⟩
    rw [write, hlocate, ok_bind]
    dsimp only
    rw [hslash, if_neg (by decide)]
    split
    case h_1 hdirectory => exact absurd hdirectory hfile
    case h_2 => rfl

/-- A write that succeeds does what it should. -/
theorem wrote_of_write {path text : String} {after : Directory}
    (h : d.write path text = .ok after) : d.Wrote after path text := by
  obtain ⟨place, name, hlocate, -, hfile, rfl⟩ := write_eq_ok_iff.1 h
  refine ⟨place.child name, ?_, ?_, ?_, ?_⟩
  · rw [place?, hlocate]
  · rw [place?, locate_put hfile hlocate]
  · exact find?_put_self d (by simp [Place.child]) _
  · intro other hother
    exact find?_put_of_ne d hother _

/-- What was written is read. -/
theorem read_of_write {path text : String} {after : Directory}
    (h : d.write path text = .ok after) : after.read path = .ok text := by
  obtain ⟨place, name, hlocate, hslash, hfile, rfl⟩ := write_eq_ok_iff.1 h
  have hfound : (d.put (place.child name) (.file text.toUTF8)).find? (place.child name)
      = some (.file text.toUTF8) := find?_put_self d (by simp [Place.child]) _
  have htext : String.fromUTF8? text.toUTF8 = some text := dif_pos text.isValidUTF8
  rw [read, locate_put hfile hlocate, ok_bind]
  dsimp only
  rw [hfound, hslash]
  dsimp only
  rw [if_neg (by decide), htext]

end RelayCollections.Files.Directory
