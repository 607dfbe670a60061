import RelayCollections.Files.Access

namespace RelayCollections.Files

/-!
# Directories as values

A directory with everything below it, as a value, amid directories of which nothing is
known but that they are there: those above it, and the root of them all. Paths are read
as the places they lead to; a path may repeat its slashes, stay where it is with `.`, go
up with `..`, and start at the root. What is not known to stand at a place is not there,
so no path leads back down from above under a name.

* `Place` — where something can stand;
* `Directory.find?` — what stands at a place;
* `Directory.read`, `Directory.write` — the text at a path, and a new one;
* `Directory.access` — both as access to files.
-/

/-! ### Places -/

/-- A directory from which places are named. -/
inductive Base where
  /-- The directory so many levels above the top; the top itself is at level zero. -/
  | above (levels : Nat)
  /-- The root of all directories. -/
  | root
  deriving DecidableEq, Repr

/-- Where something can stand: the names that lead there from a base. -/
structure Place where
  base : Base := .above 0
  names : List String := []
  deriving DecidableEq, Repr

namespace Place

/-- The place of a name in the directory at a place. -/
def child (place : Place) (name : String) : Place :=
  { place with names := place.names ++ [name] }

/-- The place of the directory that holds a directory. The root holds itself. -/
def parent : Place → Place
  | { base := .above levels, names := [] } => { base := .above (levels + 1) }
  | { base := .root, names := [] } => { base := .root }
  | { base, names } => { base, names := names.dropLast }

end Place

/-! ### Entries -/

/-- What can stand at a place. -/
inductive Entry where
  | file (bytes : ByteArray)
  | directory

/-- What is known to stand at places. Of entries for one place the first counts. -/
structure Directory where
  entries : List (Place × Entry) := []

namespace Directory

/-- What stands at a place; a base is a directory. -/
def find? (d : Directory) (place : Place) : Option Entry :=
  if place.names = [] then some .directory else d.entries.lookup place

/-- The directory with an entry at a place, in the stead of any other. -/
def put (d : Directory) (place : Place) (entry : Entry) : Directory :=
  { d with entries := (place, entry) :: d.entries.filter fun e => e.1 ≠ place }

/-- An entry that is put stands at its place. -/
theorem find?_put_self (d : Directory) {place : Place} (h : place.names ≠ [])
    (entry : Entry) : (d.put place entry).find? place = some entry := by
  rw [find?, if_neg h]
  exact List.lookup_cons_self

/-- An entry that is put changes no other place. -/
theorem find?_put_of_ne (d : Directory) {place other : Place} (h : other ≠ place)
    (entry : Entry) : (d.put place entry).find? other = d.find? other := by
  have hother : ∀ es : List (Place × Entry),
      (es.filter fun e => e.1 ≠ place).lookup other = es.lookup other := by
    intro es
    induction es with
    | nil => rfl
    | cons e es ih =>
      obtain ⟨p, x⟩ := e
      by_cases hp : p = place
      · -- The entry that goes was not the one looked for.
        subst hp
        have hne : (other == p) = false := by simpa using h
        simp only [List.lookup_cons, hne]
        simpa using ih
      · simp only [ne_eq, decide_not] at ih
        simp [hp, List.lookup_cons, ih]
  have hne : (other == place) = false := by simpa using h
  unfold find? put
  rw [List.lookup_cons, hne]
  simp only [hother]

/-! ### Paths -/

/-- The parts of a path. -/
def parts (path : String) : List String :=
  path.splitOn "/"

/-- The path ends in a slash, so it means a directory. -/
def endsInSlash (path : String) : Bool :=
  (parts path).getLast? == some ""

/-- The parts of a path up to the last that is not empty. -/
def trimmedParts (path : String) : List String :=
  ((parts path).reverse.dropWhile (· = "")).reverse

/-- The part stays in the same directory. -/
def stays (part : String) : Bool :=
  part = "" || part = "."

/-- The directory that parts lead to from a directory. -/
def walk (d : Directory) (place : Place) : List String → Except Fault Place
  | [] => .ok place
  | part :: rest =>
    if stays part then d.walk place rest
    else if part = ".." then d.walk place.parent rest
    else
      match d.find? (place.child part) with
      | none => .error .notFound
      | some .directory => d.walk (place.child part) rest
      | some (.file _) => .error .notDirectory

/-- Where a path starts. -/
def start (path : String) : Place :=
  if (parts path).head? = some "" then { base := .root } else {}

/-- The directory of a path and the last name in it; no name if the path ends in the
    directory itself. An empty path leads nowhere. -/
def locate (d : Directory) (path : String) : Except Fault (Place × Option String) :=
  if path = "" then .error .notFound
  else do
    let ps := trimmedParts path
    let last := ps.getLastD "."
    if stays last ∨ last = ".." then return (← d.walk (start path) ps, none)
    else return (← d.walk (start path) ps.dropLast, some last)

/-! ### Reading and writing -/

/-- The text at a path. -/
def read (d : Directory) (path : String) : Except Fault String := do
  match ← d.locate path with
  | (_, none) => .error .isDirectory
  | (place, some name) =>
    match d.find? (place.child name) with
    | none => .error .notFound
    | some .directory => .error .isDirectory
    | some (.file bytes) =>
      if endsInSlash path then .error .notDirectory
      else
        match String.fromUTF8? bytes with
        | some text => .ok text
        | none => .error .notText

/-- The directory after a text is written at a path. Files are made where there are none,
    directories are not. -/
def write (d : Directory) (path text : String) : Except Fault Directory := do
  match ← d.locate path with
  | (_, none) => .error .isDirectory
  | (place, some name) =>
    if endsInSlash path then .error .isDirectory
    else
      match d.find? (place.child name) with
      | some .directory => .error .isDirectory
      | _ => .ok (d.put (place.child name) (.file text.toUTF8))

/-- Access to the files of a directory that is passed along. -/
def access : Access (StateM Directory) where
  read path := do return (← get).read path
  write path text := do
    match (← get).write path text with
    | .ok d =>
      set d
      return .ok ()
    | .error fault => return .error fault

end Directory

end RelayCollections.Files
