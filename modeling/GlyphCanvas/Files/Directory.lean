import GlyphCanvas.Files.Access
import GlyphCanvas.Text.Blank

/-!
# A working directory as a value

* `Place`: where something lies, as the names that lead there, innermost first. The working
  directory is the empty place; what lies above it is reached by names `..`.
* `Directory`: what lies at which place.
* `Directory.locate`: follows a path name by name; every name but the last must lead to a
  directory.
* `Directory.read`, `Directory.write`: a whole file. A failed operation changes nothing, and a
  successful write changes one place (`Directory.find?_insert`).

Paths are relative. A path from the root leads to nothing.
-/

namespace GlyphCanvas.Files

/-- What lies at a place. -/
inductive Entry where
  | file (content : ByteArray)
  | directory

/-- The names that lead to a place from the working directory, innermost first. -/
abbrev Place := List String

/-- The place that `..` leads to. -/
def parent : Place → Place
  | [] => [".."]
  | name :: rest => if name = ".." then ".." :: name :: rest else rest

/-- What lies at the places below the working directory. -/
structure Directory where
  entries : List (Place × Entry)

/-- The last step of a path. -/
inductive Target where
  /-- A name in the directory at a place; `slash` if a slash follows it. -/
  | name (place : Place) (name : String) (slash : Bool)
  /-- A directory that is there for sure. -/
  | directory

/-- The bytes of the longest path. -/
def maxPath : Nat := 4095

/-- The bytes of the longest name. -/
def maxName : Nat := 255

/-- Refuses a name that nothing can have. -/
def checkName (name : String) : Except FileError Unit :=
  if maxName < name.utf8ByteSize then .error .nameTooLong else .ok ()

namespace Directory

/-- What lies at a place, if anything does. -/
def find? (d : Directory) (place : Place) : Option Entry :=
  if place.all (· = "..") then some .directory else d.entries.lookup place

/-- The directory with another entry at a place. -/
def insert (d : Directory) (place : Place) (entry : Entry) : Directory :=
  ⟨(place, entry) :: d.entries.filter (·.1 ≠ place)⟩

/-- Goes from the directory at a place into one that has this name in it. -/
def enter (d : Directory) (place : Place) (name : String) : Except FileError Place :=
  if name = "." then .ok place
  else if name = ".." then .ok (parent place)
  else do
    checkName name
    match d.find? (name :: place) with
    | some .directory => return name :: place
    | some (.file _) => throw .notDirectory
    | none => throw .notFound

/-- Follows a path up to its last name. -/
def locate (d : Directory) (path : String) : Except FileError Target := do
  let characters := path.toList
  if characters.contains '\x00' then throw .nulInPath
  if maxPath < path.utf8ByteSize then throw .nameTooLong
  if characters = [] ∨ characters.head? = some '/' then throw .notFound
  let names := ((Text.pieces (· = '/') characters).filter (!·.isEmpty)).map String.ofList
  let place ← names.dropLast.foldlM d.enter []
  let last := names.getLastD "."
  if last = "." ∨ last = ".." then return .directory
  return .name place last (characters.getLast? = some '/')

/-- The content of the file at a path. -/
def read (d : Directory) (path : String) : Except FileError ByteArray := do
  match ← d.locate path with
  | .directory => throw .isDirectory
  | .name place name slash =>
    checkName name
    match d.find? (name :: place) with
    | some (.file content) => if slash then throw .notDirectory else return content
    | some .directory => throw .isDirectory
    | none => throw .notFound

/-- The directory in which the file at a path has this content. A file that does not exist yet is
made, a directory on the way is not. A slash at the end asks for a directory, whatever the name
before it. -/
def write (d : Directory) (path : String) (content : ByteArray) :
    Except FileError Directory := do
  match ← d.locate path with
  | .directory => throw .isDirectory
  | .name place name slash =>
    if slash then throw .isDirectory
    checkName name
    match d.find? (name :: place) with
    | some .directory => throw .isDirectory
    | some (.file _) | none => return d.insert (name :: place) (.file content)

/-- What lies directly in the working directory, by name. -/
def listing (d : Directory) : List (String × Entry) :=
  d.entries.filterMap fun (place, entry) =>
    match place with
    | [name] => some (name, entry)
    | _ => none

theorem find?_insert (d : Directory) {place other : Place} (entry : Entry)
    (h : place.all (· = "..") = false) :
    (d.insert place entry).find? other = if other = place then some entry else d.find? other := by
  unfold find? insert
  by_cases e : other = place
  · subst e
    simp [h]
  · have hl : ((d.entries.filter (·.1 ≠ place)).lookup other) = d.entries.lookup other := by
      induction d.entries with
      | nil => rfl
      | cons head tail ih =>
        obtain ⟨p, v⟩ := head
        by_cases hp : p = place
        · subst hp
          simp only [ne_eq, not_true_eq_false, decide_false, Bool.false_eq_true,
            not_false_eq_true, List.filter_cons_of_neg, List.lookup_cons, ih]
          have : (other == p) = false := by simpa using e
          simp [this]
        · simp only [ne_eq, hp, not_false_eq_true, decide_true, List.filter_cons_of_pos,
            List.lookup_cons, ih]
    have hn : (other == place) = false := by simpa using e
    simp only [List.lookup_cons, hn, hl, if_neg e]

end Directory

instance Directory.access : FileAccess (StateM Directory) where
  readFile path := do return (← get).read path
  writeFile path content := do
    match (← get).write path content with
    | .ok d => set d; return .ok ()
    | .error error => return .error error

end GlyphCanvas.Files
