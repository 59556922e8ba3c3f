/-!
# Access to files

* `FileError`: why a file could not be read or written, with the system's wording.
* `FileAccess`: the two operations a run needs, reading and writing one whole file. A run is
  written against these alone; the operating system provides them, and so does a directory that is
  a value (`GlyphCanvas.Files.Directory`).
-/

namespace GlyphCanvas.Files

/-- Why a file could not be read or written. -/
inductive FileError where
  /-- A part of the path, or the file itself, does not exist. -/
  | notFound
  /-- Something on the way to the file is a file itself. -/
  | notDirectory
  /-- The path leads to a directory. -/
  | isDirectory
  /-- The path or one of its names is longer than the system allows. -/
  | nameTooLong
  /-- The path holds the character U+0000. -/
  | nulInPath
  /-- Any other cause, in the system's words. -/
  | other (text : String)
deriving DecidableEq

/-- The cause in words, with the system's number for it. -/
def FileError.message : FileError → String
  | notFound => "No such file or directory (os error 2)"
  | notDirectory => "Not a directory (os error 20)"
  | isDirectory => "Is a directory (os error 21)"
  | nameTooLong => "File name too long (os error 36)"
  | nulInPath => "file name contained an unexpected NUL byte"
  | other text => text

/-- Reading and writing whole files. -/
class FileAccess (m : Type → Type) where
  /-- The content of the file at a path. -/
  readFile (path : String) : m (Except FileError ByteArray)
  /-- Makes the file at a path hold exactly this content. -/
  writeFile (path : String) (content : ByteArray) : m (Except FileError Unit)

end GlyphCanvas.Files
