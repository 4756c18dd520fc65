/-!
# Files

The files a program can see, as a value: a `FileTree` lists them by their path
below the working directory, and directories are there because something is in
them. `FileTree.read` follows a path step by step, so the first step that fails
decides what is reported.

Nothing outside the working directory is known. The places above it exist, but
no name leads anywhere from there.
-/

namespace TokenEscrow

/-! ## Errors -/

/-- Why a file cannot be read. -/
inductive FileError
  | notFound
  /-- a step of the path leads on from something that is no directory -/
  | notDirectory
  /-- the path leads to a directory -/
  | isDirectory
  | nameTooLong
  /-- the path contains the character that ends paths -/
  | zeroInPath
  /-- anything else -/
  | other (message : String)
  deriving DecidableEq, Repr

namespace FileError

/-- The wording of the error. -/
def message : FileError → String
  | notFound => "No such file or directory (os error 2)"
  | notDirectory => "Not a directory (os error 20)"
  | isDirectory => "Is a directory (os error 21)"
  | nameTooLong => "File name too long (os error 36)"
  | zeroInPath => "file name contained an unexpected NUL byte"
  | other message => message

/-- Whether the path leads to something all the same. -/
def exists? : FileError → Bool
  | isDirectory => true
  | _ => false

end FileError

/-! ## Trees -/

/-- The files below the working directory, each with its path and what it contains. -/
structure FileTree where
  files : List (List String × String) := []
  deriving DecidableEq, Repr

namespace FileTree

/-- The steps of a path. -/
def steps (path : String) : List String := path.splitOn "/"

/-- The tree with these files, whose paths are written with slashes. -/
def ofList (files : List (String × String)) : FileTree where
  files := files.map fun (path, text) =>
    ((steps path).filter fun step => step != "" && step != ".", text)

/-- Where a path has led to. -/
inductive Place
  /-- a place below the working directory, or the directory itself -/
  | inside (path : List String)
  /-- somewhere above it -/
  | outside
  deriving DecidableEq, Repr

/-- The longest name of a file, in bytes. -/
def maxName : Nat := 255

/-- The longest path, in bytes. -/
def maxPath : Nat := 4095

/-- Whether something is at a place below the working directory. -/
def isPlace (t : FileTree) (path : List String) : Bool :=
  path.isEmpty || t.files.any fun (file, _) => path.isPrefixOf file

/-- Whether that is a file. -/
def isFile (t : FileTree) (path : List String) : Bool := t.files.any fun (file, _) => file == path

/-- Follows one step. -/
def step (t : FileTree) : Place → String → Except FileError Place
  | .outside, name =>
    if name = "" ∨ name = "." ∨ name = ".." then .ok .outside
    else if maxName < name.utf8ByteSize then .error .nameTooLong
    else .error .notFound
  | .inside path, name =>
    if t.isFile path then .error .notDirectory
    else if name = "" ∨ name = "." then .ok (.inside path)
    else if name = ".." then .ok (if path.isEmpty then .outside else .inside path.dropLast)
    else if maxName < name.utf8ByteSize then .error .nameTooLong
    else if t.isPlace (path ++ [name]) then .ok (.inside (path ++ [name]))
    else .error .notFound

/-- What the file at a path contains. -/
def read (t : FileTree) (path : String) : Except FileError String := do
  if path.isEmpty then throw .notFound
  if path.toList.contains '\x00' then throw .zeroInPath
  if maxPath < path.utf8ByteSize then throw .nameTooLong
  let start : Place := if path.toList.head? = some '/' then .outside else .inside []
  match ← (steps path).foldlM t.step start with
  | .outside => throw .isDirectory
  | .inside place => match t.files.lookup place with
    | some text => return text
    | none => throw .isDirectory

end FileTree

end TokenEscrow
