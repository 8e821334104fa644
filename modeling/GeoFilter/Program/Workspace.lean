import GeoFilter.Dictionary
import GeoFilter.Program.Surroundings

set_option autoImplicit false

/-! # Workspaces

A workspace holds all that a run starts from and leaves behind: the files below one directory,
the input that is left, and what was written. Files are known by their paths from that
directory; directories are those on the way to a file. Nothing outside can be reached.

`Workspace.surroundings` lets the program run on a workspace. -/

namespace GeoFilter

/-- Files by their paths, the input that is left, and what was written. -/
structure Workspace where
  files : Dictionary String
  input : String
  printed : String
  reported : String

namespace Workspace

/-- A workspace before a run. -/
def start (files : List (String × String)) (input : String) : Workspace :=
  ⟨.ofList files, input, "", ""⟩

/-! ## Paths -/

/-- The parts between the slashes of a path that goes on with a part of which the characters so
    far are `part`, in reverse. -/
def partsAfter (part : List Char) : List Char → List String
  | [] => [String.ofList part.reverse]
  | c :: cs =>
    if c = '/' then String.ofList part.reverse :: partsAfter [] cs
    else partsAfter (c :: part) cs

/-- Whether there is a file below a path. -/
def isDirectory (w : Workspace) (path : String) : Bool :=
  w.files.names.any fun name => (path.toList ++ ['/']).isPrefixOf name.toList

/-- What is found at a path. -/
inductive Place where
  | file (path content : String)
  | directory
  | free (path : String)

/-- Goes on from a directory, given by its path's parts. -/
def walk (w : Workspace) (directory : List String) : List String → Except FileError Place
  | [] => .ok .directory
  | part :: rest =>
    if part = "" ∨ part = "." then w.walk directory rest
    else if part = ".." then
      if directory.isEmpty then .error .notFound else w.walk directory.dropLast rest
    else
      let path := String.intercalate "/" (directory ++ [part])
      match w.files.get? path with
      | some content => if rest.isEmpty then .ok (.file path content) else .error .notADirectory
      | none =>
        if w.isDirectory path then w.walk (directory ++ [part]) rest
        else if rest.isEmpty then .ok (.free path)
        else .error .notFound

/-- What is found at a path; a path from the root of all directories leads outside. -/
def place (w : Workspace) (path : String) : Except FileError Place :=
  match path.toList with
  | [] => .error .notFound
  | '/' :: _ => .error .notFound
  | cs => w.walk [] (partsAfter [] cs)

/-! ## Files -/

/-- The content of the file at a path. -/
def read (w : Workspace) (path : String) : Except FileError String :=
  match w.place path with
  | .ok (.file _ content) => .ok content
  | .ok .directory => .error .isADirectory
  | .ok (.free _) => .error .notFound
  | .error e => .error e

/-- Whether there is a file at a path. -/
def isFile (w : Workspace) (path : String) : Bool :=
  match w.place path with
  | .ok (.file _ _) => true
  | _ => false

/-- Gives the file at a path a content. -/
def write (w : Workspace) (path content : String) : Except FileError Workspace :=
  match w.place path with
  | .ok (.file path _) => .ok { w with files := w.files.insert path content }
  | .ok (.free path) => .ok { w with files := w.files.insert path content }
  | .ok .directory => .error .isADirectory
  | .error e => .error e

/-! ## Running on a workspace -/

/-- Handles lines until no more are wanted. -/
def handleLines {σ : Type} (act : σ → String → StateM Workspace (σ × Bool)) (state : σ) :
    List String → StateM Workspace σ
  | [] => return state
  | line :: rest => do
    let (state, more) ← act state line
    if more then handleLines act state rest else return state

/-- The actions on a workspace. -/
def surroundings : Surroundings (StateM Workspace) where
  isFile path := return (← get).isFile path
  readFile path := return (← get).read path
  writeFile path content := do
    match (← get).write path content with
    | .ok w =>
      set w
      return .ok ()
    | .error e => return .error e
  readInput := modifyGet fun w => (.ok w.input, { w with input := "" })
  forLines act state := do
    let input ← modifyGet fun w => (w.input, { w with input := "" })
    handleLines act state (Text.lines input)
  print text := modify fun w => { w with printed := w.printed ++ text }
  report text := modify fun w => { w with reported := w.reported ++ text }

end Workspace

end GeoFilter
