import GeoFilter.Program.Run

set_option autoImplicit false

/-! # The command line program

Runs the program on the real files, input and output. -/

namespace GeoFilter

/-- Why an action on real files failed. -/
def fileError : IO.Error → FileError
  | .noFileOrDirectory _ _ _ => .notFound
  | .permissionDenied _ _ _ => .denied
  | .inappropriateType _ 20 _ => .notADirectory
  | .inappropriateType _ 21 _ => .isADirectory
  | .userError _ => .notUtf8
  | _ => .unspecified

/-- The outcome of an action on real files. -/
def attempt {α : Type} (action : IO α) : IO (Except FileError α) := do
  match ← action.toBaseIO with
  | .ok a => return .ok a
  | .error e => return .error (fileError e)

/-- Handles lines of a stream until no more are wanted, or until there are none. -/
partial def handleStream {σ : Type} (act : σ → String → IO (σ × Bool)) (state : σ)
    (stream : IO.FS.Stream) : IO σ := do
  let line ← stream.getLine
  match Text.lines line with
  | [] => return state
  | line :: _ =>
    let (state, more) ← act state line
    if more then handleStream act state stream else return state

/-- All lines of a stream, as one text. -/
partial def readStream (text : String) (stream : IO.FS.Stream) : IO String := do
  let line ← stream.getLine
  if line.isEmpty then return text else readStream (text ++ line) stream

/-- Whether there is a file at a path, even one that cannot be read. -/
def fileExists (path : String) : IO Bool := do
  match ← attempt (IO.FS.readFile path) with
  | .ok _ => return true
  | .error cause => return cause ∉ [FileError.notFound, .notADirectory, .isADirectory]

/-- The real surroundings. -/
def realSurroundings : Surroundings IO where
  isFile := fileExists
  readFile path := attempt (IO.FS.readFile path)
  writeFile path content := attempt (IO.FS.writeFile path content)
  readInput := do attempt (readStream "" (← IO.getStdin))
  forLines act state := do handleStream act state (← IO.getStdin)
  print text := IO.print text
  report text := IO.eprint text

end GeoFilter

/-- Runs the program with the arguments of its command line. -/
def main (arguments : List String) : IO UInt32 := do
  let exit ← GeoFilter.Program.run GeoFilter.realSurroundings arguments
  return UInt32.ofNat exit.code
