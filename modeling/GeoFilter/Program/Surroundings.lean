import GeoFilter.Program.Failure

set_option autoImplicit false

/-! # Surroundings of a run

All that a run may do to what is around it: look at files, take its input, write. Each is an
action in a monad, so that one program runs on real files and is reasoned about on given ones. -/

namespace GeoFilter

/-- The actions that a run may take. -/
structure Surroundings (m : Type → Type) where
  /-- Whether there is a file at a path. -/
  isFile : String → m Bool
  /-- The content of the file at a path. -/
  readFile : String → m (Except FileError String)
  /-- Gives the file at a path a content; the file is made if there is none. -/
  writeFile : String → String → m (Except FileError Unit)
  /-- The whole input. -/
  readInput : m (Except FileError String)
  /-- Handles the lines of the input, one after the other, each as soon as it is there, until
      the answer is that no more are wanted. -/
  forLines : {σ : Type} → (σ → String → m (σ × Bool)) → σ → m σ
  /-- Writes text for the user. -/
  print : String → m Unit
  /-- Writes text about the run itself. -/
  report : String → m Unit

end GeoFilter
