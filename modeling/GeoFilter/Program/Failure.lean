import GeoFilter.Input
import GeoFilter.Query

set_option autoImplicit false

/-! # Failures

Why a run of the program stops early, and the wording for the user. -/

namespace GeoFilter

/-- Why a file could not be read or written. -/
inductive FileError where
  | notFound
  | notADirectory
  | isADirectory
  | denied
  | notUtf8
  | unspecified
  deriving DecidableEq, Repr

/-- The wording, with the number under which the system knows the cause. -/
def FileError.message : FileError → String
  | notFound => "No such file or directory (os error 2)"
  | notADirectory => "Not a directory (os error 20)"
  | isADirectory => "Is a directory (os error 21)"
  | denied => "Permission denied (os error 13)"
  | notUtf8 => "stream did not contain valid UTF-8"
  | unspecified => "Input/output error (os error 5)"

/-- Why a run stops early. -/
inductive Failure where
  | settingsUnreadable (path : String) (cause : FileError)
  | settingsMalformed (path : String)
  | filter (source : String) (error : Cql.SyntaxError)
  | input (error : InputError)
  | file (cause : FileError)

/-- The wording of a failure. -/
def Failure.message : Failure → String
  | settingsUnreadable path cause => s!"failed to read config file {path}: {cause.message}"
  | settingsMalformed path => s!"failed to parse config file {path}"
  | filter source error => error.render source
  | input error => error.message
  | file cause => cause.message

end GeoFilter
