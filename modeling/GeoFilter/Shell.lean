import GeoFilter.Query

set_option autoImplicit false

/-! # The shell

A line of the shell is a filter, answered by the records that it accepts and their number, or a
command that starts with a point. Only the command that describes a filter takes an argument. -/

namespace GeoFilter.Shell

/-! ## What a line asks for -/

/-- What a line asks for. -/
inductive Entry where
  | find (source : String)
  | describe (source : String)
  | count
  | showHelp
  | leave
  | unknown
  deriving DecidableEq

/-- Cuts a line at its first blank: the command, and what is left without blanks around it. -/
def splitCommand (line : String) : String × String :=
  let cs := line.toList
  (String.ofList (cs.takeWhile fun c => !Text.isBlank c),
    String.ofList (Text.trimmed (cs.dropWhile fun c => !Text.isBlank c)))

/-- What a line with a command asks for. -/
def Entry.ofCommand : String → String → Entry
  | ".check", source => .describe source
  | ".quit", "" => .leave
  | ".exit", "" => .leave
  | ".help", "" => .showHelp
  | ".count", "" => .count
  | _, _ => .unknown

/-- What a line asks for. -/
def Entry.ofLine (line : String) : Entry :=
  if line.toList.head? = some '.' then
    let (command, rest) := splitCommand line
    .ofCommand command rest
  else .find line

/-- The text that shall be a filter. -/
def Entry.source? : Entry → Option String
  | .find source => some source
  | .describe source => some source
  | _ => none

/-! ## Answers -/

/-- What the shell does after a line. -/
inductive Reply where
  | print (text : String)
  | quit
  deriving DecidableEq

/-- The answer to the command for help. -/
def help : String :=
  "enter a CQL filter to list the records it accepts\n" ++
  "  .check <cql>   show the canonical form and attributes read\n" ++
  "  .count         number of loaded records\n" ++
  "  .help          this message\n" ++
  "  .quit          leave the shell"

/-- The answer to a filter that shall be described. -/
def describe (maxDepth : Nat) (source : String) : String :=
  match Cql.parse source maxDepth with
  | .ok f => f.describe
  | .error e => e.render source

/-- The answer to a filter: the lines of the records that it accepts, and a summary. -/
def find [Relate] (maxDepth : Nat) (source : String) (records : List InputRecord) : String :=
  match Cql.parse source maxDepth with
  | .ok f =>
    let (found, cursor) := f.select records
    InputRecord.linesOf found ++ s!"({cursor.matched} of {cursor.scanned} records)"
  | .error e => e.render source

/-- The answer to a line. -/
def respond [Relate] (maxDepth : Nat) (records : List InputRecord) (line : String) : Reply :=
  match Entry.ofLine line with
  | .find source => .print (find maxDepth source records)
  | .describe source => .print (describe maxDepth source)
  | .count => .print s!"{records.length} record(s)"
  | .showHelp => .print help
  | .leave => .quit
  | .unknown => .print s!"unknown command '{line}', try .help"

/-! ## Lines as they are typed -/

/-- Takes backspaces away, each with the character before it; `before` holds, in reverse, what
    is left of the characters so far. -/
def eraseAfter (before : List Char) : List Char → List Char
  | [] => before.reverse
  | c :: cs => if c = '\x08' then eraseAfter before.tail cs else eraseAfter (c :: before) cs

/-- A line as the shell takes it: backspaces have taken effect, and there are no blanks around
    it. -/
def taken (line : String) : String :=
  String.ofList (Text.trimmed (eraseAfter [] line.toList))

end GeoFilter.Shell
