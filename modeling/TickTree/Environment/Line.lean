import TickTree.Text.Blank

/-!
# Lines of an environment file

An environment file is read line by line, but a quote that is open at the end of a line goes on in
the next one. A number sign starts a comment at the beginning of a line, and after a blank outside
of quotes. A backslash takes its special meaning from the character after it.

## Main definitions

* `EnvironmentLine.Mode`: what has been read of a line
* `EnvironmentLine.split`: the lines of a file, without their comments
-/

namespace TickTree.EnvironmentLine

open Text (isBlank)

/-- What has been read of a line. -/
inductive Mode
  /-- Nothing but blanks. -/
  | start
  /-- The last character was no blank, or it was the second of a pair of blanks. -/
  | plain
  /-- The last character was a blank, after which a comment may start. -/
  | blank
  /-- The last character was a backslash outside of quotes. -/
  | escaped
  /-- A single quote is open. -/
  | single
  /-- A single quote is open and the last character was a backslash. -/
  | singleEscaped
  /-- A double quote is open. -/
  | double
  /-- A double quote is open and the last character was a backslash. -/
  | doubleEscaped
  /-- A comment, which ends with the line. -/
  | comment
  deriving DecidableEq, Repr

namespace Mode

/-- The mode after a character outside of quotes that is neither a blank nor starts a comment. -/
def outside (c : Char) : Mode :=
  match c with
  | '\\' => escaped
  | '"' => double
  | '\'' => single
  | _ => plain

/-- The mode after one more character. -/
def next (mode : Mode) (c : Char) : Mode :=
  match mode with
  | start => if c = '#' then comment else if isBlank c then start else outside c
  | plain => if isBlank c ∧ c ≠ '\n' ∧ c ≠ '\r' then blank else outside c
  | blank => if c = '#' then comment else outside c
  | escaped => plain
  | single => if c = '\\' then singleEscaped else if c = '\'' then plain else single
  | singleEscaped => single
  | double => if c = '\\' then doubleEscaped else if c = '"' then plain else double
  | doubleEscaped => double
  | comment => comment

/-- A line may end in this mode. -/
def mayEnd : Mode → Bool
  | start | plain | comment => true
  | _ => false

end Mode

/-- The lines of a text of which a part was read before, last character first. Only a line that
may end is a line: the end of the text within quotes, and after a single blank, leaves none. -/
def splitFrom (mode : Mode) (read : List Char) : List Char → List (List Char)
  | [] => if mode.mayEnd then [read.reverse] else []
  | c :: rest =>
    let mode := mode.next c
    if c = '\n' ∧ mode.mayEnd then read.reverse :: splitFrom .start [] rest
    else splitFrom mode (if mode = .comment then read else c :: read) rest

/-- The lines of a text, without their comments. -/
def split (text : List Char) : List (List Char) := splitFrom .start [] text

end TickTree.EnvironmentLine
