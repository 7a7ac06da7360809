import TickTree.Environment.Line

/-!
# Environment files

An environment file assigns values to variables, one on a line: a key, an equals sign with blanks
around it or without, and a value, which may be bare or consist of quoted pieces. The word `export`
may stand in front. Reading ends at the first line that is malformed, and what was read before
holds.

## Main definitions

* `EnvironmentFile.value?`: the text that a written value stands for
* `EnvironmentFile.assignment`: what one line says
* `EnvironmentFile.read`: the assignments of a file
* `EnvironmentFile.overlay`: variables of which some have their value from a file
-/

namespace TickTree.EnvironmentFile

open Text (isBlank trim)

/-- Where in a value a character stands. -/
inductive Place
  /-- Outside of quotes. -/
  | bare
  /-- In single quotes. -/
  | single
  /-- In double quotes. -/
  | double
  /-- After the value, where only blanks and a comment may follow. -/
  | after
  deriving DecidableEq, Repr

/-- The character that a backslash and this character stand for, if they stand for one. -/
def escaped? : Char → Option Char
  | 'n' => some '\n'
  | c => if c ∈ ['\\', '\'', '"', '$', ' '] then some c else none

/-- The text that a written value stands for, from a place in it onwards, unless it is malformed. -/
def valueFrom? : Place → List Char → Option (List Char)
  | .bare, [] => some []
  | .single, [] => none
  | .double, [] => none
  | .after, [] => some []
  | .after, c :: rest =>
    if c = ' ' ∨ c = '\t' then valueFrom? .after rest else if c = '#' then some [] else none
  | .single, c :: rest =>
    if c = '\'' then valueFrom? .bare rest else (valueFrom? .single rest).map (c :: ·)
  | .double, ['\\'] => none
  | .double, '\\' :: c :: rest => do
    let c ← escaped? c
    return c :: (← valueFrom? .double rest)
  | .double, c :: rest =>
    if c = '"' then valueFrom? .bare rest else (valueFrom? .double rest).map (c :: ·)
  | .bare, ['\\'] => some []
  | .bare, '\\' :: c :: rest => do
    let c ← escaped? c
    return c :: (← valueFrom? .bare rest)
  | .bare, c :: rest =>
    if c = '\'' then valueFrom? .single rest
    else if c = '"' then valueFrom? .double rest
    else if c = ' ' ∨ c = '\t' then valueFrom? .after rest
    else (valueFrom? .bare rest).map (c :: ·)

/-- The text that a written value stands for, unless it is malformed. -/
def value? (written : List Char) : Option (List Char) := valueFrom? .bare written

/-- A text without the blanks in front. -/
def skipBlanks (text : List Char) : List Char := text.dropWhile isBlank

/-- The key at the front of a text, if there is one, and the text after it. -/
def key? (text : List Char) : Option (List Char × List Char) :=
  let inKey (c : Char) : Bool := c.isAlphanum || c = '_' || c = '.'
  match text with
  | [] => none
  | c :: _ =>
    if c.isAlpha || c = '_' then some (text.takeWhile inKey, text.dropWhile inKey) else none

/-- The text after an equals sign, if the text starts with one. -/
def afterEquals? : List Char → Option (List Char)
  | '=' :: rest => some rest
  | _ => none

/-- The key at the front of a line and what follows its equals sign. A key `export` that no equals
sign follows is not the key but stands in front of it. -/
def keyed? (line : List Char) : Option (List Char × List Char) := do
  let (key, rest) ← key? line
  match afterEquals? (skipBlanks rest) with
  | some rest => return (key, rest)
  | none =>
    guard (key = "export".toList)
    let (key, rest) ← key? (skipBlanks rest)
    return (key, ← afterEquals? (skipBlanks rest))

/-- What one line says. -/
inductive Statement
  /-- The line is empty or a comment. -/
  | nothing
  /-- The line assigns a value to a key. -/
  | assign (key value : String)
  /-- The line has no meaning. -/
  | malformed
  deriving DecidableEq, Repr

/-- What one line says. A value that is empty or begins as a comment is the empty text. -/
def statement (line : List Char) : Statement :=
  match trim line with
  | [] => .nothing
  | '#' :: _ => .nothing
  | line =>
    match keyed? line with
    | none => .malformed
    | some (key, rest) =>
      let assign (value : List Char) : Statement :=
        .assign (String.ofList key) (String.ofList value)
      match skipBlanks rest with
      | [] => assign []
      | '#' :: _ => assign []
      | written => (value? written).elim .malformed assign

/-- The assignments of statements up to the first that is malformed. -/
def assignments : List Statement → List (String × String)
  | [] => []
  | .nothing :: rest => assignments rest
  | .assign key value :: rest => (key, value) :: assignments rest
  | .malformed :: _ => []

/-- A text without the byte order mark that may stand in front. -/
def withoutMark : List Char → List Char
  | '\ufeff' :: rest => rest
  | text => text

/-- The assignments of a file, in order. -/
def read (text : String) : List (String × String) :=
  assignments ((EnvironmentLine.split (withoutMark text.toList)).map statement)

/-- Variables of which those that are not set have the first value that a file assigns to them. -/
def overlay (file : String) (lookup : String → Option String) (key : String) : Option String :=
  (lookup key).or ((read file).lookup key)

end TickTree.EnvironmentFile
