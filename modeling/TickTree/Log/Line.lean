import TickTree.Log.Record
import TickTree.Text.Quoted

/-!
# Log lines

A record is shown in one line: its level in five columns, its target, its message and its fields.

## Main definitions

* `Record.line`: the line of a record
-/

namespace TickTree

/-- The name of a level, with blanks in front to fill five columns. -/
def Level.column (level : Level) : String :=
  String.ofList (level.name.toList.leftpad 5 ' ')

/-- The value of a field as a line shows it: texts are quoted. -/
def Field.shown : Field → String
  | text value => Text.quote value
  | plain value => value

/-- The line of a record. -/
def Record.line (r : Record) : String :=
  let fields := r.fields.map fun (name, value) => " " ++ name ++ "=" ++ value.shown
  r.level.column ++ " " ++ r.target ++ ": " ++ r.message ++ String.join fields

end TickTree
