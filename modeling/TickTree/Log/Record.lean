/-!
# Log records

What happens during an evaluation is reported as records: a level, the part of the program that
reports it, a message and named fields. How a record is shown, and whether it is shown, is decided
elsewhere.

## Main definitions

* `Level`: how urgent a record is
* `Field`: the value of a field, a text or something written as it stands
* `Record`: one report
* `Recordable`: values that have a record
-/

namespace TickTree

/-- How urgent a record is. -/
inductive Level
  | error
  | warn
  | info
  | debug
  | trace
  deriving DecidableEq, Repr

namespace Level

/-- The name under which a level is shown. -/
def name : Level → String
  | error => "ERROR"
  | warn => "WARN"
  | info => "INFO"
  | debug => "DEBUG"
  | trace => "TRACE"

/-- How many levels are at least as urgent. -/
def rank : Level → Nat
  | error => 1
  | warn => 2
  | info => 3
  | debug => 4
  | trace => 5

end Level

/-- The value of a field. -/
inductive Field
  /-- A text, which a log line shows in quotes. -/
  | text (value : String)
  /-- A number or a value with a written form of its own, shown as it stands. -/
  | plain (value : String)
  deriving DecidableEq, Repr

/-- The value without its kind. -/
def Field.value : Field → String
  | text value => value
  | plain value => value

/-- One report. -/
structure Record where
  level : Level
  /-- The part of the program that reports. -/
  target : String
  message : String
  /-- The named values, in the order in which they are shown. -/
  fields : List (String × Field)
  deriving DecidableEq, Repr

/-- Values that are reported as a record. -/
class Recordable (E : Type) where
  record : E → Record

end TickTree
