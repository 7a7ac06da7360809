import TickTree.Log.Record
import TickTree.Config.Numeral

/-!
# Log filters

A filter decides which records are shown. It is written as a list of directives with commas
between them, each of which sets the least urgent level that is shown for a part of the program:
`part=level`. The level may be a name, in upper or lower case, or a numeral; `off` or zero shows
nothing. A directive counts for every target that begins with its part, and of several the
longest decides, of equal ones the last. Where none counts, records up to `Level.info` are shown; a
directive that names no part is not heeded.

## Main definitions

* `Directive`: how much is shown of a part of the program
* `Filter.read`: the directives of a text
* `Filter.shows`: whether a record is shown
-/

namespace TickTree

/-- Sets how much is shown of the targets that begin with a text. -/
structure Directive where
  target : List Char
  /-- Records of at most this rank are shown. -/
  rank : Nat
  deriving DecidableEq, Repr

/-- A list of directives. -/
abbrev Filter := List Directive

namespace Directive

/-- The rank that the name of a level stands for, whatever the case of its letters. -/
def rankOfName? (name : List Char) : Option Nat :=
  match String.ofList (name.map Char.toLower) with
  | "off" => some 0
  | "error" => some Level.error.rank
  | "warn" => some Level.warn.rank
  | "info" => some Level.info.rank
  | "debug" => some Level.debug.rank
  | "trace" => some Level.trace.rank
  | _ => none

/-- The rank that a level is written as: a numeral up to the greatest rank, or a name. -/
def rank? (written : List Char) : Option Nat :=
  match Numeral.read? written with
  | some n => if n ≤ Level.trace.rank then some n else none
  | none => rankOfName? written

/-- The directive that a text writes. Without a level, everything is shown of the target; a level
alone names no target. -/
def read? (written : List Char) : Option Directive :=
  match written.takeWhile (· ≠ '='), written.dropWhile (· ≠ '=') with
  | [], _ => none
  | target, [] => if (rank? target).isSome then none else some ⟨target, Level.trace.rank⟩
  | target, ['='] => some ⟨target, Level.trace.rank⟩
  | target, _ :: level => (rank? level).map fun rank => ⟨target, rank⟩

/-- A directive counts for a target that begins with its own. -/
def countsFor (d : Directive) (target : List Char) : Bool := d.target.isPrefixOf target

end Directive

namespace Filter

/-- The pieces of a text between its commas. -/
def pieces (text : List Char) : List (List Char) := text.splitOn ','

/-- The directives of a text. Pieces that write none are passed over. -/
def read (text : String) : Filter := (pieces text.toList).filterMap Directive.read?

/-- Of a directive found before and one that comes later, the one that decides. -/
def prefer (found : Option Directive) (later : Directive) : Option Directive :=
  match found with
  | none => some later
  | some d => if later.target.length < d.target.length then some d else some later

/-- The directive that decides on a target. -/
def deciding? (filter : Filter) (target : List Char) : Option Directive :=
  (filter.filter fun d => d.countsFor target).foldl prefer none

/-- The greatest rank that is shown of a target. -/
def rankOf (filter : Filter) (target : String) : Nat :=
  ((filter.deciding? target.toList).map Directive.rank).getD Level.info.rank

/-- Whether a record is shown. -/
def shows (filter : Filter) (r : Record) : Bool := r.level.rank ≤ filter.rankOf r.target

end Filter

end TickTree
