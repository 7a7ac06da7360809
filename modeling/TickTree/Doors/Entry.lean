import TickTree.Config.Basic
import TickTree.Doors.Plan

/-!
# Entering a building

The agent is given a configuration and visits a new building once.

## Main definitions

* `Entry`: what is left when the visit is over
* `Config.enter`: a whole visit
-/

namespace TickTree

/-- What is left when a visit is over. -/
structure Entry where
  /-- The status of the visit, or why it has none. -/
  result : Except EntryError Status
  visit : Visit
  generator : Generator
  /-- What was reported, in order. -/
  events : List (Event DoorNote)

namespace Config

/-- Sets the random source to the start of the seed's stream, if the configuration has a seed. -/
def reseed (config : Config) (generator : Generator) : Generator :=
  (config.seed.map Generator.ofSeed).getD generator

/-- Visits a new building once, with the random source in a given state. -/
def enter (config : Config) (generator : Generator) : Option Entry := do
  let visit := (Visit.of ⟨config.doorCount⟩).restart
  let (verdict, scene) ←
    Plan.run (Plan.tree (Plan.ofChances config.chances)) visit (config.reseed generator)
  return {
    result := verdict.mapError .aborted
    visit := scene.world.context
    generator := scene.world.generator
    events := (config.seed.map .reseeded).toList ++ scene.events }

end Config

end TickTree
