import TickTree.Main
import TickTree.Workbench.Leaf
import TickTree.Proofs.Cancellation
import TickTree.Proofs.Erasure
import TickTree.Proofs.Replay
import TickTree.Proofs.Doors.Journal
import TickTree.Proofs.Doors.MoreDoors
import TickTree.Proofs.Session
import TickTree.Proofs.Doors.Consultation
import TickTree.Proofs.Doors.Draws
import TickTree.Proofs.Doors.Log
import TickTree.Proofs.Doors.Reuse
import TickTree.Proofs.Blackboard.Provenance
import TickTree.Proofs.Blackboard.SetSlots
import TickTree.Proofs.Random.OneStream
import TickTree.Proofs.Random.WithoutChance
import TickTree.Proofs.InTurn
import TickTree.Proofs.Loop.UntilFail
import TickTree.Proofs.Loop.Forever
import TickTree.Proofs.Random.Unbiased
import TickTree.Proofs.Algebra
import TickTree.Proofs.Loop.Counted
import TickTree.Proofs.Blackboard.PopLoop
import TickTree.Proofs.Blackboard.Moving
import TickTree.Proofs.ShortCircuit
import TickTree.Proofs.Doors.Closing
import TickTree.Proofs.Doors.FirstDoor
import TickTree.Proofs.Config.Language
import TickTree.Proofs.Config.Message
import TickTree.Proofs.Blackboard.AllOrNothing
import TickTree.Proofs.Weight
