import BlockCheck.Main
import BlockCheck.Proofs.Decomposition
import BlockCheck.Proofs.Flattened
import BlockCheck.Proofs.Rendered
import BlockCheck.Proofs.Siblings
import BlockCheck.Proofs.Wrapped
import BlockCheck.Proofs.HeadersOpen
import BlockCheck.Proofs.Unsearched
import BlockCheck.Proofs.Layout
import BlockCheck.Proofs.LaidOut
import BlockCheck.Proofs.NestingDepth
import BlockCheck.Proofs.LoopLines
import BlockCheck.Proofs.CheckedLines
import BlockCheck.Proofs.CheckedPrograms
import BlockCheck.Proofs.FlatSearch
import BlockCheck.Proofs.ReadingEvents
import BlockCheck.Proofs.Arguments
import BlockCheck.Proofs.JsonReading
import BlockCheck.Proofs.JsonObjects
import BlockCheck.Proofs.JudgingEvents
import BlockCheck.Proofs.Reports
import BlockCheck.Proofs.Attempts
import BlockCheck.Proofs.ReaderStates
import BlockCheck.Proofs.DecidingWords
import BlockCheck.Proofs.DepthLabels
import BlockCheck.Proofs.SpacedHeaders
import BlockCheck.Proofs.Comparisons
import BlockCheck.Proofs.BracketStacks
import BlockCheck.Proofs.Rereading
import BlockCheck.Proofs.LimitedBuilding
