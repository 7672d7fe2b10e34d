import Rollup.Main
import Rollup.Proofs.Codec.Fields
import Rollup.Proofs.Codec.Arena
import Rollup.Proofs.Codec.Blob
import Rollup.Proofs.Codec.Shortest
import Rollup.Proofs.Outcome
import Rollup.Proofs.Table.Summary
import Rollup.Proofs.Table.Aggregator
import Rollup.Proofs.Table.Bundle
import Rollup.Proofs.Table.Grouping
import Rollup.Proofs.Table.CompositeKey
import Rollup.Proofs.Table.Columns
import Rollup.Proofs.Table.Rendering
import Rollup.Proofs.Table.Stage
import Rollup.Proofs.Table.Layout
import Rollup.Proofs.Table.Single
import Rollup.Proofs.Table.Assignment
import Rollup.Proofs.Table.Solo
import Rollup.Proofs.Table.Aggregating
import Rollup.Proofs.Output.Writer
import Rollup.Proofs.Row
import Rollup.Proofs.Fields
import Rollup.Proofs.Spec.Stages
import Rollup.Proofs.Spec.Grammar
import Rollup.Proofs.Spec.Reading
import Rollup.Proofs.Spec.Derivation
import Rollup.Proofs.Spec.Lexing
import Rollup.Proofs.Spec.WellFormed
import Rollup.Proofs.Spec.Canonical
import Rollup.Proofs.Spec.Spans
import Rollup.Proofs.Spec.Scanner
import Rollup.Proofs.Spec.Scanning
import Rollup.Proofs.Spec.Positions
import Rollup.Proofs.Spec.Placement
import Rollup.Proofs.Table.Meaning
import Rollup.Proofs.Table.Chain
import Rollup.Proofs.Table.Records
import Rollup.Proofs.Table.Build
import Rollup.Proofs.Table.Explicit
import Rollup.Proofs.Output.Delivery
import Rollup.Proofs.Processor
import Rollup.Proofs.Command
import Rollup.Proofs.Table.Piping
import Rollup.Proofs.Table.Counters
import Rollup.Proofs.Table.Intact
import Rollup.Proofs.Table.Twins
import Rollup.Proofs.Table.Refusal
import Rollup.Proofs.Table.Faults
import Rollup.Proofs.Table.Ordinary
import Rollup.Proofs.Table.Room
import Rollup.Proofs.Table.Tiling
import Rollup.Proofs.Table.Secure
import Rollup.Proofs.Table.SecureChain
import Rollup.Proofs.Table.NoData
import Rollup.Proofs.Table.Integers
import Rollup.Proofs.Table.Intake
import Rollup.Proofs.Table.Reordered
import Rollup.Proofs.Table.Sum
import Rollup.Proofs.Number.Exact
import Rollup.Proofs.Number.Rounding
import Rollup.Proofs.Number.Printing
import Rollup.Proofs.Number.Spelling
import Rollup.Proofs.Table.FirstBest
import Rollup.Proofs.Table.Extremum
import Rollup.Proofs.Table.Following
import Rollup.Proofs.Table.BestRow
import Rollup.Proofs.Table.Finishing
import Rollup.Proofs.Table.Orderly
import Rollup.Proofs.Table.Alike
import Rollup.Proofs.Table.Reuse
import Rollup.Proofs.Table.NormalShape
import Rollup.Proofs.Table.FirstField
import Rollup.Proofs.Number.Adding
