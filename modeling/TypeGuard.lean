import TypeGuard.Compile
import TypeGuard.Declaration.Canonical
import TypeGuard.Proofs.Grouping
import TypeGuard.Proofs.Inhabitation
import TypeGuard.Proofs.Tokenization
import TypeGuard.Proofs.Relocation
import TypeGuard.Proofs.Layout
import TypeGuard.Proofs.Order
import TypeGuard.Proofs.Regrouping
import TypeGuard.Proofs.Formatting
import TypeGuard.Proofs.Acceptance
import TypeGuard.Proofs.TopLevel
import TypeGuard.Proofs.Filling
import TypeGuard.Proofs.PatternCalls
import TypeGuard.Proofs.PatternLines
import TypeGuard.Proofs.Readable
import TypeGuard.Proofs.Spacing
import TypeGuard.Proofs.Idempotence
import TypeGuard.Proofs.Provenance
import TypeGuard.Proofs.Agreement
import TypeGuard.Proofs.Absence
import TypeGuard.Proofs.Faults
import TypeGuard.Proofs.Meaning
import TypeGuard.Proofs.Transparency
import TypeGuard.Proofs.Dependencies
import TypeGuard.Proofs.FaultFree
import TypeGuard.Proofs.IgnoredKeys
import TypeGuard.Proofs.Reordering
import TypeGuard.Proofs.Pointing
import TypeGuard.Proofs.HeaderComment
import TypeGuard.Proofs.Respacing
import TypeGuard.Proofs.CrashFree
import TypeGuard.Proofs.Concatenation
import TypeGuard.Proofs.Stopping
import TypeGuard.Proofs.Globals
import TypeGuard.Proofs.Invocations
import TypeGuard.Proofs.ClosedBlocks
import TypeGuard.Proofs.RangeLimits
import TypeGuard.Proofs.Merging
import TypeGuard.Proofs.OrderedUnion
import TypeGuard.Proofs.SnakeCase
import TypeGuard.Proofs.LiteralTokens
