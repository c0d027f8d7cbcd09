import BlockComments.Files.FileTree
import BlockComments.Files.FlatStore
import BlockComments.Main
import BlockComments.Scan.Render
import BlockComments.Proofs.Segmentation
import BlockComments.Proofs.Recovery
import BlockComments.Proofs.LocalStore
import BlockComments.Proofs.Interleaving
import BlockComments.Proofs.Decoding
import BlockComments.Proofs.LedgerOrder
import BlockComments.Proofs.Completion
import BlockComments.Proofs.Atomicity
import BlockComments.Proofs.Stripping
import BlockComments.Proofs.LineEndings
import BlockComments.Proofs.Convergence
import BlockComments.Proofs.LineNumbers
import BlockComments.Proofs.SharedPath
import BlockComments.Proofs.Courses
import BlockComments.Proofs.OptionGrammar
import BlockComments.Proofs.BlockEnds
import BlockComments.Proofs.LineStyles
import BlockComments.Proofs.StrictDecoding
import BlockComments.Proofs.Places
import BlockComments.Proofs.CalmBatches
import BlockComments.Proofs.TreePlaces
import BlockComments.Proofs.QuietRuns
import BlockComments.Proofs.CommentSpans
import BlockComments.Proofs.Composition
import BlockComments.Proofs.SourceStyles
import BlockComments.Proofs.SecondPass
import BlockComments.Proofs.PrefixStability
import BlockComments.Proofs.SpanBounds
import BlockComments.Proofs.LineByLine
import BlockComments.Proofs.ArgumentParts
import BlockComments.Proofs.Normalizing
import BlockComments.Proofs.PathOrder
import BlockComments.Proofs.OneLineMessages
