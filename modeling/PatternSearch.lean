import PatternSearch.Cursor
import PatternSearch.Files.FileSystem
import PatternSearch.Main
import PatternSearch.Proofs.Finding
import PatternSearch.Proofs.Spans
import PatternSearch.Session
import PatternSearch.Proofs.Capturing
import PatternSearch.Proofs.Compiled
import PatternSearch.Proofs.Restoring
import PatternSearch.Proofs.Leftovers
import PatternSearch.Proofs.Derivations
import PatternSearch.Proofs.Flat
import PatternSearch.Proofs.Grammar
import PatternSearch.Proofs.Scanning
import PatternSearch.Proofs.Reading
import PatternSearch.Proofs.Accepting
import PatternSearch.Proofs.Remembering
import PatternSearch.Proofs.Reporting
import PatternSearch.Proofs.Widths
import PatternSearch.Proofs.Continuing
import PatternSearch.Proofs.Relabeling
import PatternSearch.Proofs.Corresponding
import PatternSearch.Proofs.Alternatives
import PatternSearch.Proofs.Guarding
import PatternSearch.Proofs.Descending
import PatternSearch.Proofs.GuardedAttempt
import PatternSearch.Proofs.Mirroring
import PatternSearch.Proofs.Unstopped
import PatternSearch.Proofs.Behind
import PatternSearch.Proofs.Dividing
import PatternSearch.Proofs.Filtering
import PatternSearch.Proofs.Verbatim
import PatternSearch.Proofs.Diagnostics
import PatternSearch.Proofs.Visiting
import PatternSearch.Proofs.Yielding
import PatternSearch.Proofs.Pointing
import PatternSearch.Proofs.Recalling
import PatternSearch.Proofs.Concatenating
import PatternSearch.Proofs.Truncating
import PatternSearch.Proofs.Resolving
import PatternSearch.Proofs.Walking
import PatternSearch.Proofs.Reordering
import PatternSearch.Proofs.Tokenizing
import PatternSearch.Proofs.Composing
import PatternSearch.Proofs.Looping
