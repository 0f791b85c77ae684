import JsonQuery.Path.Same
import JsonQuery.Regex.Builtin.Matching
import JsonQuery.Select.Evaluate
import JsonQuery.Proofs.Address
import JsonQuery.Proofs.ArrayIndexers
import JsonQuery.Proofs.Comparison.Coherence
import JsonQuery.Proofs.Comparison.Integers
import JsonQuery.Proofs.Comparison.Numerals
import JsonQuery.Proofs.Comparison.Rearrangement
import JsonQuery.Proofs.Comparison.Representation
import JsonQuery.Proofs.Composition
import JsonQuery.Proofs.DottedNames
import JsonQuery.Proofs.Embedding
import JsonQuery.Proofs.Missing
import JsonQuery.Proofs.Nesting
import JsonQuery.Proofs.OpenIndexers
import JsonQuery.Proofs.Order
import JsonQuery.Proofs.PatternLiterals
import JsonQuery.Proofs.Progress
import JsonQuery.Proofs.QuotedStrings
import JsonQuery.Proofs.Requests
import JsonQuery.Proofs.ScanByCondition
import JsonQuery.Proofs.ScanByName
import JsonQuery.Proofs.ScannedPositions
import JsonQuery.Proofs.Scope
import JsonQuery.Proofs.Segments
import JsonQuery.Proofs.Slices
import JsonQuery.Proofs.Strictness
import JsonQuery.Proofs.ZeroStep
