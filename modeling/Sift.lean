import Sift.Text.Split
import Sift.Text.Case
import Sift.Text.Search
import Sift.Text.Quoted
import Sift.Number.Fixed
import Sift.Number.Binary.Reader
import Sift.Number.Binary.Shortest
import Sift.Calendar.Pattern
import Sift.Calendar.Written
import Sift.Scalar.Operand
import Sift.Scalar.Written
import Sift.Config
import Sift.Criterion
import Sift.Journal
import Sift.Predicate.Written
import Sift.Fragment
import Sift.Path.Node
import Sift.Registry.Builder
import Sift.Query
import Sift.Json.Written
import Sift.Json.Decode
import Sift.Json.Request
import Sift.Json.Config
import Sift.Inspect
import Sift.Proofs.Meaning
import Sift.Proofs.Filter
import Sift.Proofs.SortOrder
import Sift.Proofs.Filter.Refusal
import Sift.Proofs.Meaning.Laws
import Sift.Proofs.Registry.LifeCycle
import Sift.Proofs.Filter.Omission
import Sift.Proofs.SortOrder.Preorder
import Sift.Proofs.SortOrder.Block
import Sift.Proofs.Path.Reading
import Sift.Proofs.Registry.Index
import Sift.Proofs.Query
import Sift.Proofs.Json.RoundTrip
import Sift.Proofs.Journal
import Sift.Proofs.SortOrder.Passes
import Sift.Proofs.Meaning.Negation
import Sift.Proofs.Meaning.IgnoringCase
import Sift.Proofs.SortOrder.Mirror
import Sift.Proofs.Query.Order
import Sift.Proofs.Path.Resolution
import Sift.Proofs.Path.Canonical
import Sift.Proofs.Predicate.Algebra
import Sift.Proofs.Predicate.NormalForm
import Sift.Proofs.Filter.NormalForm
import Sift.Proofs.Calendar.Pattern
import Sift.Proofs.Calendar.Reading
import Sift.Proofs.Meaning.DateOperands
import Sift.Proofs.Number.Digits
import Sift.Proofs.Number.Fixed
import Sift.Proofs.Calendar.Written
import Sift.Proofs.Calendar.RoundTrip
import Sift.Proofs.Scalar.Written
import Sift.Proofs.Error
import Sift.Proofs.Fragment.Tokens
import Sift.Proofs.Fragment.WellTyped
