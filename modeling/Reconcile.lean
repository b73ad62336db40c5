import Reconcile.Fields
import Reconcile.Number.Basic
import Reconcile.Number.Rounding
import Reconcile.Doc.Basic
import Reconcile.Doc.Shape
import Reconcile.Doc.Same
import Reconcile.Json.Writer
import Reconcile.Json.Reader
import Reconcile.Yaml.Reader
import Reconcile.Yaml.Writer
import Reconcile.Input
import Reconcile.KeyedList
import Reconcile.Merge
import Reconcile.Marker
import Reconcile.InPlace
import Reconcile.Resource
import Reconcile.ChangeCount
import Reconcile.Target
import Reconcile.Cluster
import Reconcile.Cli.Run
import Reconcile.Main
import Reconcile.Proofs.Merge.Fields
import Reconcile.Proofs.Merge.Elements
import Reconcile.Proofs.Merge.ThreeWay
import Reconcile.Proofs.Doc.Reorders
import Reconcile.Proofs.Doc.Identities
import Reconcile.Proofs.Merge.Tracking
import Reconcile.Proofs.Number.Rounding
import Reconcile.Proofs.Number.Stepwise
import Reconcile.Proofs.Json.Numeral
import Reconcile.Proofs.Json.Quoted
import Reconcile.Proofs.Json.Reread
import Reconcile.Proofs.Json.RoundTrip
import Reconcile.Proofs.Doc.Without
import Reconcile.Proofs.Marker.ForeignField
import Reconcile.Proofs.Doc.Covers
import Reconcile.Proofs.Merge.Realised
import Reconcile.Proofs.Merge.Settled
import Reconcile.Proofs.Marker.ReadBack
import Reconcile.Proofs.Marker.Repeated
import Reconcile.Proofs.Merge.Agree
import Reconcile.Proofs.Doc.Permuted
import Reconcile.Proofs.Doc.Matched
import Reconcile.Proofs.Merge.Alike
import Reconcile.Proofs.Merge.Managers
import Reconcile.Proofs.Merge.KeyedResult
import Reconcile.Proofs.Merge.Conflicts
import Reconcile.Proofs.Merge.KeyOrder
import Reconcile.Proofs.Merge.Overwritten
import Reconcile.Proofs.Marker.Independent
import Reconcile.Proofs.Marker.Mirrored
import Reconcile.Proofs.Cli.BadSnapshot
import Reconcile.Proofs.Doc.Entry
import Reconcile.Proofs.Marker.InPlace
import Reconcile.Proofs.Marker.Restamped
import Reconcile.Proofs.Doc.Equal
import Reconcile.Proofs.Change.Between
import Reconcile.Proofs.Change.Swapped
import Reconcile.Proofs.Change.Noop
import Reconcile.Proofs.Merge.Formed
import Reconcile.Proofs.Yaml.Formed
import Reconcile.Proofs.Cli.Summary
import Reconcile.Proofs.Input.NodeCount
import Reconcile.Proofs.Input.Limits
import Reconcile.Proofs.Merge.SharedKey
import Reconcile.Proofs.Number.Value
import Reconcile.Proofs.Merge.NumberNames
