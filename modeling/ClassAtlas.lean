import ClassAtlas.Aidl.Cache
import ClassAtlas.Aidl.Implementation
import ClassAtlas.Aidl.Interface
import ClassAtlas.Command.Answer
import ClassAtlas.Command.Outcome
import ClassAtlas.Command.Request
import ClassAtlas.Command.Words
import ClassAtlas.Config
import ClassAtlas.Decimal.Shortest
import ClassAtlas.Descriptor
import ClassAtlas.Digest.Sha256
import ClassAtlas.Document.Record
import ClassAtlas.Document.Tree
import ClassAtlas.Exchange.Service
import ClassAtlas.Exchange.Symbols
import ClassAtlas.Failure
import ClassAtlas.Graph
import ClassAtlas.Instance
import ClassAtlas.Instance.Query
import ClassAtlas.Instance.Registry
import ClassAtlas.Json.Number
import ClassAtlas.Json.Reader
import ClassAtlas.Json.Value
import ClassAtlas.Main
import ClassAtlas.Provider
import ClassAtlas.Provider.Snapshot
import ClassAtlas.Reference
import ClassAtlas.Search
import ClassAtlas.Symbol
import ClassAtlas.Text.Cut
import ClassAtlas.Text.Printable
import ClassAtlas.Text.Utf8
import ClassAtlas.World
import ClassAtlas.World.FileTree
import ClassAtlas.World.Path
import ClassAtlas.Yaml.Node
import ClassAtlas.Yaml.Reader
import ClassAtlas.Yaml.Scalar
import ClassAtlas.Yaml.ScalarText
import ClassAtlas.Yaml.Text
import ClassAtlas.Yaml.Token
import ClassAtlas.Proofs.Aidl.Resolution
import ClassAtlas.Proofs.Aidl.Shape
import ClassAtlas.Proofs.Aidl.Recognition
import ClassAtlas.Proofs.Aidl.Cache
import ClassAtlas.Proofs.Aidl.SharedCache
import ClassAtlas.Proofs.Aidl.LookupWork
import ClassAtlas.Proofs.Instance.Run
import ClassAtlas.Proofs.Instance.CacheSoundness
import ClassAtlas.Proofs.Instance.CacheTransparency
import ClassAtlas.Proofs.Descriptor.Reading
import ClassAtlas.Proofs.Descriptor.Grammar
import ClassAtlas.Proofs.Descriptor.Collision
import ClassAtlas.Proofs.Reference.Conversion
import ClassAtlas.Proofs.Reference.Dispatch
import ClassAtlas.Proofs.Reference.Grammar
import ClassAtlas.Proofs.Reference.Owner
import ClassAtlas.Proofs.Reference.Overload
import ClassAtlas.Proofs.Reference.Rendering
import ClassAtlas.Proofs.Reference.Void
import ClassAtlas.Proofs.Graph.Nesting
import ClassAtlas.Proofs.Graph.Members
import ClassAtlas.Proofs.Graph.Naming
import ClassAtlas.Proofs.Instance.ClassLookup
import ClassAtlas.Proofs.Instance.DialectIndependence
import ClassAtlas.Proofs.Instance.MemberLookup
import ClassAtlas.Proofs.Command.MemberOwner
import ClassAtlas.Proofs.Reference.Kind
import ClassAtlas.Proofs.Instance.Registry
import ClassAtlas.Proofs.Search.Isolation
import ClassAtlas.Proofs.Search.Prefilter
import ClassAtlas.Proofs.Command.AidlClasses
import ClassAtlas.Proofs.Instance.Implementation
import ClassAtlas.Proofs.Graph.Normalization
import ClassAtlas.Proofs.Snapshot.Fingerprint
import ClassAtlas.Proofs.Snapshot.Merging
import ClassAtlas.Proofs.Instance.MemberRefusal
import ClassAtlas.Proofs.Instance.Lifecycle
import ClassAtlas.Proofs.Instance.FolderOrder
import ClassAtlas.Proofs.Text.Utf8
import ClassAtlas.Proofs.Text.Blank
import ClassAtlas.Proofs.Text.ByteOrder
import ClassAtlas.Proofs.Text.Ascii
import ClassAtlas.Proofs.Text.Slice
import ClassAtlas.Proofs.Descriptor.Slicing
import ClassAtlas.Proofs.Reference.Slicing
import ClassAtlas.Proofs.Config.Environment
import ClassAtlas.Proofs.Json.Closing
import ClassAtlas.Proofs.Json.Tokens
import ClassAtlas.Proofs.Json.Trees
import ClassAtlas.Proofs.Document.ReadingBack
import ClassAtlas.Proofs.Exchange.ReadingBack
import ClassAtlas.Proofs.Exchange.RoundTrip
