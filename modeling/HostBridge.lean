import HostBridge.Bridge.Basic
import HostBridge.Bridge.Calls
import HostBridge.Bridge.Exports
import HostBridge.Bridge.Gate
import HostBridge.Bridge.HostText
import HostBridge.Bridge.Startup
import HostBridge.Document.Binary64
import HostBridge.Document.Datetime
import HostBridge.Document.Lookup
import HostBridge.Document.Moment
import HostBridge.Document.Numeral
import HostBridge.Document.Overlay
import HostBridge.Document.Quoted
import HostBridge.Document.Reader
import HostBridge.Document.Scan
import HostBridge.Document.Tree
import HostBridge.Document.Value
import HostBridge.Error
import HostBridge.FileTree
import HostBridge.Flavour
import HostBridge.Host.Call
import HostBridge.Host.Hook
import HostBridge.Host.Scripted
import HostBridge.HostArray
import HostBridge.Layout.Access
import HostBridge.Layout.Cell
import HostBridge.Layout.Descriptor
import HostBridge.Layout.OffsetTable
import HostBridge.Layout.Record
import HostBridge.Layout.Storage
import HostBridge.Log.Console
import HostBridge.Log.Event
import HostBridge.Log.Level
import HostBridge.Log.Recorder
import HostBridge.Memory.Basic
import HostBridge.Memory.Bytes
import HostBridge.Memory.Scalar
import HostBridge.Memory.Stored
import HostBridge.Name
import HostBridge.Path
import HostBridge.Reflection.Attribute
import HostBridge.Reflection.Enumeration
import HostBridge.Reflection.PackedBool
import HostBridge.Reflection.Property
import HostBridge.Reflection.Struct
import HostBridge.Registry.Basic
import HostBridge.Registry.Walk
import HostBridge.Registry.Weak
import HostBridge.Registry.WeakReference
import HostBridge.Settings.Basic
import HostBridge.Settings.Configuration
import HostBridge.Settings.Paths
import HostBridge.Settings.Shape
import HostBridge.Text.Escaped
import HostBridge.Text.Hex
import HostBridge.Text.Pieces
import HostBridge.Text.Utf16
import HostBridge.Text.Visible
import HostBridge.Version
import HostBridge.Proofs.Memory.Region
import HostBridge.Proofs.Registry.ChunkMap
import HostBridge.Proofs.Registry.Contents
import HostBridge.Proofs.Registry.Lifetime
import HostBridge.Proofs.Registry.Slots
import HostBridge.Proofs.Document.Ordered
import HostBridge.Proofs.Document.Reading
import HostBridge.Proofs.Document.Overlay
import HostBridge.Proofs.Settings.Merging
import HostBridge.Proofs.Bridge.Console
import HostBridge.Proofs.Bridge.Attempts
import HostBridge.Proofs.Bridge.GateRuns
import HostBridge.Proofs.Document.Paths
import HostBridge.Proofs.Bridge.Allocations
import HostBridge.Proofs.Registry.Serials
import HostBridge.Proofs.Registry.Walks
import HostBridge.Proofs.Settings.Following
import HostBridge.Proofs.Text.Utf16
import HostBridge.Proofs.Log.Lines
import HostBridge.Proofs.Log.Mirroring
import HostBridge.Proofs.Bridge.Startups
import HostBridge.Proofs.Bridge.Surfaces
import HostBridge.Proofs.Bridge.Output
import HostBridge.Proofs.Bridge.Unbound
import HostBridge.Proofs.Registry.Setting
import HostBridge.Proofs.Memory.Bits
import HostBridge.Proofs.Reflection.PackedBools
import HostBridge.Proofs.Reflection.Elements
import HostBridge.Proofs.Registry.Reports
import HostBridge.Proofs.Bridge.Fatality
import HostBridge.Proofs.Memory.Chain
import HostBridge.Proofs.Reflection.Ancestry
import HostBridge.Proofs.Settings.FaultyFiles
import HostBridge.Proofs.Reflection.PropertyLinks
import HostBridge.Proofs.Layout.Cells
import HostBridge.Proofs.Layout.Placement
import HostBridge.Proofs.Layout.Fields
import HostBridge.Proofs.Memory.Arrays
import HostBridge.Proofs.Text.Surrogates
import HostBridge.Proofs.Text.HostStrings
import HostBridge.Proofs.Bridge.PathNames
import HostBridge.Proofs.Reflection.SingleBits
import HostBridge.Proofs.Reflection.Attributes
import HostBridge.Proofs.Document.DottedPaths
import HostBridge.Proofs.Settings.Lookups
import HostBridge.Proofs.Reflection.Enumerations
