import StatsLogApiGen.Container.Admission
import StatsLogApiGen.Container.Lists
import StatsLogApiGen.Container.Occurrences
import StatsLogApiGen.Container.OrderedMap
import StatsLogApiGen.Program.CommandLine
import StatsLogApiGen.Program.Delivery
import StatsLogApiGen.Program.Guarded
import StatsLogApiGen.Program.Linking
import StatsLogApiGen.Program.Scope
import StatsLogApiGen.Program.Transcript
import StatsLogApiGen.Format.Buffer
import StatsLogApiGen.Format.Codec
import StatsLogApiGen.Format.Float
import StatsLogApiGen.Format.Item
import StatsLogApiGen.Format.Text
import StatsLogApiGen.Proto.Descriptor
import StatsLogApiGen.Collation.Atom
import StatsLogApiGen.Collation.Cardinality
import StatsLogApiGen.Collation.Collate
import StatsLogApiGen.Collation.Core
import StatsLogApiGen.Collation.Faithful
import StatsLogApiGen.Collation.Index
import StatsLogApiGen.Collation.Numbering
import StatsLogApiGen.Collation.Order
import StatsLogApiGen.Collation.Requests
import StatsLogApiGen.Collation.Rules
import StatsLogApiGen.Collation.Signature
import StatsLogApiGen.Collation.Step
import StatsLogApiGen.Writer.Acceptance
import StatsLogApiGen.Writer.Agreement
import StatsLogApiGen.Writer.Annotations
import StatsLogApiGen.Writer.Body
import StatsLogApiGen.Writer.Comparisons
import StatsLogApiGen.Writer.Compiles
import StatsLogApiGen.Writer.ConstantNames
import StatsLogApiGen.Writer.Constants
import StatsLogApiGen.Writer.EnumValues
import StatsLogApiGen.Writer.Event
import StatsLogApiGen.Writer.Forwarding
import StatsLogApiGen.Writer.IntegerStates
import StatsLogApiGen.Writer.Mentions
import StatsLogApiGen.Writer.MethodComparisons
import StatsLogApiGen.Writer.Namespaces
import StatsLogApiGen.Writer.NonChained
import StatsLogApiGen.Writer.Overloads
import StatsLogApiGen.Writer.Parameters
import StatsLogApiGen.Writer.StateLoggers
import StatsLogApiGen.Writer.StateReset
import StatsLogApiGen.Writer.Utils
import StatsLogApiGen.Writer.WholeChain
import StatsLogApiGen.Writer.Wrappers
import StatsLogApiGen.Native.Linking
import StatsLogApiGen.Native.Passing
import StatsLogApiGen.Native.Run
import StatsLogApiGen.Native.Writer
import StatsLogApiGen.Java.Linking
import StatsLogApiGen.Java.Passing
import StatsLogApiGen.Java.QLoggerClass
import StatsLogApiGen.Java.RequiresApi
import StatsLogApiGen.Java.Run
import StatsLogApiGen.Java.Writer
import StatsLogApiGen.Rust.Agreement
import StatsLogApiGen.Rust.Hygiene
import StatsLogApiGen.Rust.Linking
import StatsLogApiGen.Rust.Passing
import StatsLogApiGen.Rust.Run
import StatsLogApiGen.Rust.Writer
import StatsLogApiGen.QSchema.Encoding
import StatsLogApiGen.QSchema.Guard
import StatsLogApiGen.QSchema.Passes
import StatsLogApiGen.QSchema.Payload
import StatsLogApiGen.QSchema.Run
import StatsLogApiGen.QSchema.Sizes
import StatsLogApiGen.QSchema.Text
import StatsLogApiGen.QSchema.Writer
import StatsLogApiGen.Vendor.Agreement
import StatsLogApiGen.Vendor.AnnotationNames
import StatsLogApiGen.Vendor.Atom
import StatsLogApiGen.Vendor.Compiles
import StatsLogApiGen.Vendor.JavaRun
import StatsLogApiGen.Vendor.JavaWriter
import StatsLogApiGen.Vendor.NativeRun
import StatsLogApiGen.Vendor.NativeWriter
import StatsLogApiGen.Vendor.Reports
import StatsLogApiGen.Vendor.Slots
import StatsLogApiGen.Main.Advertised
import StatsLogApiGen.Main.Bootstrap
import StatsLogApiGen.Main.CommandLine
import StatsLogApiGen.Main.ExitStatus
import StatsLogApiGen.Main.Independence
import StatsLogApiGen.Main.Modules
import StatsLogApiGen.Main.Run
import StatsLogApiGen.Main.Success
import StatsLogApiGen.Record.AnyCode
import StatsLogApiGen.Record.Atom
import StatsLogApiGen.Record.Bootstrap
import StatsLogApiGen.Record.Event
import StatsLogApiGen.Record.Files
import StatsLogApiGen.Record.Headers
import StatsLogApiGen.Record.Labels
import StatsLogApiGen.Record.Loggers
import StatsLogApiGen.Record.Names
import StatsLogApiGen.Record.Parcel
import StatsLogApiGen.Record.Payload
import StatsLogApiGen.Record.Programs
import StatsLogApiGen.Record.RustCallers
import StatsLogApiGen.Record.Wrappers
import StatsLogApiGen.Express.Catalog
import StatsLogApiGen.Express.Codegen
import StatsLogApiGen.Express.Ending
import StatsLogApiGen.Express.Exact
import StatsLogApiGen.Express.Folders
import StatsLogApiGen.Express.Naming
import StatsLogApiGen.Express.Reading
import StatsLogApiGen.Express.Serving
