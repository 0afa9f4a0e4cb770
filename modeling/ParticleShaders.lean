import ParticleShaders.Attribute
import ParticleShaders.Block.Bound
import ParticleShaders.Block.Descriptor
import ParticleShaders.Block.Format
import ParticleShaders.Block.Library
import ParticleShaders.Block.Standard
import ParticleShaders.Blueprint
import ParticleShaders.Buffer
import ParticleShaders.Capability
import ParticleShaders.CommandLine.Arguments
import ParticleShaders.CommandLine.Job
import ParticleShaders.Compile
import ParticleShaders.Diagnostic
import ParticleShaders.Dict
import ParticleShaders.Files.Basic
import ParticleShaders.Files.Tree
import ParticleShaders.Generator.Basic
import ParticleShaders.Generator.Code
import ParticleShaders.Generator.Need
import ParticleShaders.Generator.Settings
import ParticleShaders.Host.Layout
import ParticleShaders.Host.Push
import ParticleShaders.Host.Report
import ParticleShaders.Json.Basic
import ParticleShaders.Json.Numeral
import ParticleShaders.Json.Printer
import ParticleShaders.Json.Reader
import ParticleShaders.Json.Record
import ParticleShaders.Json.Token
import ParticleShaders.Main
import ParticleShaders.Number.Binary
import ParticleShaders.Number.Shortest
import ParticleShaders.Number.Style
import ParticleShaders.Param.Basic
import ParticleShaders.Param.Naming
import ParticleShaders.Param.Set
import ParticleShaders.Param.Table
import ParticleShaders.Param.Value
import ParticleShaders.ParticleSystem.Basic
import ParticleShaders.ParticleSystem.Format
import ParticleShaders.Plan
import ParticleShaders.Proofs.Compilation
import ParticleShaders.Proofs.Packing
import ParticleShaders.Proofs.Shader.Accesses
import ParticleShaders.Proofs.Shader.Bindings
import ParticleShaders.Proofs.Shader.Calls
import ParticleShaders.Proofs.Shader.Program
import ParticleShaders.Proofs.Usage.ClosedForm
import ParticleShaders.Proofs.Usage.Grants
import ParticleShaders.Proofs.Usage.Steps
import ParticleShaders.Rejection
import ParticleShaders.Shader.Drawing
import ParticleShaders.Shader.Simulation
import ParticleShaders.Shader.Storage
import ParticleShaders.Signal.Bake
import ParticleShaders.Signal.Sample
import ParticleShaders.Source.Code
import ParticleShaders.Source.Declaration
import ParticleShaders.Source.Writer
import ParticleShaders.Stage
import ParticleShaders.Text.Identifier
import ParticleShaders.Text.Quoted
import ParticleShaders.Text.Unprintable
import ParticleShaders.Uniforms
import ParticleShaders.Usage
import ParticleShaders.UsageTable.Basic
import ParticleShaders.UsageTable.Rules
import ParticleShaders.ValueType
import ParticleShaders.Proofs.Param.Numbering
import ParticleShaders.Proofs.Param.Resolution
import ParticleShaders.Proofs.Signal.Baking
import ParticleShaders.Proofs.Signal.Reuse
import ParticleShaders.Proofs.Uniforms.Partition
import ParticleShaders.Proofs.Host.Pushes
import ParticleShaders.Proofs.Usage.Acceptance
import ParticleShaders.Proofs.Plan.Stages
import ParticleShaders.Proofs.Plan.Separation
import ParticleShaders.Proofs.Renaming.Basic
import ParticleShaders.Proofs.Renaming.Planning
import ParticleShaders.Proofs.Param.Types
import ParticleShaders.Proofs.Renaming.Naming
import ParticleShaders.Proofs.Renaming.Pushing
import ParticleShaders.Proofs.Renaming.Code
import ParticleShaders.Proofs.Renaming.Shaders
import ParticleShaders.Proofs.Renaming.Compiling
import ParticleShaders.Proofs.Plan.Gathering
import ParticleShaders.Proofs.Endings
import ParticleShaders.Proofs.Usage.Capacity
import ParticleShaders.Proofs.ParticleSystem.RoundTrip
import ParticleShaders.Proofs.Dict
import ParticleShaders.Proofs.Json.Reading
import ParticleShaders.Proofs.Plan.Faults
import ParticleShaders.Proofs.Usage.Grouping
import ParticleShaders.Proofs.Signal.History
import ParticleShaders.Proofs.Files.Record
import ParticleShaders.Proofs.CommandLine.Delivery
import ParticleShaders.Proofs.Number.Literals
import ParticleShaders.Proofs.Json.Printing
import ParticleShaders.Proofs.Host.Report
import ParticleShaders.Proofs.CommandLine.Reports
import ParticleShaders.Proofs.Plan.FirstFault
import ParticleShaders.Proofs.Plan.WellFormed
import ParticleShaders.Proofs.Host.AllOrNothing
import ParticleShaders.Proofs.Usage.Order
import ParticleShaders.Proofs.Telling
import ParticleShaders.Proofs.Shader.Names
import ParticleShaders.Proofs.Param.Acceptance
import ParticleShaders.Proofs.Param.Loading
import ParticleShaders.Proofs.Plan.Attributes
import ParticleShaders.Proofs.Shader.Strides
import ParticleShaders.Proofs.Shader.CallOrder
import ParticleShaders.Proofs.Source.Braces
import ParticleShaders.Proofs.Shader.Braces
import ParticleShaders.Proofs.Shader.Emission
import ParticleShaders.Proofs.Shader.Balance
import ParticleShaders.Proofs.CommandLine.Grammar
import ParticleShaders.Proofs.Param.Indexing
import ParticleShaders.Proofs.Usage.Merging
import ParticleShaders.Proofs.Usage.Origins
import ParticleShaders.Proofs.Signal.Indexing
import ParticleShaders.Proofs.Signal.KeyOrder
import ParticleShaders.Proofs.Param.Positions
import ParticleShaders.Proofs.Source.Indentation
import ParticleShaders.Proofs.Text.Identifier
import ParticleShaders.Proofs.Shader.Identifiers
