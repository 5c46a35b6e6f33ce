import DetectorSim.Pipeline.Instances
import DetectorSim.Main
import DetectorSim.Pipeline.Registry
import DetectorSim.Pipeline.Event
import DetectorSim.Pipeline.Identifier
import DetectorSim.Random.Engine
import DetectorSim.Message.Buffer
import DetectorSim.Geometry.Setup
import DetectorSim.Config.Settings
import DetectorSim.Config.Value
import DetectorSim.Decimal.Literal
import DetectorSim.Decimal.Notation
import DetectorSim.Dictionary
import DetectorSim.Files.Tree
import DetectorSim.Text.Quoted
import DetectorSim.Proofs.Run.Moves
import DetectorSim.Proofs.Run.Stops
import DetectorSim.Proofs.Run.Claims
import DetectorSim.Proofs.Run.Blindness
import DetectorSim.Proofs.Message.Places
import DetectorSim.Proofs.Message.Delivery
import DetectorSim.Proofs.Message.Fetching
import DetectorSim.Proofs.Run.Counts
import DetectorSim.Proofs.Run.Independence
import DetectorSim.Proofs.Config.Layout
import DetectorSim.Proofs.Run.Halting
import DetectorSim.Proofs.Run.Accounting
import DetectorSim.Proofs.Config.Quotes
import DetectorSim.Proofs.Config.Brackets
import DetectorSim.Proofs.Text.Trimming
import DetectorSim.Proofs.Config.Rendering
import DetectorSim.Proofs.Config.Access
import DetectorSim.Proofs.Pipeline.Expansion
import DetectorSim.Proofs.Pipeline.Steps
import DetectorSim.Proofs.Run.Completion
import DetectorSim.Proofs.Pipeline.Instantiation
import DetectorSim.Proofs.Pipeline.Preparation
import DetectorSim.Proofs.Run.Passages
import DetectorSim.Proofs.Run.LifeCycle
import DetectorSim.Proofs.Run.Concurrency
import DetectorSim.Proofs.Run.Sequence
import DetectorSim.Proofs.Geometry.Attachments
import DetectorSim.Proofs.Run.Questions
import DetectorSim.Proofs.Pipeline.Naming
import DetectorSim.Proofs.Pipeline.Requests
import DetectorSim.Proofs.Run.Objects
import DetectorSim.Proofs.Run.Origins
import DetectorSim.Proofs.Run.Histories
import DetectorSim.Proofs.Run.Turns
import DetectorSim.Proofs.Run.Gates
import DetectorSim.Proofs.Run.Conversations
import DetectorSim.Proofs.Run.Memory
import DetectorSim.Proofs.Chain.Counting
import DetectorSim.Proofs.Chain.Runs
import DetectorSim.Proofs.Chain.Assembly
import DetectorSim.Proofs.Chain.Messages
import DetectorSim.Proofs.Chain.Totals
import DetectorSim.Proofs.Message.Latest
import DetectorSim.Proofs.Run.Verdicts
import DetectorSim.Proofs.Config.Concatenation
import DetectorSim.Proofs.Config.Comments
import DetectorSim.Proofs.Config.Numbers
import DetectorSim.Proofs.Config.Merging
import DetectorSim.Proofs.Geometry.Registration
import DetectorSim.Proofs.Geometry.Types
import DetectorSim.Proofs.Pipeline.Headers
import DetectorSim.Proofs.Pipeline.TypeInstances
import DetectorSim.Proofs.Pipeline.FanOut
import DetectorSim.Proofs.Random.Seeds
import DetectorSim.Proofs.Run.Exchanges
import DetectorSim.Proofs.Run.Warnings
import DetectorSim.Proofs.Chain.Depositors
import DetectorSim.Proofs.Geometry.Loading
import DetectorSim.Proofs.Config.Lists
import DetectorSim.Proofs.Config.Marks
import DetectorSim.Proofs.Pipeline.Constructions
import DetectorSim.Proofs.Pipeline.Resolution
import DetectorSim.Proofs.Pipeline.UnusedKeys
import DetectorSim.Proofs.Message.Consistency
import DetectorSim.Proofs.Run.Logs
import DetectorSim.Proofs.Chain.Attribution
import DetectorSim.Proofs.Random.Ranges
import DetectorSim.Proofs.Decimal.Comparison
import DetectorSim.Proofs.Geometry.Models
import DetectorSim.Proofs.Chain.Thresholds
import DetectorSim.Proofs.Chain.Pixels
