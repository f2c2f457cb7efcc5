import Wireframe.Session
import Wireframe.Proofs.Drawn
import Wireframe.Proofs.Grid.Run
import Wireframe.Proofs.Outline.Edges
import Wireframe.Proofs.Outline.Exact
import Wireframe.Proofs.Outline.Faults
import Wireframe.Proofs.Detection
import Wireframe.Proofs.Content.Rectangles
import Wireframe.Proofs.Detection.Alarms
import Wireframe.Proofs.Nesting.Laminar
import Wireframe.Proofs.Problems
import Wireframe.Proofs.Scenes
import Wireframe.Proofs.Detection.Silence
import Wireframe.Proofs.Blocks
import Wireframe.Proofs.Compose
import Wireframe.Proofs.Content.Rows
import Wireframe.Proofs.Places
import Wireframe.Proofs.Grid.Lookup
import Wireframe.Proofs.Problems.Applies
import Wireframe.Proofs.Repair.Edits
import Wireframe.Proofs.Repair.Steps
import Wireframe.Proofs.Repair.Ink
import Wireframe.Proofs.Repair.Resolves
import Wireframe.Proofs.Nesting.Ancestry
import Wireframe.Proofs.Content.Levels
import Wireframe.Proofs.Places.Elements
import Wireframe.Proofs.Content.Shape
import Wireframe.Proofs.Places.Blocks
import Wireframe.Proofs.Places.Problems
import Wireframe.Proofs.Repair.Kept
import Wireframe.Proofs.Repair.Again
import Wireframe.Proofs.Repair.Circles
import Wireframe.Proofs.Radius
import Wireframe.Proofs.Frame.Draw
import Wireframe.Proofs.Frame.Find
import Wireframe.Proofs.Frame.Read
import Wireframe.Proofs.Interaction.Paths
import Wireframe.Proofs.Interaction.Merge
import Wireframe.Proofs.Interaction.Accumulate
import Wireframe.Proofs.Content.Runs
import Wireframe.Proofs.Content.Segments
import Wireframe.Proofs.Content.Ticks
import Wireframe.Proofs.Content.Controls
import Wireframe.Proofs.Checked.Grid
import Wireframe.Proofs.Checked.Outline
import Wireframe.Proofs.Outline.Nearest
import Wireframe.Proofs.Checked.Order
import Wireframe.Proofs.Checked.Distance
import Wireframe.Proofs.Checked.Nesting
import Wireframe.Proofs.Checked.Content
import Wireframe.Proofs.Checked.Report
import Wireframe.Proofs.Excerpt
import Wireframe.Proofs.Checked.Parse
import Wireframe.Proofs.Blocks.Lines
import Wireframe.Proofs.Content.Account
import Wireframe.Proofs.Outline.Order
import Wireframe.Proofs.Repair.Rounds
import Wireframe.Proofs.Repair.Tabs
import Wireframe.Proofs.Repair.Lines
import Wireframe.Proofs.Nesting.Levels
import Wireframe.Proofs.Nesting.Depth
import Wireframe.Proofs.Nesting.Order
import Wireframe.Proofs.Content.Unordered
import Wireframe.Proofs.Trace
import Wireframe.Proofs.Alignment
import Wireframe.Proofs.Slug
import Wireframe.Proofs.Identifiers
import Wireframe.Proofs.Difference
import Wireframe.Proofs.Checked.Difference
import Wireframe.Proofs.Difference.Body
import Wireframe.Proofs.Difference.Carets
