import TrafficMap.Main
import TrafficMap.Refresh.Bridge
import TrafficMap.Refresh.Loop
import TrafficMap.View.Settings
import TrafficMap.View.Terminal
import TrafficMap.Proofs.Engine.Picture
import TrafficMap.Proofs.Engine.History
import TrafficMap.Proofs.Engine.LastGood
import TrafficMap.Proofs.Engine.Teardown
import TrafficMap.Proofs.Topology.Distinct
import TrafficMap.Proofs.Topology.Layers
import TrafficMap.Terminal.Dashboard
import TrafficMap.Proofs.Refresh.Step
import TrafficMap.Proofs.Dashboard.Arrivals
import TrafficMap.Proofs.Appliance.Login
import TrafficMap.Proofs.Appliance.Pages
import TrafficMap.Proofs.CommandLine.Overrides
import TrafficMap.Proofs.Refresh.Cycles
import TrafficMap.Proofs.Refresh.Ticks
import TrafficMap.Proofs.Refresh.Cancellation
import TrafficMap.Proofs.Identity.Lifetime
import TrafficMap.Proofs.Refresh.Snapshot
import TrafficMap.Proofs.Appliance.Records
import TrafficMap.Proofs.Engine.Resize
import TrafficMap.Proofs.Topology.Listing
import TrafficMap.Proofs.Engine.Circles
import TrafficMap.Proofs.Particle.Frames
import TrafficMap.Proofs.Topology.Usage
import TrafficMap.Proofs.Screen.Selection
import TrafficMap.Proofs.Appliance.Items
import TrafficMap.Proofs.Number.Rounding
import TrafficMap.Proofs.Traffic.Units
import TrafficMap.Proofs.Geometry.ArcLength
import TrafficMap.Proofs.Topology.Columns
import TrafficMap.Proofs.Identity.BlankNames
import TrafficMap.Proofs.Identity.NormalNames
import TrafficMap.Proofs.Identity.JoinedEvidence
import TrafficMap.Proofs.Identity.Neighbours
import TrafficMap.Proofs.Appliance.Retries
import TrafficMap.Proofs.Scene.IconRows
import TrafficMap.Proofs.Scene.IconStates
import TrafficMap.Proofs.Scene.Blending
import TrafficMap.Proofs.Canvas.IconOrder
import TrafficMap.Proofs.Canvas.Labels
import TrafficMap.Proofs.Screen.Cycle
import TrafficMap.Proofs.Canvas.Cells
import TrafficMap.Proofs.Canvas.Frames
import TrafficMap.Proofs.Canvas.Corners
import TrafficMap.Proofs.CommandLine.Printing
import TrafficMap.Proofs.Settings.Verbatim
