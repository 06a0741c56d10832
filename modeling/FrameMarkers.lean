import FrameMarkers.Document.ReadMethod
import FrameMarkers.Main
import FrameMarkers.Marker.Cache
import FrameMarkers.Proofs.Command.Run
import FrameMarkers.Proofs.Document.Texts
import FrameMarkers.Proofs.Generation.Assembly
import FrameMarkers.Proofs.Generation.Blank
import FrameMarkers.Proofs.Generation.Collision
import FrameMarkers.Proofs.Generation.Failure
import FrameMarkers.Proofs.Generation.Regeneration
import FrameMarkers.Proofs.Generation.Renaming
import FrameMarkers.Proofs.Generation.Renderable
import FrameMarkers.Proofs.Identifier.Allocation
import FrameMarkers.Proofs.Identifier.CamelCase
import FrameMarkers.Proofs.Identifier.Sanitized
import FrameMarkers.Proofs.Marker.Acceptance
import FrameMarkers.Proofs.Marker.Composition
import FrameMarkers.Proofs.Marker.Cycles
import FrameMarkers.Proofs.Marker.Diamonds
import FrameMarkers.Proofs.Marker.Views
import FrameMarkers.Proofs.Notebook.OptIn
import FrameMarkers.Proofs.Notebook.Pending
import FrameMarkers.Proofs.Schema.Expansion
import FrameMarkers.Proofs.Schema.Nullable
import FrameMarkers.Proofs.Session.Closed
import FrameMarkers.Proofs.Session.Order
import FrameMarkers.Proofs.Synthesis.Cast
import FrameMarkers.Proofs.Synthesis.Columns
import FrameMarkers.Proofs.Text.Literal
