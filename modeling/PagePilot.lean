import PagePilot.Main
import PagePilot.Proofs.Attachment.Events
import PagePilot.Proofs.Barrier.Accounting
import PagePilot.Proofs.Barrier.Independence
import PagePilot.Proofs.Base64.Standard
import PagePilot.Proofs.CommandLine.Placement
import PagePilot.Proofs.Connection.Governed
import PagePilot.Proofs.Connection.Stopping
import PagePilot.Proofs.Console
import PagePilot.Proofs.Context.Lineage
import PagePilot.Proofs.Delivery.Calls
import PagePilot.Proofs.Disconnection
import PagePilot.Proofs.Endpoint.RoundTrip
import PagePilot.Proofs.History.Rendering
import PagePilot.Proofs.Listeners.Scripted
import PagePilot.Proofs.Navigation.History
import PagePilot.Proofs.Navigation.Loader
import PagePilot.Proofs.Navigation.Unknown
import PagePilot.Proofs.Noise.Insertion
import PagePilot.Proofs.Operation.Listing
import PagePilot.Proofs.Operation.Screenshot
import PagePilot.Proofs.Output
import PagePilot.Proofs.Sequence
import PagePilot.Proofs.Wire.ForwardCompatible
import PagePilot.Proofs.Wire.RoundTrip
