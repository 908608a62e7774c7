import Guestkeeper.Main
import Guestkeeper.Host.Simulation
import Guestkeeper.Realization.Shelf
import Guestkeeper.Proofs.CommandLine.UniqueNames
import Guestkeeper.Proofs.Host.Shell
import Guestkeeper.Proofs.Launch.Console
import Guestkeeper.Proofs.Launch.Script
import Guestkeeper.Proofs.Machine.Additions
import Guestkeeper.Proofs.Realization.Convergence
import Guestkeeper.Proofs.Realization.DryRun
import Guestkeeper.Proofs.Store.Atomicity
import Guestkeeper.Proofs.Machine.Topology
import Guestkeeper.Proofs.Machine.Allocation
import Guestkeeper.Proofs.Record.Reordering
import Guestkeeper.Proofs.Realization.Creation
import Guestkeeper.Proofs.Realization.Preview
import Guestkeeper.Proofs.Device.Network
import Guestkeeper.Proofs.Device.Slots
import Guestkeeper.Proofs.Device.MacAddress
import Guestkeeper.Proofs.Device.Storage
