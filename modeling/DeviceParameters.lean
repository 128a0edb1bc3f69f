import DeviceParameters.Main
import DeviceParameters.Scratch
import DeviceParameters.Text.Utf8.Inverse
import DeviceParameters.Proofs.Slot.Faults
import DeviceParameters.Proofs.Slot.Refinement
import DeviceParameters.Proofs.File.Refinement
import DeviceParameters.Proofs.Store.Outcomes
import DeviceParameters.Proofs.File.Keys
import DeviceParameters.Proofs.Store.Agreement
import DeviceParameters.Proofs.Store.Failures
import DeviceParameters.Proofs.Storage.Simulation
import DeviceParameters.Proofs.Store.Reopening
import DeviceParameters.Proofs.CommandLine.RoundTrip
import DeviceParameters.Proofs.File.Confinement
import DeviceParameters.Proofs.Store.Bounds
import DeviceParameters.Proofs.Store.Listing
import DeviceParameters.Proofs.Store.Transfer
import DeviceParameters.Proofs.Slot.Separation
import DeviceParameters.Proofs.File.Atomicity
import DeviceParameters.Proofs.Storage.Growth
import DeviceParameters.Proofs.Storage.Resizing
import DeviceParameters.Proofs.File.Erasure
import DeviceParameters.Proofs.Store.Accounting
import DeviceParameters.Proofs.Slot.Truncation
import DeviceParameters.Proofs.File.Naming
import DeviceParameters.Proofs.Store.Unmounted
import DeviceParameters.Proofs.Store.UnknownKeys
