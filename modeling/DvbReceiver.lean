import DvbReceiver.Bench.Device
import DvbReceiver.Bench.Pool
import DvbReceiver.Bench.Registry
import DvbReceiver.Bench.Stoppage
import DvbReceiver.Bench.Stream
import DvbReceiver.Bench.Worker
import DvbReceiver.Main
import DvbReceiver.Usb.Scan
import DvbReceiver.Proofs.Command
import DvbReceiver.Proofs.Demux.Resynchronization
import DvbReceiver.Proofs.Demux.Ring
import DvbReceiver.Proofs.Device.Configuration
import DvbReceiver.Proofs.Device.Independence
import DvbReceiver.Proofs.Device.Limits
import DvbReceiver.Proofs.Device.Rollback
import DvbReceiver.Proofs.Device.Sleeping
import DvbReceiver.Proofs.Device.Waking
import DvbReceiver.Proofs.Firmware
import DvbReceiver.Proofs.Lending
import DvbReceiver.Proofs.Remote
import DvbReceiver.Proofs.Simulation.Addresses
import DvbReceiver.Proofs.Simulation.Reception
import DvbReceiver.Proofs.Stream.Recall
import DvbReceiver.Proofs.Stream.Silence
import DvbReceiver.Proofs.Usb.Delivery
import DvbReceiver.Proofs.Usb.Scan
