import PackGate.Main
import PackGate.PktLine.Packet
import PackGate.Proofs.App.Atomic
import PackGate.Proofs.App.Startup
import PackGate.Proofs.App.Trade
import PackGate.Proofs.App.Warning
import PackGate.Proofs.Cache.Coherence
import PackGate.Proofs.Cache.Conservation
import PackGate.Proofs.Cache.Inclusion
import PackGate.Proofs.Cache.Window
import PackGate.Proofs.Context.Orderly
import PackGate.Proofs.Factory.Balance
import PackGate.Proofs.Factory.Closing
import PackGate.Proofs.Factory.Custody
import PackGate.Proofs.Factory.Failure
import PackGate.Proofs.Factory.Refinement
import PackGate.Proofs.Factory.Retry
import PackGate.Proofs.Factory.Tracking
import PackGate.Proofs.Factory.Vacancy
import PackGate.Proofs.Http.Confinement
import PackGate.Proofs.Http.Encoding
import PackGate.Proofs.Http.Opening
import PackGate.Proofs.PktLine.Reading
import PackGate.Simulation.GitStub
import PackGate.Simulation.Lookups
import PackGate.Simulation.Refreshes
