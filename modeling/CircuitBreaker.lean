import CircuitBreaker.CallError
import CircuitBreaker.Debug
import CircuitBreaker.FileTree
import CircuitBreaker.Main
import CircuitBreaker.Session
import CircuitBreaker.Proofs.Closing
import CircuitBreaker.Proofs.Flattening
import CircuitBreaker.Proofs.Consistency
import CircuitBreaker.Proofs.Recovery
import CircuitBreaker.Proofs.EventLog
import CircuitBreaker.Proofs.Telemetry
import CircuitBreaker.Proofs.Health
import CircuitBreaker.Proofs.Trail
import CircuitBreaker.Proofs.Lockstep
import CircuitBreaker.Proofs.Nesting
import CircuitBreaker.Proofs.Parting
import CircuitBreaker.Proofs.Memory
import CircuitBreaker.Proofs.WallClock
import CircuitBreaker.Proofs.Simulation
import CircuitBreaker.Proofs.Hearing
import CircuitBreaker.Proofs.Stampede
import CircuitBreaker.Proofs.Reopening
import CircuitBreaker.Proofs.RoundTrip
import CircuitBreaker.Proofs.Tolerance
import CircuitBreaker.Proofs.Loosening
import CircuitBreaker.Proofs.Answering
import CircuitBreaker.Proofs.Script
import CircuitBreaker.Proofs.TimeoutVariable
import CircuitBreaker.Proofs.Timeout
import CircuitBreaker.Proofs.Report
import CircuitBreaker.Proofs.Live
