import CircuitBreaker.Proofs.Layers

namespace CircuitBreaker.Settings

variable {env : Environment} {raw : String}

end CircuitBreaker.Settings
