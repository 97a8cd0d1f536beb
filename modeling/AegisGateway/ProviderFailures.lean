import AegisGateway.BreakerRuns

set_option autoImplicit false

/-!
# Which upstream failures are provider errors

`provider_error_to_http_exception` maps the `ProviderError`s and nothing else. The clauses of
`_run_with_breaker` translate what they name while the call connects; the validation of a body
and the reading of a stream come after them.
-/
namespace AegisGateway.ProviderFailures
open EffectProgram ProviderCalls BreakerRuns
open Pricing (startsWith)

section Events

/-- The exceptions of the HTTP client. Only two of its classes are named in the code. -/
def ofClient : Exn → Bool
  | .httpxTimeout _ | .httpxConnect _ | .other _ => true
  | _ => false

/-- What the upstream can bring about: the client's calls raise what they may, the breaker lets the
call pass or not, and nothing else of the call is disturbed. -/
def upstream : ProviderEvent → Bool
  | ⟨.post _, .error exc⟩ | ⟨.send _, .error exc⟩ | ⟨.aread, .error exc⟩ | ⟨.aclose, .error exc⟩
  | ⟨.aiterLines, .error exc⟩ => ofClient exc
  | ⟨.aiterLines, .ok stream⟩ => stream.ending.all ofClient
  | ⟨.beforeCall, .error (.provider (.circuitOpen _))⟩ => true
  | ⟨_, .error _⟩ => false
  | _ => true

end Events

section Programs
variable {lib : Libraries} {config : ProviderConfig} {α β : Type}

end Programs

section OneAttempt

end OneAttempt
end AegisGateway.ProviderFailures
