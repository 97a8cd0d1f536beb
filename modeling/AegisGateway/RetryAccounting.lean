import AegisGateway.ProviderCalls
import Mathlib.Order.Bounds.Basic

set_option autoImplicit false

/-!
# Attempts and records of one call

`_run_with_breaker` with its retry loop, against an environment whose attempts end one
after the other as a given sequence says.
-/
namespace AegisGateway.RetryAccounting
open EffectProgram CircuitBreaker ProviderCalls

/-- The breaker, the attempts made so far and what was recorded, a success as `true`. -/
structure CallState where
  breaker : Breaker
  attempts : ℕ
  records : List Bool

section Environment
variable (breakerConfig : BreakerConfig) (now : ℕ → ℚ)
  (http : ℕ → (op : ProviderOp) → Except Exn (ProviderRet op))

/-- The breaker's own methods, waits that end, and an HTTP client that sees which attempt it is
asked for. The clock is read when so many attempts have been made. -/
def environment (s : CallState) : (op : ProviderOp) → Except Exn (ProviderRet op) × CallState
  | .beforeCall =>
    let gate := beforeCall breakerConfig (now s.attempts) s.breaker
    (gate.1, { s with breaker := gate.2 })
  | .recordSuccess =>
    (.ok (), { s with breaker := recordSuccess s.breaker, records := s.records ++ [true] })
  | .recordFailure =>
    (.ok (), { s with
      breaker := recordFailure breakerConfig (now s.attempts) s.breaker
      records := s.records ++ [false] })
  | .setCircuitBreakerState | .sleep _ => (.ok (), s)
  | .post payload => (http s.attempts (.post payload), { s with attempts := s.attempts + 1 })
  | .send payload => (http s.attempts (.send payload), { s with attempts := s.attempts + 1 })
  | op => (http (s.attempts - 1) op, s)

/-- The attempts of `fn` end as the sequence says, and do nothing else that is seen here. -/
def Attempts {α : Type} (fn : ProviderProg α) (outcomes : ℕ → Except Exn α) : Prop :=
  ∀ s, fn.runState (environment breakerConfig now http) s =
    (outcomes s.attempts, { s with attempts := s.attempts + 1 })

def postOutcome (lib : Libraries) : Except Exn HttpResponse → Except Exn Json
  | .error exc => .error exc
  | .ok response =>
    if response.statusCode ≥ 400 then
      .error (.provider (.upstreamStatus response.statusCode response.text))
    else match lib.jsonLoads response.text with
      | .ok result => .ok result
      | .error e => .error e.exn

theorem postOnce_attempts (lib : Libraries) (payload : JsonObject) :
    Attempts breakerConfig now http (postOnce lib payload)
      (fun i => postOutcome lib (http i (.post payload))) := by
  intro s
  rw [postOnce, Prog.bind_def, Prog.runState_andThen]
  change (Prog.onValue _ (http s.attempts (.post payload))).runState _ _ =
    (postOutcome lib (http s.attempts (.post payload)), _)
  generalize http s.attempts (.post payload) = answered
  cases answered with
  | error exc => rfl
  | ok response =>
    simp only [Prog.onValue, postOutcome]
    split
    · rfl
    · generalize lib.jsonLoads response.text = parsed
      cases parsed <;> rfl

end Environment

section Loop
variable {α : Type}

/-- The outcome ends the loop: a success, or an error that is not retried. -/
def Stops : Except Exn α → Prop
  | .ok _ => True
  | .error exc => isRetryable exc = false

/-- A success, a timeout, a failed connection or an error status. -/
def Drawn : Except Exn α → Prop
  | .ok _ | .error (.httpxTimeout _) | .error (.httpxConnect _)
  | .error (.provider (.upstreamStatus _ _)) => True
  | _ => False

variable {breakerConfig : BreakerConfig} {now : ℕ → ℚ}
  {http : ℕ → (op : ProviderOp) → Except Exn (ProviderRet op)} {fn : ProviderProg α}
  {outcomes : ℕ → Except Exn α}

end Loop

section TimeoutFirst

end TimeoutFirst
end AegisGateway.RetryAccounting
