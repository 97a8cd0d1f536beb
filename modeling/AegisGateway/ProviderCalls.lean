import AegisGateway.CircuitBreaker
import AegisGateway.EffectProgram
import AegisGateway.Pricing

set_option autoImplicit false

/-!
# Calls through an OpenAI-compatible provider

`providers/openai_compatible.py` and `providers/retry.py` over the breaker's
methods, the HTTP client and the clock. Every call of the HTTP client, and every
wait, may raise anything.
-/
namespace AegisGateway.ProviderCalls
open EffectProgram CircuitBreaker
open Pricing (startsWith)

structure HttpResponse where
  statusCode : ℤ
  text : String

/-- The lines `aiter_lines` yields, and the exception it ends with, if any. -/
structure LineStream where
  lines : List String
  ending : Option Exn

inductive ProviderOp where
  | beforeCall
  | recordSuccess
  | recordFailure
  | setCircuitBreakerState
  | post (payload : JsonObject)
  | send (payload : JsonObject)
  | aread
  | aclose
  | sleep (atMost : ℚ)
  | aiterLines
  | yieldChunk (chunk : Json)

abbrev ProviderRet : ProviderOp → Type
  | .post _ => HttpResponse
  | .send _ => ℤ
  | .aread => String
  | .aiterLines => LineStream
  | .beforeCall | .recordSuccess | .recordFailure | .setCircuitBreakerState | .aclose
  | .sleep _ | .yieldChunk _ => Unit

abbrev ProviderProg := Prog ProviderOp ProviderRet Exn

abbrev call (op : ProviderOp) : ProviderProg (ProviderRet op) := Prog.perform op

structure ProviderConfig where
  name : String
  maxAttempts : ℤ

def retryableStatusCodes : List ℤ := [429, 500, 502, 503, 504]

def isRetryable : Exn → Bool
  | .httpxTimeout _ | .httpxConnect _ => true
  | .provider (.upstreamStatus statusCode _) => statusCode ∈ retryableStatusCodes
  | _ => false

def baseDelay : ℚ := 1 / 4
def maxDelay : ℚ := 4

/-- The `for` loop of `call_with_retry` from `attempt` on, with so many attempts left. -/
def retryLoop {α : Type} (fn : ProviderProg α) (retryable : Exn → Bool) (maxAttempts : ℤ) :
    ℕ → ℤ → Option Exn → ProviderProg α
  | 0, _, none => .raise .assertion
  | 0, _, some lastExc => .raise lastExc
  | left + 1, attempt, _ =>
    fn.handle fun exc =>
      if exc.isException = false ∨ retryable exc = false ∨ attempt = maxAttempts then .raise exc
      else do
        call (.sleep (min maxDelay (baseDelay * 2 ^ (attempt - 1))))
        retryLoop fn retryable maxAttempts left (attempt + 1) (some exc)

def callWithRetry {α : Type} (fn : ProviderProg α) (retryable : Exn → Bool) (maxAttempts : ℤ) :
    ProviderProg α :=
  retryLoop fn retryable maxAttempts maxAttempts.toNat 1 none

/-- Every attempt ends in `Q`, and the wait after a retryable failure makes ready for another. -/
theorem retryLoop_rule {α G : Type} {M : Monitor ProviderOp ProviderRet Exn G} {ready : G → Prop}
    {Q : Except Exn α → G → Prop} {fn : ProviderProg α} {retryable : Exn → Bool} {maxAttempts : ℤ}
    (attempts : ∀ g, ready g → Holds M fn Q g)
    (waits : ∀ exc delay g, retryable exc = true → Q (.error exc) g →
      Holds M (call (.sleep delay)) (fun r g' => match r with
        | .error e => Q (.error e) g'
        | .ok _ => ready g' ∧ Q (.error exc) g') g)
    (left : ℕ) (attempt : ℤ) (last : Option Exn) (g : G) (start : ready g)
    (exhausted : left = 0 → Q (.error (last.getD .assertion)) g) :
    Holds M (retryLoop fn retryable maxAttempts left attempt last) Q g := by
  induction left generalizing attempt last g with
  | zero => cases last <;> exact exhausted rfl
  | succ left ih =>
    rw [retryLoop, holds_handle]
    refine (attempts g start).mono fun r g' ended => ?_
    cases r with
    | ok a => exact ended
    | error exc =>
      simp only
      split
      · exact ended
      · rename_i again
        have retry : retryable exc = true := by simpa using (not_or.mp (not_or.mp again).2).1
        rw [holds_bind]
        refine (waits exc _ g' retry ended).mono fun r g'' waited => ?_
        cases r with
        | error e => exact waited
        | ok u => exact ih _ (some exc) g'' waited.1 fun _ => waited.2

def failWith {α : Type} (exc : Exn) : ProviderProg α := do
  call .recordFailure
  call .setCircuitBreakerState
  Prog.raise exc

/-- The `except` clauses of `_run_with_breaker`. -/
def onFailure {α : Type} : Exn → ProviderProg α
  | .httpxTimeout message => failWith (.provider (.upstreamTimeout message))
  | .httpxConnect message => failWith (.provider (.upstreamConnection message))
  | .provider (.upstreamStatus statusCode body) =>
    failWith (.provider (.upstreamStatus statusCode body))
  | exc => .raise exc

def runWithBreaker {α : Type} (config : ProviderConfig) (coroFactory : ProviderProg α) :
    ProviderProg α := do
  call .beforeCall
  let result ← (callWithRetry coroFactory isRetryable config.maxAttempts).handle onFailure
  call .recordSuccess
  call .setCircuitBreakerState
  return result

/-- The calls that `_run_with_breaker` makes by itself. -/
def guards : ProviderOp → Bool
  | .beforeCall | .recordSuccess | .recordFailure | .setCircuitBreakerState | .sleep _ => true
  | _ => false

section Uses
variable {α : Type} {S : ProviderOp → Prop} (own : ∀ op, guards op = true → S op)
include own

theorem callWithRetry_uses {fn : ProviderProg α} (h : fn.Uses S) (retryable : Exn → Bool)
    (maxAttempts : ℤ) : (callWithRetry fn retryable maxAttempts).Uses S := by
  have loop (left : ℕ) (attempt : ℤ) (last : Option Exn) :
      (retryLoop fn retryable maxAttempts left attempt last).Uses S := by
    induction left generalizing attempt last with
    | zero => cases last <;> trivial
    | succ left ih =>
      refine h.handle fun exc => ?_
      split
      · trivial
      · exact (Prog.uses_perform (own _ rfl)).bind fun _ => ih _ _
  exact loop _ _ _

theorem onFailure_uses (exc : Exn) : (onFailure exc : ProviderProg α).Uses S := by
  have fails (exc : Exn) : (failWith exc : ProviderProg α).Uses S :=
    (Prog.uses_perform (own _ rfl)).bind fun _ => (Prog.uses_perform (own _ rfl)).bind fun _ => trivial
  rw [onFailure.eq_def]
  split
  · exact fails _
  · exact fails _
  · exact fails _
  · trivial

theorem runWithBreaker_uses {fn : ProviderProg α} (config : ProviderConfig) (h : fn.Uses S) :
    (runWithBreaker config fn).Uses S := by
  refine (Prog.uses_perform (own _ rfl)).bind fun _ => ?_
  refine ((callWithRetry_uses own h _ _).handle (onFailure_uses own)).bind fun _ => ?_
  exact (Prog.uses_perform (own _ rfl)).bind fun _ => (Prog.uses_perform (own _ rfl)).bind fun _ => trivial

end Uses

def postOnce (lib : Libraries) (payload : JsonObject) : ProviderProg Json := do
  let response ← call (.post payload)
  if response.statusCode ≥ 400 then
    Prog.raise (.provider (.upstreamStatus response.statusCode response.text))
  else match lib.jsonLoads response.text with
    | .ok result => pure result
    | .error e => Prog.raise e.exn

def chatCompletion (lib : Libraries) (config : ProviderConfig) (request : ChatCompletionRequest) :
    ProviderProg ChatCompletionResponse := do
  let payload := Json.set "stream" (.bool false) request.modelDump
  let raw ← runWithBreaker config (postOnce lib payload)
  match lib.modelValidate raw with
  | some response => pure response
  | none => Prog.raise (.other "ValidationError")

def openStream (payload : JsonObject) : ProviderProg Unit := do
  let statusCode ← call (.send payload)
  if statusCode ≥ 400 then
    let body ← call .aread
    call .aclose
    Prog.raise (.provider (.upstreamStatus statusCode body))
  else pure ()

def malformedMessage (config : ProviderConfig) (data : String) : String :=
  "malformed SSE chunk from " ++ config.name ++ ": " ++ first 200 data

/-- What the loop of `stream_chat_completion` does with a `data:` line: stop, or yield. -/
def chunkOf (lib : Libraries) (config : ProviderConfig) (line : String) :
    Except Exn (Option Json) :=
  let data := strip (String.ofList (line.toList.drop 5))
  if data = "" ∨ data = "[DONE]" then .ok none
  else match lib.jsonLoads data with
    | .ok chunk => .ok (some chunk)
    | .error .jsonDecodeError => .error (.provider (.unspecified (malformedMessage config data)))
    | .error e => .error e.exn

/-- What stands behind `data:`. -/
def payload (line : String) : String := strip (String.ofList (line.toList.drop 5))

theorem chunkOf_payload (lib : Libraries) (config : ProviderConfig) (line : String) :
    chunkOf lib config line = if payload line = "" ∨ payload line = "[DONE]" then .ok none
      else match lib.jsonLoads (payload line) with
        | .ok chunk => .ok (some chunk)
        | .error .jsonDecodeError =>
          .error (.provider (.unspecified (malformedMessage config (payload line))))
        | .error e => .error e.exn := rfl

/-- The `async for` loop of `stream_chat_completion`. -/
def readLines (lib : Libraries) (config : ProviderConfig) :
    List String → Option Exn → ProviderProg Unit
  | [], none => pure ()
  | [], some exc => .raise exc
  | line :: rest, ending =>
    if startsWith line "data:" then
      match chunkOf lib config line with
      | .error exc => .raise exc
      | .ok none => pure ()
      | .ok (some chunk) => do
        call (.yieldChunk chunk)
        readLines lib config rest ending
    else readLines lib config rest ending

def readStream (lib : Libraries) (config : ProviderConfig) : ProviderProg Unit := do
  let stream ← call .aiterLines
  readLines lib config stream.lines stream.ending

def streamChatCompletion (lib : Libraries) (config : ProviderConfig)
    (request : ChatCompletionRequest) : ProviderProg Unit := do
  let payload := Json.set "stream" (.bool true) request.modelDump
  runWithBreaker config (openStream payload)
  (readStream lib config).ensure (call .aclose)

/-- A call of a client of the provider. -/
inductive ProviderCall where
  | chat (request : ChatCompletionRequest)
  | stream (request : ChatCompletionRequest)

def runCall (lib : Libraries) (config : ProviderConfig) :
    ProviderCall → ProviderProg (Option ChatCompletionResponse)
  | .chat request => do
    let response ← chatCompletion lib config request
    return some response
  | .stream request => do
    streamChatCompletion lib config request
    return none

end AegisGateway.ProviderCalls
