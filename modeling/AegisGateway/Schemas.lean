import AegisGateway.Json
import Mathlib.Algebra.Order.Ring.Rat

set_option autoImplicit false

/-!
# The gateway's data

`schemas/chat.py`, `schemas/auth.py` and `schemas/errors.py`, and the exceptions
that the modelled functions raise or tell apart.
-/
namespace AegisGateway

inductive MessageContent where
  | null
  | text (s : String)
  | parts (parts : List JsonObject)
  deriving Repr

/-- `extra` holds the fields that pass through by `extra="allow"`. -/
structure ChatMessage where
  role : String
  content : MessageContent
  extra : JsonObject
  deriving Repr

structure ChatCompletionRequest where
  model : String
  messages : List ChatMessage
  stream : Bool
  extra : JsonObject
  deriving Repr

structure Usage where
  promptTokens : ℤ
  completionTokens : ℤ
  totalTokens : ℤ
  extra : JsonObject
  deriving Repr

structure ChatCompletionResponse where
  id : String
  object : String
  created : ℤ
  model : String
  choices : List JsonObject
  usage : Option Usage
  extra : JsonObject
  deriving Repr

/-- Members whose value is `None` are left out by `exclude_none=True`. -/
def withoutNone (members : JsonObject) : JsonObject :=
  members.filter fun m => match m.2 with
    | .null => false
    | _ => true

def MessageContent.toJson : MessageContent → Json
  | .null => .null
  | .text s => .str s
  | .parts items => .arr (items.map .obj)

/-- `model_dump(exclude_none=True)`. -/
def ChatMessage.modelDump (message : ChatMessage) : Json :=
  .obj (withoutNone
    ([("role", .str message.role), ("content", message.content.toJson)] ++ message.extra))

/-- `model_dump(exclude={"stream"}, exclude_none=True)`. -/
def ChatCompletionRequest.modelDumpWithoutStream (body : ChatCompletionRequest) : JsonObject :=
  withoutNone ([("model", .str body.model),
    ("messages", .arr (body.messages.map ChatMessage.modelDump))] ++ body.extra)

/-- `model_dump(exclude_none=True)`. -/
def ChatCompletionRequest.modelDump (body : ChatCompletionRequest) : JsonObject :=
  withoutNone ([("model", .str body.model),
    ("messages", .arr (body.messages.map ChatMessage.modelDump)),
    ("stream", .bool body.stream)] ++ body.extra)

/-- A `uuid.UUID`, by the canonical text `str` gives it. -/
structure Uuid where
  text : String
  length : text.length = 36
  deriving DecidableEq, Repr

/-- A `Decimal` with so many digits after the point. -/
structure Decimal where
  units : ℤ
  scale : ℕ
  deriving DecidableEq, Repr

def Decimal.value (d : Decimal) : ℚ := d.units / 10 ^ d.scale

def zeroPadded (width n : ℕ) : String :=
  let text := toString n
  String.ofList (List.replicate (width - text.length) '0') ++ text

def Decimal.str (d : Decimal) : String :=
  (if d.units < 0 then "-" else "") ++ toString (d.units.natAbs / 10 ^ d.scale) ++
    if d.scale = 0 then "" else "." ++ zeroPadded d.scale (d.units.natAbs % 10 ^ d.scale)

/-- A value of a `Numeric(10,2)` column. -/
structure Numeric102 where
  cents : ℤ
  fits : |cents| < 10 ^ 10
  deriving Repr

def Numeric102.value (n : Numeric102) : ℚ := n.cents / 100

def Numeric102.str (n : Numeric102) : String := Decimal.str ⟨n.cents, 2⟩

inductive InjectionMode where
  | block
  | log
  deriving DecidableEq, Repr

def InjectionMode.text : InjectionMode → String
  | .block => "block"
  | .log => "log"

/-- A Python float, as a JSON body can bring it. -/
inductive PyFloat where
  | finite (value : ℚ)
  | infinite (negative : Bool)
  | nan
  deriving DecidableEq, Repr

def PyFloat.isFinite : PyFloat → Bool
  | .finite _ => true
  | .infinite _ | .nan => false

/-- What `json.dumps` writes. -/
def PyFloat.text (floatRepr : ℚ → String) : PyFloat → String
  | .finite value => floatRepr value
  | .infinite negative => if negative then "-Infinity" else "Infinity"
  | .nan => "NaN"

/-- `score >= bound`. -/
def PyFloat.reachedBy (bound : PyFloat) (score : ℚ) : Bool :=
  match bound with
  | .finite value => decide (score ≥ value)
  | .infinite negative => negative
  | .nan => false

/-- `score < bound`. -/
def PyFloat.above (bound : PyFloat) (score : ℚ) : Bool :=
  match bound with
  | .finite value => decide (score < value)
  | .infinite negative => !negative
  | .nan => false

/-- Each comparison is the negation of the other, but with `NaN` both are false. -/
theorem PyFloat.above_iff (bound : PyFloat) (score : ℚ) :
    bound.above score = true ↔ bound.reachedBy score = false ∧ bound ≠ .nan := by
  cases bound with
  | finite value => simp [above, reachedBy]
  | infinite negative => simp [above, reachedBy]
  | nan => simp [above]

theorem PyFloat.above_of_le {bound : PyFloat} {low high : ℚ} (le : low ≤ high)
    (h : bound.above high = true) : bound.above low = true := by
  cases bound with
  | finite value => exact decide_eq_true (lt_of_le_of_lt le (of_decide_eq_true h))
  | infinite negative => exact h
  | nan => exact h

structure TenantContext where
  tenantId : Uuid
  apiKeyId : String
  monthlyBudgetUsd : Numeric102
  rateLimitRpm : ℤ
  rateLimitTpm : ℤ
  maxConcurrentRequests : ℤ
  piiRedactionEnabled : Bool
  injectionDetectionEnabled : Bool
  injectionDetectionThreshold : PyFloat
  injectionDetectionMode : InjectionMode
  cacheEnabled : Bool
  deriving Repr

/-- A row of `audit_log` as it is inserted. -/
structure AuditLog where
  tenantId : Option Uuid
  eventType : String
  correlationId : Option String
  detail : JsonObject
  deriving Repr

/-- A row of `usage_records` as it is inserted. -/
structure UsageRecord where
  tenantId : Uuid
  apiKeyId : String
  provider : String
  model : String
  promptTokens : ℤ
  completionTokens : ℤ
  totalTokens : ℤ
  costUsd : Decimal
  cacheHit : Bool
  correlationId : Option String
  deriving Repr

/-- What a service that inserts rows of one table uses of the database session.
`session.add` and the `session.commit` after it are one call. -/
structure Session (Row : Type) (m : Type → Type) where
  setRlsContext : Option Uuid → Bool → m Unit
  commitRow : Row → m Unit

def writeAuditEvent {m : Type → Type} [Monad m] (session : Session AuditLog m)
    (tenantId : Option Uuid) (eventType : String) (correlationId : Option String)
    (detail : JsonObject) : m Unit := do
  session.setRlsContext none true
  session.commitRow ⟨tenantId, eventType, correlationId, detail⟩

/-- `openai_error` with the default `param=None`. -/
def openaiError (message errorType code : String) : Json :=
  .obj [("error", .obj [("message", .str message), ("type", .str errorType), ("param", .null),
    ("code", .str code)])]

structure HttpException where
  statusCode : ℤ
  detail : Json
  headers : List (String × String)
  deriving Repr

/-- The `ProviderError` family of `providers/errors.py`. -/
inductive ProviderError where
  | upstreamTimeout (message : String)
  | upstreamConnection (message : String)
  | upstreamStatus (statusCode : ℤ) (body : String)
  | circuitOpen (message : String)
  | unspecified (message : String)
  deriving DecidableEq, Repr

def first (n : ℕ) (s : String) : String := String.ofList (s.toList.take n)

def ProviderError.str : ProviderError → String
  | .upstreamTimeout message => message
  | .upstreamConnection message => message
  | .upstreamStatus statusCode body =>
    "upstream returned " ++ toString statusCode ++ ": " ++ first 500 body
  | .circuitOpen message => message
  | .unspecified message => message

def providerErrorToHttpException (exc : ProviderError) : HttpException :=
  match exc with
  | .circuitOpen _ => ⟨503, openaiError exc.str "upstream_error" "circuit_open", []⟩
  | .upstreamTimeout _ => ⟨504, openaiError exc.str "upstream_error" "upstream_timeout", []⟩
  | .upstreamConnection _ =>
    ⟨502, openaiError exc.str "upstream_error" "upstream_connection_error", []⟩
  | .upstreamStatus statusCode body =>
    ⟨if 400 ≤ statusCode ∧ statusCode < 500 then statusCode else 502,
      openaiError (first 500 body) "upstream_error" "upstream_error", []⟩
  | .unspecified _ => ⟨502, openaiError exc.str "upstream_error" "unknown_provider_error", []⟩

structure RateLimitExceeded where
  code : String
  message : String
  retryAfterSeconds : Option ℕ
  deriving DecidableEq, Repr

/-- What can be raised. `other` is every exception that no clause of the modelled
code names; `cancelled` and `generatorExit` are not `Exception`s. -/
inductive Exn where
  | http (e : HttpException)
  | provider (e : ProviderError)
  | rateLimit (e : RateLimitExceeded)
  | unknownProvider (message : String)
  | httpxTimeout (message : String)
  | httpxConnect (message : String)
  | keyError
  | assertion
  | other (name : String)
  | cancelled
  | generatorExit
  deriving Repr

def Exn.isException : Exn → Bool
  | .cancelled | .generatorExit => false
  | _ => true

/-- `str.isspace`. -/
def isSpace (c : Char) : Bool :=
  c.toNat ∈ [9, 10, 11, 12, 13, 28, 29, 30, 31, 32, 133, 160, 5760, 8192, 8193, 8194, 8195, 8196,
    8197, 8198, 8199, 8200, 8201, 8202, 8232, 8233, 8239, 8287, 12288]

def strip (s : String) : String :=
  String.ofList ((s.toList.dropWhile isSpace).reverse.dropWhile isSpace).reverse

theorem dropWhile_spaces {spaces core : List Char} {c : Char} (all : ∀ d ∈ spaces, isSpace d = true)
    (first : core.head? = some c) (solid : isSpace c = false) :
    (spaces ++ core).dropWhile isSpace = core := by
  rw [List.dropWhile_append_of_pos all]
  cases core with
  | nil => cases first
  | cons d rest =>
    cases first
    rw [List.dropWhile_cons_of_neg (by simp [solid])]

theorem strip_between {spaces core after : List Char} {c d : Char}
    (all : ∀ e ∈ spaces, isSpace e = true) (first : core.head? = some c) (solid : isSpace c = false)
    (last : core.getLast? = some d) (solid' : isSpace d = false) (all' : ∀ e ∈ after, isSpace e = true) :
    strip (String.ofList (spaces ++ (core ++ after))) = String.ofList core := by
  have backwards : core.reverse.head? = some d := by rw [List.head?_reverse, last]
  have forwards : (core ++ after).head? = some c := by
    cases core with
    | nil => cases first
    | cons e rest => exact first
  have behind : ∀ e ∈ after.reverse, isSpace e = true := fun e mem => all' e (List.mem_reverse.mp mem)
  rw [strip, String.toList_ofList, dropWhile_spaces all forwards solid, List.reverse_append,
    dropWhile_spaces behind backwards solid', List.reverse_reverse]

theorem strip_solid {s : String} {c d : Char} (first : s.toList.head? = some c) (solid : isSpace c = false)
    (last : s.toList.getLast? = some d) (solid' : isSpace d = false) : strip s = s := by
  have stripped := @strip_between [] s.toList [] c d (by simp) first solid last solid' (by simp)
  rwa [List.nil_append, List.append_nil, String.ofList_toList] at stripped

def valueError : Exn := .other "ValueError"

/-- What `json.loads` raises. `int` refuses too many digits, and too deep a value exhausts the stack. -/
inductive LoadError where
  | jsonDecodeError
  | valueError
  | recursionError
  deriving DecidableEq, Repr

def LoadError.exn : LoadError → Exn
  | .jsonDecodeError => .other "JSONDecodeError"
  | .valueError => AegisGateway.valueError
  | .recursionError => .other "RecursionError"

def lockTtlSeconds : ℕ := 60

def concurrencyKeyTtlSeconds : ℕ := 300

/-- What the code takes from the packages and the standard library as a pure function. -/
structure Libraries where
  jsonLoads : String → Except LoadError Json
  /-- `ChatCompletionResponse.model_validate`, with `none` for a `ValidationError`. -/
  modelValidate : Json → Option ChatCompletionResponse
  modelValidateJson : String → Option ChatCompletionResponse
  /-- `repr(round(x, 3))` of a float. -/
  reprRounded : ℚ → String
  /-- The hexadecimal SHA-256 digest of the text's UTF-8 encoding. -/
  sha256Hex : String → String

/-- A library in which nothing parses, for runs that parse nothing. -/
def silentLibraries : Libraries where
  jsonLoads _ := .error .jsonDecodeError
  modelValidate _ := none
  modelValidateJson _ := none
  reprRounded _ := ""
  sha256Hex _ := ""

def helloRequest (stream : Bool) : ChatCompletionRequest :=
  ⟨"llama3", [⟨"user", .text "hello", []⟩], stream, []⟩

def helloChunk : Json := .obj [("choices", .arr [.obj [("delta", .obj [("content", .str "Hel")])]])]

def helloResponse : ChatCompletionResponse :=
  ⟨"chatcmpl-1", "chat.completion", 0, "llama3",
    [[("message", .obj [("content", .str "Hel")])]], some ⟨8, 1, 9, []⟩, []⟩

/-- `helloResponse.model_dump_json()`. -/
def helloDump : String :=
  "\x7b\"id\":\"chatcmpl-1\",\"object\":\"chat.completion\",\"created\":0,\"model\":\"llama3\"," ++
    "\"choices\":[\x7b\"message\":\x7b\"content\":\"Hel\"\x7d\x7d],\"usage\":\x7b\"prompt_tokens\":8," ++
    "\"completion_tokens\":1,\"total_tokens\":9\x7d\x7d"

def helloTenantId : Uuid := ⟨"00000000-0000-4000-8000-000000000001", by decide⟩

def hundredDollars : Numeric102 := ⟨10000, by decide⟩

def helloTenant : TenantContext where
  tenantId := helloTenantId
  apiKeyId := "0123456789abcdef"
  monthlyBudgetUsd := hundredDollars
  rateLimitRpm := 60
  rateLimitTpm := 100000
  maxConcurrentRequests := 5
  piiRedactionEnabled := false
  injectionDetectionEnabled := false
  injectionDetectionThreshold := .finite (3 / 4)
  injectionDetectionMode := .block
  cacheEnabled := false

end AegisGateway
