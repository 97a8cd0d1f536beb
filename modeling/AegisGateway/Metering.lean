import AegisGateway.ContentScreening

set_option autoImplicit false

/-!
# What a request is charged for its prompt

`count_prompt_tokens` counts the body as it was received: the roles, the names, the string
contents and a surcharge for each message. The provider gets the text parts of list contents
too, and the string contents as redaction left them. For a body that is forwarded this says
exactly when the count covers its texts.
-/
namespace AegisGateway.Metering
open EffectProgram ProviderGates ContentScreening

/-- Tiktoken: the encoding of a model, and the number of tokens of a text. -/
structure Tokenizer where
  modelEncoding : String → Option String
  tokens : String → String → ℕ

/-- `_encoding_for`. -/
def Tokenizer.encodingFor (tok : Tokenizer) (model : String) : String :=
  (tok.modelEncoding model).getD fallbackEncoding

/-- The tokenizer gave the answer, if it is one of its own. -/
def Tokenizer.Gave (tok : Tokenizer) : GatewayEvent → Prop
  | ⟨.encodingForModel model, .ok encoding⟩ => tok.modelEncoding model = some encoding
  | ⟨.encodingForModel model, .error .keyError⟩ => tok.modelEncoding model = none
  | ⟨.getEncoding name, .ok encoding⟩ => encoding = name
  | ⟨.encode encoding text, .ok tokens⟩ => tokens = tok.tokens encoding text
  | _ => True

section Counts
variable (tok : Tokenizer) (encoding : String)

def textsTokens (texts : List String) : ℕ := (texts.map (tok.tokens encoding)).sum

def messageTokens (messages : List ChatMessage) : ℕ :=
  (messages.map fun m => textsTokens tok encoding (contentTexts m.content)).sum

def stringTokens : MessageContent → ℕ
  | .text s => tok.tokens encoding s
  | .null | .parts _ => 0

def nameCharge : Json → ℕ
  | .str name => tok.tokens encoding name + tokensPerName
  | _ => 0

def surcharge (m : ChatMessage) : ℕ :=
  tokensPerMessage + tok.tokens encoding m.role + nameCharge tok encoding (Json.get m.extra "name")

def charge (m : ChatMessage) : ℕ := surcharge tok encoding m + stringTokens tok encoding m.content

/-- By how many tokens redaction lengthens a string content. -/
def redactionGrowth (engines : PiiEngines) (enabled : Bool) : MessageContent → ℤ
  | .text s => if enabled then tok.tokens encoding (engines.redacted s) - tok.tokens encoding s else 0
  | .null | .parts _ => 0

/-- The text parts and what redaction adds stay within the surcharges. -/
def WithinSurcharges (engines : PiiEngines) (enabled : Bool) (messages : List ChatMessage) : Prop :=
  (messages.map fun m => (textsTokens tok encoding (listTexts m.content) : ℤ) +
      redactionGrowth tok encoding engines enabled m.content).sum ≤
    (messages.map fun m => (surcharge tok encoding m : ℤ)).sum + tokensPerReplyPrimer

end Counts

section Counting
variable {tok : Tokenizer} {t : List GatewayEvent}

theorem encodingFor_value {model encoding : String} (run : Runs (encodingFor model) t (.ok encoding))
    (gave : ∀ e ∈ t, tok.Gave e) : encoding = tok.encodingFor model := by
  rw [Tokenizer.encodingFor]
  cases run with
  | @call _ _ o t' _ tail =>
    rcases o with e | found
    · cases e with
      | keyError =>
        have unknown : tok.modelEncoding model = none := gave _ (.head _)
        cases tail with
        | call tail =>
          cases tail
          rw [unknown]
          exact gave _ (.tail _ (.head _))
      | _ => cases tail
    · cases tail
      have known : tok.modelEncoding model = some encoding := gave _ (.head _)
      rw [known]
      rfl

theorem encode_value {encoding text : String} {n : ℕ}
    (run : Runs (call (.encode encoding text)) t (.ok n)) (gave : ∀ e ∈ t, tok.Gave e) :
    n = tok.tokens encoding text := by
  rw [runs_perform run] at gave
  exact gave _ (.head _)

theorem contentTokens_value {encoding : String} {content : MessageContent} {n : ℕ}
    (run : Runs (contentTokens encoding content) t (.ok n)) (gave : ∀ e ∈ t, tok.Gave e) :
    n = stringTokens tok encoding content := by
  cases content with
  | text s => exact encode_value run gave
  | null =>
    cases run
    rfl
  | parts items =>
    cases run
    rfl

theorem nameTokens_value {encoding : String} {message : ChatMessage} {n : ℕ}
    (run : Runs (nameTokens encoding message) t (.ok n)) (gave : ∀ e ∈ t, tok.Gave e) :
    n = nameCharge tok encoding (Json.get message.extra "name") := by
  rw [nameTokens] at run
  split at run
  case h_1 name isName =>
    obtain ⟨t₁, tokens, t₂, rfl, encoded, rest⟩ := runs_bind_ok run
    cases (runs_done rest).2
    rw [isName, encode_value encoded fun e mem => gave e (List.mem_append_left _ mem)]
    rfl
  case h_2 other =>
    cases (runs_done run).2
    revert other
    generalize Json.get message.extra "name" = value
    intro other
    cases value with
    | str name => exact (other name rfl).elim
    | _ => rfl

theorem countMessages_value {encoding : String} {messages : List ChatMessage} {numTokens n : ℕ}
    (run : Runs (countMessages encoding messages numTokens) t (.ok n)) (gave : ∀ e ∈ t, tok.Gave e) :
    n = numTokens + (messages.map (charge tok encoding)).sum := by
  induction messages generalizing numTokens t with
  | nil =>
    cases (runs_done run).2
    rfl
  | cons m rest ih =>
    obtain ⟨t₁, role, t₂, rfl, first, run⟩ := runs_bind_ok run
    obtain ⟨t₃, content, t₄, rfl, second, run⟩ := runs_bind_ok run
    obtain ⟨t₅, name, t₆, rfl, third, run⟩ := runs_bind_ok run
    have later (e : GatewayEvent) (mem : e ∈ t₃ ++ (t₅ ++ t₆)) : tok.Gave e :=
      gave e (List.mem_append_right _ mem)
    have roles := encode_value first fun e mem => gave e (List.mem_append_left _ mem)
    have contents := contentTokens_value second fun e mem => later e (List.mem_append_left _ mem)
    have names := nameTokens_value third fun e mem =>
      later e (List.mem_append_right _ (List.mem_append_left _ mem))
    have counted := ih run fun e mem => later e (List.mem_append_right _ (List.mem_append_right _ mem))
    rw [counted, roles, contents, names, List.map_cons, List.sum_cons, charge, surcharge]
    omega

theorem countPromptTokens_value {messages : List ChatMessage} {model : String} {n : ℕ}
    (run : Runs (countPromptTokens messages model) t (.ok n)) (gave : ∀ e ∈ t, tok.Gave e) :
    n = (messages.map (charge tok (tok.encodingFor model))).sum + tokensPerReplyPrimer := by
  obtain ⟨t₁, encoding, t₂, rfl, looked, run⟩ := runs_bind_ok run
  obtain ⟨t₃, numTokens, t₄, rfl, counted, run⟩ := runs_bind_ok run
  cases (runs_done run).2
  rw [countMessages_value counted fun e mem =>
      gave e (List.mem_append_right _ (List.mem_append_left _ mem)),
    encodingFor_value looked fun e mem => gave e (List.mem_append_left _ mem), Nat.zero_add]

end Counting

section Forwarding
variable (tok : Tokenizer) (encoding : String) {engines : PiiEngines} {past : List GatewayEvent}

theorem forwarded_tokens {enabled : Bool} (gave : ∀ e ∈ past, engines.Gave e)
    {received forwarded : ChatMessage} (redacted : Redacted past enabled received forwarded) :
    (textsTokens tok encoding (contentTexts forwarded.content) : ℤ) =
      stringTokens tok encoding received.content +
        (textsTokens tok encoding (listTexts received.content) +
          redactionGrowth tok encoding engines enabled received.content) := by
  obtain ⟨role, content, extra⟩ := received
  cases content with
  | null =>
    cases redacted
    rfl
  | parts items =>
    cases redacted
    simp [contentTexts, stringTokens, redactionGrowth]
  | text s =>
    cases enabled with
    | false =>
      cases redacted
      simp [contentTexts, listTexts, textsTokens, stringTokens, redactionGrowth]
    | true =>
      obtain ⟨result, ⟨part, inside, run⟩, rfl⟩ := redacted
      have value := redact_redacted run fun e mem => gave e (inside.subset mem)
      simp [contentTexts, listTexts, textsTokens, stringTokens, redactionGrowth, value]

theorem forwarded_messageTokens {enabled : Bool} (gave : ∀ e ∈ past, engines.Gave e)
    {received forwarded : List ChatMessage}
    (redacted : List.Forall₂ (Redacted past enabled) received forwarded) :
    (messageTokens tok encoding forwarded : ℤ) =
      (received.map fun m => (stringTokens tok encoding m.content : ℤ)).sum +
        (received.map fun m => (textsTokens tok encoding (listTexts m.content) : ℤ) +
          redactionGrowth tok encoding engines enabled m.content).sum := by
  induction redacted with
  | nil => rfl
  | @cons m m' rest rest' head _ ih =>
    have one := forwarded_tokens tok encoding gave head
    simp only [messageTokens, List.map_cons, List.sum_cons, Nat.cast_add] at ih ⊢
    omega

theorem charged_split (messages : List ChatMessage) :
    ((messages.map (charge tok encoding)).sum : ℤ) =
      (messages.map fun m => (surcharge tok encoding m : ℤ)).sum +
        (messages.map fun m => (stringTokens tok encoding m.content : ℤ)).sum := by
  induction messages with
  | nil => rfl
  | cons m rest ih =>
    simp only [List.map_cons, List.sum_cons, Nat.cast_add, charge] at ih ⊢
    omega

/-- The count that passed the limits covers every text of the body, in the encoding of
the count. -/
def Covered (tok : Tokenizer) (config : GatewayConfig) (request : ChatRequest)
    (past : List GatewayEvent) (body : ChatCompletionRequest) : Prop :=
  ∃ providerName promptTokens, resolve config.providers request.body.model = .ok providerName ∧
    RanIn past (countPromptTokens request.body.messages request.body.model) promptTokens ∧
    LimitsPassed past request.tenant providerName request.body.model promptTokens ∧
    messageTokens tok (tok.encodingFor request.body.model) body.messages ≤ promptTokens

/-- A forwarded body is covered by what was charged exactly when its text parts, and what
redaction adds to its strings, stay within the surcharges. -/
theorem charge_covers_forwarded_iff (tok : Tokenizer) (engines : PiiEngines) (config : GatewayConfig)
    (request : ChatRequest) (before after : List GatewayEvent) (e : GatewayEvent) (r : Except Exn Answer)
    (body : ChatCompletionRequest) (run : Runs (serve config request) (before ++ e :: after) r)
    (called : providerBody e.1 = some body) (counted : ∀ e ∈ before, tok.Gave e)
    (redacted : ∀ e ∈ before, engines.Gave e) :
    Covered tok config request before body ↔
      WithinSurcharges tok (tok.encodingFor request.body.model) engines
        request.tenant.piiRedactionEnabled request.body.messages := by
  have gated := ((serve_permitted config request).permitted run body called).1
  have forwarded := forwarded_messageTokens tok (tok.encodingFor request.body.model) redacted
    gated.messages
  have split := charged_split tok (tok.encodingFor request.body.model) request.body.messages
  have value {promptTokens : ℕ}
      (ran : RanIn before (countPromptTokens request.body.messages request.body.model) promptTokens) :
      promptTokens = (request.body.messages.map (charge tok (tok.encodingFor request.body.model))).sum +
        tokensPerReplyPrimer := by
    obtain ⟨part, inside, run⟩ := ran
    exact countPromptTokens_value run fun e mem => counted e (inside.subset mem)
  constructor
  · rintro ⟨providerName, promptTokens, _, ran, _, covers⟩
    rw [value ran] at covers
    unfold WithinSurcharges
    omega
  · intro within
    obtain ⟨providerName, promptTokens, resolved, ran, passed⟩ := gated.limits
    refine ⟨providerName, promptTokens, resolved, ran, passed, ?_⟩
    rw [value ran]
    unfold WithinSurcharges at within
    omega

end Forwarding

section LocalModel

def wordTokenizer : Tokenizer where
  modelEncoding _ := none
  tokens _ text := (text.toList.filter (· = ' ')).length + 1

def plainChat (content : MessageContent) : ChatRequest :=
  ⟨⟨"llama3", [⟨"user", content, []⟩], false, []⟩, helloTenant, none, none⟩

/-- The model has no encoding of its own. -/
def counting (content : List GatewayEvent) : List GatewayEvent :=
  [⟨.encodingForModel "llama3", .error .keyError⟩, ⟨.getEncoding fallbackEncoding, .ok "cl100k_base"⟩,
    ⟨.encode "cl100k_base" "user", .ok (1 : ℕ)⟩] ++ content

def plainPast (content : MessageContent) (encoded : List GatewayEvent) (promptTokens : ℕ) :
    List GatewayEvent :=
  counting encoded ++ limits (plainChat content) promptTokens ++ []

theorem plainChat_forwarded {content : MessageContent} {encoded : List GatewayEvent} {promptTokens : ℕ}
    (counted : Runs (countPromptTokens (plainChat content).body.messages "llama3") (counting encoded)
      (.ok promptTokens)) :
    Runs (serve helloConfig (plainChat content)) (plainPast content encoded promptTokens ++
      ⟨.chatCompletion (plainChat content).body, .error .cancelled⟩ ::
        [⟨.releaseConcurrencySlot helloTenantId, .ok ()⟩]) (.error .cancelled) := by
  have resolved : resolve helloConfig.providers (plainChat content).body.model = .ok "ollama" := by
    change resolve ["ollama"] "llama3" = _
    decide
  exact forwarded_local rfl resolved rfl rfl counted (.done _)

def helloEncoded : List GatewayEvent := [⟨.encode "cl100k_base" "hello", .ok (1 : ℕ)⟩]

theorem charge_covers_forwarded_iff_hello :
    Covered wordTokenizer helloConfig (plainChat (.text "hello"))
      (plainPast (.text "hello") helloEncoded 8) (plainChat (.text "hello")).body := by
  have run : Runs (serve helloConfig (plainChat (.text "hello")))
      (plainPast (.text "hello") helloEncoded 8 ++ _) _ :=
    plainChat_forwarded (.call (.call (.call (.call (.done _)))))
  refine (charge_covers_forwarded_iff wordTokenizer phoneEngines _ _ _ _ _ _ _ run rfl ?_ ?_).mpr ?_
  · simp [plainPast, counting, helloEncoded, limits, Tokenizer.Gave, wordTokenizer, fallbackEncoding]
  · simp [plainPast, counting, helloEncoded, limits, PiiEngines.Gave]
  · unfold WithinSurcharges
    decide

def tenWords : MessageContent := partContent "one two three four five six seven eight nine ten"

/-- A text part of ten words is forwarded for the seven tokens of its surcharges. -/
theorem text_part_not_charged : ¬ ∀ (tok : Tokenizer) (engines : PiiEngines) config request before after
    e r body, Runs (serve config request) (before ++ e :: after) r → providerBody e.1 = some body →
    (∀ e ∈ before, tok.Gave e) → (∀ e ∈ before, engines.Gave e) →
    Covered tok config request before body := by
  intro covers
  have run : Runs (serve helloConfig (plainChat tenWords)) (plainPast tenWords [] 7 ++ _) _ :=
    plainChat_forwarded (.call (.call (.call (.done _))))
  have gave : ∀ e ∈ plainPast tenWords [] 7, wordTokenizer.Gave e := by
    simp [plainPast, counting, limits, Tokenizer.Gave, wordTokenizer, fallbackEncoding]
  obtain ⟨_, promptTokens, _, ⟨part, inside, counted⟩, _, enough⟩ :=
    covers wordTokenizer phoneEngines _ _ _ _ _ _ _ run rfl gave
      (by simp [plainPast, counting, limits, PiiEngines.Gave])
  rw [countPromptTokens_value counted fun e mem => gave e (inside.subset mem)] at enough
  revert enough
  decide

end LocalModel
end AegisGateway.Metering
