import AegisGateway.ProviderGates

set_option autoImplicit false

/-!
# Where the answer of a request is from

A request hands on, stores and streams only what it got itself: from the provider, from the
cache under the key of its own body, or from the response that is kept for its idempotency key.
-/
namespace AegisGateway.AnswerSources
open EffectProgram ProviderGates RequestStages

section Sources

/-- The body is the request's own, with the messages that the screening has left. -/
def Asks (request : ChatRequest) (body : ChatCompletionRequest) : Prop :=
  body = { request.body with messages := body.messages }

/-- What a chunk adds to the collected text. -/
def contentsOf (chunk : Json) : List String :=
  match chunkContents chunk with
  | .ok contents => contents
  | .error _ => []

/-- What the gateway makes of an answer to this body. -/
inductive FromProvider (happened : GatewayEvent → Prop) (body : ChatCompletionRequest) :
    ChatCompletionResponse → Prop where
  | answered {received : ChatCompletionResponse} (answer : happened ⟨.chatCompletion body, .ok received⟩)
      (usage : Usage) (given : ∀ own, received.usage = some own → usage = own) :
      FromProvider happened body { received with usage := some usage }
  | streamed {stream : UpstreamStream} (answer : happened ⟨.streamChatCompletion body, .ok stream⟩)
      {sent rest : List Json} (part : stream.chunks = sent ++ rest) (promptTokens completionTokens : ℕ)
      (hex : String) (created : ℤ) :
      FromProvider happened body (cacheableResponse body (String.join (sent.flatMap contentsOf))
        promptTokens completionTokens hex created)

theorem FromProvider.imp {happened happened' : GatewayEvent → Prop} {body : ChatCompletionRequest}
    {response : ChatCompletionResponse} (h : FromProvider happened body response)
    (imp : ∀ e, providerBody e.1 = some body → happened e → happened' e) :
    FromProvider happened' body response := by
  cases h with
  | answered answer usage given => exact .answered (imp _ rfl answer) usage given
  | streamed answer part promptTokens completionTokens hex created =>
    exact .streamed (imp _ rfl answer) part promptTokens completionTokens hex created

variable (config : GatewayConfig) (request : ChatRequest)

/-- The text is what was made of the provider's answer to the request. -/
def Missed (past : List GatewayEvent) (text : String) : Prop :=
  ∃ body response, Asks request body ∧ FromProvider (· ∈ past) body response ∧
    ⟨.modelDumpJson response, .ok text⟩ ∈ past

/-- The response was found under the key of the request's body. -/
def Found (past : List GatewayEvent) (response : ChatCompletionResponse) : Prop :=
  ∃ body raw, Asks request body ∧
    ⟨.getCachedCompletion (computeCacheKey config.lib request.tenant.tenantId body), .ok (some raw)⟩ ∈
      past ∧ config.lib.modelValidateJson raw = some response

def Hit (past : List GatewayEvent) (text : String) : Prop :=
  ∃ response, Found config request past response ∧ ⟨.modelDumpJson response, .ok text⟩ ∈ past

def Replayed (past : List GatewayEvent) (text : String) : Prop :=
  ∃ key, request.key = some key ∧
    ⟨.getCachedResponse request.tenant.tenantId key, .ok (some text)⟩ ∈ past

/-- What is stored and streamed is from where it should be. -/
def sourced (past : List GatewayEvent) : GatewayOp → Prop
  | .storeResponse _ _ text => Missed request past text ∨ Hit config request past text
  | .storeCachedCompletion key text _ => ∃ body response, Asks request body ∧
      key = computeCacheKey config.lib request.tenant.tenantId body ∧
      FromProvider (· ∈ past) body response ∧ ⟨.modelDumpJson response, .ok text⟩ ∈ past
  | .yieldFrame (.chunk value) =>
    (∃ body stream, Asks request body ∧ ⟨.streamChatCompletion body, .ok stream⟩ ∈ past ∧
      value ∈ stream.chunks) ∨
    ∃ response, Found config request past response ∧ value = cachedChunk response
  | _ => True

/-- The headers of a JSON answer say where it is from. -/
def Labelled (past : List GatewayEvent) (content : String) (headers : List (String × String)) : Prop :=
  headers = [("X-Cache", "miss")] ∧ Missed request past content ∨
    headers = [("X-Cache", "hit")] ∧ Hit config request past content ∨
    headers = [("Idempotency-Replayed", "true")] ∧ Replayed request past content

def Sourced : Except Exn Answer → List GatewayEvent → Prop
  | .ok (.json content headers), past => Labelled config request past content headers
  | _, _ => True

end Sources

section Parts
variable {config : GatewayConfig} {request : ChatRequest} {past past' : List GatewayEvent}

theorem Found.grow {response : ChatCompletionResponse} (h : Found config request past response)
    (grown : past ⊆ past') : Found config request past' response := by
  obtain ⟨body, raw, asks, mem, parsed⟩ := h
  exact ⟨body, raw, asks, grown mem, parsed⟩

theorem FromProvider.grow {body : ChatCompletionRequest} {response : ChatCompletionResponse}
    (h : FromProvider (· ∈ past) body response) (grown : past ⊆ past') :
    FromProvider (· ∈ past') body response := h.imp fun _ _ mem => grown mem

theorem Missed.grow {text : String} (h : Missed request past text) (grown : past ⊆ past') :
    Missed request past' text := by
  obtain ⟨body, response, asks, made, dumped⟩ := h
  exact ⟨body, response, asks, made.grow grown, grown dumped⟩

theorem Hit.grow {text : String} (h : Hit config request past text) (grown : past ⊆ past') :
    Hit config request past' text := by
  obtain ⟨response, found, dumped⟩ := h
  exact ⟨response, found.grow grown, grown dumped⟩

/-- The body that is asked is the request's, and so is the key that the answer is cached under. -/
structure Own (config : GatewayConfig) (request : ChatRequest) (asked : Asked) : Prop where
  asks : Asks request asked.body
  key : ∀ key ∈ asked.cacheKey, key = computeCacheKey config.lib request.tenant.tenantId asked.body

/-- The parts are those of a stream that was started, or there are none. -/
def Read (body : ChatCompletionRequest) (past : List GatewayEvent) (parts : List String) : Prop :=
  parts = [] ∨ ∃ stream sent rest, ⟨.streamChatCompletion body, .ok stream⟩ ∈ past ∧
    stream.chunks = sent ++ rest ∧ parts = sent.flatMap contentsOf

theorem Read.grow {body : ChatCompletionRequest} {parts : List String} (h : Read body past parts)
    (grown : past ⊆ past') : Read body past' parts := by
  rcases h with none | ⟨stream, sent, rest, started, taken⟩
  · exact .inl none
  · exact .inr ⟨stream, sent, rest, grown started, taken⟩

/-- A stream has been started, and these of its chunks have been taken up. -/
def Reading (body : ChatCompletionRequest) (past : List GatewayEvent) (sent rest : List Json)
    (parts : List String) : Prop :=
  parts = sent.flatMap contentsOf ∧ ∃ stream, ⟨.streamChatCompletion body, .ok stream⟩ ∈ past ∧
    stream.chunks = sent ++ rest

theorem Reading.grow {body : ChatCompletionRequest} {sent rest : List Json} {parts : List String}
    (h : Reading body past sent rest parts) (grown : past ⊆ past') : Reading body past' sent rest parts := by
  obtain ⟨rfl, stream, started, taken⟩ := h
  exact ⟨rfl, stream, grown started, taken⟩

theorem Reading.read {body : ChatCompletionRequest} {sent rest : List Json} {parts : List String}
    (h : Reading body past sent rest parts) : Read body past parts := by
  obtain ⟨rfl, stream, started, taken⟩ := h
  exact .inr ⟨stream, sent, rest, started, taken, rfl⟩

/-- The headers say where the response is from. -/
def Answered (config : GatewayConfig) (request : ChatRequest) (past : List GatewayEvent)
    (response : ChatCompletionResponse) (headers : List (String × String)) : Prop :=
  headers = [("X-Cache", "miss")] ∧
      (∃ body, Asks request body ∧ FromProvider (· ∈ past) body response) ∨
    headers = [("X-Cache", "hit")] ∧ Found config request past response

theorem Answered.grow {response : ChatCompletionResponse} {headers : List (String × String)}
    (h : Answered config request past response headers) (grown : past ⊆ past') :
    Answered config request past' response headers := by
  rcases h with ⟨miss, body, asks, made⟩ | ⟨hit, found⟩
  · exact .inl ⟨miss, body, asks, made.grow grown⟩
  · exact .inr ⟨hit, found.grow grown⟩

/-- And where its text is from. -/
def Stated (config : GatewayConfig) (request : ChatRequest) (past : List GatewayEvent) (text : String)
    (headers : List (String × String)) : Prop :=
  headers = [("X-Cache", "miss")] ∧ Missed request past text ∨
    headers = [("X-Cache", "hit")] ∧ Hit config request past text

theorem Stated.grow {text : String} {headers : List (String × String)}
    (h : Stated config request past text headers) (grown : past ⊆ past') :
    Stated config request past' text headers := by
  rcases h with ⟨miss, missed⟩ | ⟨hit, found⟩
  · exact .inl ⟨miss, missed.grow grown⟩
  · exact .inr ⟨hit, found.grow grown⟩

theorem Answered.stated {response : ChatCompletionResponse} {text : String}
    {headers : List (String × String)} (h : Answered config request past response headers)
    (dumped : ⟨.modelDumpJson response, .ok text⟩ ∈ past) : Stated config request past text headers := by
  rcases h with ⟨miss, body, asks, made⟩ | ⟨hit, found⟩
  · exact .inl ⟨miss, body, response, asks, made, dumped⟩
  · exact .inr ⟨hit, response, found, dumped⟩

end Parts

section Walk
variable (config : GatewayConfig) (request : ChatRequest)

abbrev sourceMonitor : Monitor GatewayOp GatewayRet Exn (List GatewayEvent) :=
  historyMonitor (sourced config request)

/-- What is on record at each stage. -/
def sourceStages : Assertions (List GatewayEvent) :=
  { Assertions.until (fun _ => True) (Sourced config request) with
    screened := fun body _ _ => Asks request body
    looked := fun asked cached past =>
      Own config request asked ∧ ∀ response ∈ cached, Found config request past response
    hit := fun _ cached past => Found config request past cached
    freedHit := fun _ cached past => Found config request past cached
    missed := fun asked _ => Own config request asked
    answered := fun asked received past =>
      Own config request asked ∧ ⟨.chatCompletion asked.body, .ok received⟩ ∈ past
    received := fun asked received past =>
      Own config request asked ∧ ⟨.chatCompletion asked.body, .ok received⟩ ∈ past
    completed := fun asked response _ past =>
      Own config request asked ∧ FromProvider (· ∈ past) asked.body response
    kept := fun asked response _ past =>
      Own config request asked ∧ FromProvider (· ∈ past) asked.body response
    billed := fun response headers past => Answered config request past response headers
    dumped := fun text headers past => Stated config request past text headers
    replaying := fun cached past => Found config request past cached
    streaming := fun asked _ => Own config request asked
    reading := fun asked sent rest _ parts past =>
      Own config request asked ∧ Reading asked.body past sent rest parts
    read := fun asked parts _ past => Own config request asked ∧ Read asked.body past parts
    settled := fun asked parts _ _ past => Own config request asked ∧ Read asked.body past parts
    texted := fun asked parts _ _ past => Own config request asked ∧ Read asked.body past parts
    streamBilled := fun asked parts _ _ past => Own config request asked ∧ Read asked.body past parts }

variable {config request} {α : Type} {p : GatewayProg α} {past : List GatewayEvent}

/-- The kinds of calls that hand nothing on. -/
def silentKinds : List OpKind :=
  [.readResponse, .acquireLock, .releaseLock, .tokenizer, .limiter, .acquireSlot, .releaseSlot,
    .redactor, .detector, .security, .audit, .usage, .metric, .readCache, .chat, .stream, .begin, .clock,
    .dump, .cost]

theorem silent_sourced {op : GatewayOp} (kind : op.kind ∈ silentKinds) (past : List GatewayEvent) :
    sourced config request past op := by
  cases op with
  | storeResponse _ _ _ => exact absurd kind (by simp [GatewayOp.kind, silentKinds])
  | storeCachedCompletion _ _ _ => exact absurd kind (by simp [GatewayOp.kind, silentKinds])
  | yieldFrame _ => exact absurd kind (by simp [GatewayOp.kind, silentKinds])
  | _ => trivial

theorem silent_runs (silent : UsesKinds silentKinds p) (past : List GatewayEvent) :
    Holds (sourceMonitor config request) p (fun r past' => ∃ new, past' = past ++ new ∧ Runs p new r)
      past :=
  silent.holds_history (fun past _ kind => silent_sourced kind past) past

theorem silent_leads {next : Except Exn α → Stage} (silent : UsesKinds silentKinds p)
    (leads : ∀ r past', past ⊆ past' → (sourceStages config request).Reached (next r) past') :
    Holds (sourceMonitor config request) p (fun r => (sourceStages config request).Reached (next r))
      past := by
  refine (silent_runs silent past).mono ?_
  rintro r _ ⟨new, rfl, -⟩
  exact leads r _ (List.subset_append_left _ _)

theorem silent_goes {next : α → Stage} (silent : UsesKinds silentKinds p)
    (leads : ∀ a past', past ⊆ past' → (sourceStages config request).Reached (next a) past') :
    Holds (sourceMonitor config request) p
      (fun r => (sourceStages config request).Reached (onOk next r)) past := by
  refine silent_leads silent fun r past' grown => ?_
  cases r with
  | ok a => exact leads a past' grown
  | error e => trivial

theorem withUsage_given {body : ChatCompletionRequest} {promptTokens : ℕ}
    {received response : ChatCompletionResponse} {usage : Usage} {t : List GatewayEvent}
    (run : Runs (withUsage body promptTokens received) t (.ok (response, usage))) :
    response = { received with usage := some usage } ∧
      ∀ own, received.usage = some own → usage = own := by
  rw [withUsage] at run
  split at run
  · rename_i own given
    obtain ⟨-, same⟩ := runs_done run
    cases same
    refine ⟨?_, fun _ known => Option.some.inj (given.symm.trans known)⟩
    rw [← given]
  · rename_i absent
    obtain ⟨_, _, _, -, -, rest⟩ := runs_bind_ok run
    obtain ⟨-, same⟩ := runs_done rest
    cases same
    refine ⟨rfl, fun own known => ?_⟩
    rw [absent] at known
    cases known

theorem getCachedCompletion_found {body : ChatCompletionRequest} (asks : Asks request body) :
    Holds (sourceMonitor config request)
      (getCachedCompletion config.lib (computeCacheKey config.lib request.tenant.tenantId body))
      (fun r past' => ∀ response, r = .ok (some response) → Found config request past' response)
      past := by
  refine ⟨trivial, fun o _ => ?_⟩
  rcases o with e | _ | raw
  · exact fun _ returned => by cases returned
  · exact fun _ returned => by cases returned
  · simp only [Prog.andThen, Prog.onValue]
    split
    · rename_i response parsed
      rintro _ ⟨⟩
      exact ⟨body, raw, asks, List.mem_append_right _ (.head _), parsed⟩
    · exact fun _ returned => by cases returned

theorem storeCachedCompletion_sourced {body : ChatCompletionRequest} {response : ChatCompletionResponse}
    (asks : Asks request body) (made : FromProvider (· ∈ past) body response) :
    Holds (sourceMonitor config request)
      (storeCachedCompletion config (computeCacheKey config.lib request.tenant.tenantId body) response)
      (fun _ past' => past ⊆ past') past := by
  refine ⟨trivial, fun o _ => ?_⟩
  cases o with
  | error e => exact List.subset_append_left _ _
  | ok text =>
    have grown : past ⊆ past ++ [(⟨.modelDumpJson response, .ok text⟩ : GatewayEvent)] :=
      List.subset_append_left _ _
    refine ⟨⟨body, response, asks, rfl, made.grow grown, List.mem_append_right _ (.head _)⟩, fun o _ => ?_⟩
    exact List.subset_append_of_subset_left _ grown

theorem storeIfCaching_sourced {asked : Asked} {response : ChatCompletionResponse}
    (own : Own config request asked) (made : FromProvider (· ∈ past) asked.body response) :
    Holds (sourceMonitor config request) (storeIfCaching config asked.cacheKey response)
      (fun _ past' => past ⊆ past') past := by
  rw [storeIfCaching.eq_def]
  split
  · rename_i key keyed
    rw [own.key key keyed]
    exact storeCachedCompletion_sourced own.asks made
  · exact List.Subset.refl past

theorem cacheStream_sourced {asked : Asked} {parts : List String} {completionTokens : ℕ}
    (own : Own config request asked) (read : Read asked.body past parts) :
    Holds (sourceMonitor config request)
      (cacheStream config asked.body asked.cacheKey (String.join parts) asked.promptTokens completionTokens)
      (fun _ _ => True) past := by
  rw [cacheStream.eq_def]
  split
  · rename_i key keyed
    split
    · rename_i nonempty
      rw [own.key key keyed]
      refine ⟨trivial, fun o _ => ?_⟩
      cases o with
      | error e => trivial
      | ok hex =>
        refine ⟨trivial, fun o _ => ?_⟩
        cases o with
        | error e => trivial
        | ok created =>
          rcases read with rfl | ⟨stream, sent, rest, started, taken, rfl⟩
          · exact absurd rfl nonempty
          · refine Holds.mono (storeCachedCompletion_sourced own.asks (.streamed ?_ taken _ _ _ _))
              fun _ _ _ => trivial
            exact List.mem_append_left _ (List.mem_append_left _ started)
    · trivial
  · trivial

theorem source_walks (config : GatewayConfig) (request : ChatRequest) :
    Walks (sourceMonitor config request) (sourceStages config request).Reached config request := by
  intro α stage p next piece past reached
  cases piece with
  | @replay key keyed plain =>
    refine ⟨trivial, fun o _ => ?_⟩
    rcases o with e | _ | content
    · trivial
    · trivial
    · exact .inr (.inr ⟨rfl, key, keyed, List.mem_append_right _ (.head _)⟩)
  | lock =>
    refine silent_goes (usesKinds_call rfl) fun acquired _ _ => ?_
    cases acquired <;> trivial
  | unknown => exact silent_goes ((releaseLockIfKeyed_uses _).weaken (by decide)) fun _ _ _ => trivial
  | count => exact silent_goes ((countPromptTokens_uses _ _).weaken (by decide)) fun _ _ _ => trivial
  | limit =>
    refine silent_leads ((enforceRequestLimits_uses _ _ _ _).weaken (by decide)) fun r _ _ => ?_
    rcases r with e | _
    · cases e <;> trivial
    · trivial
  | acquire =>
    refine silent_goes (usesKinds_call rfl) fun acquired _ _ => ?_
    cases acquired <;> trivial
  | refuse =>
    refine silent_goes ?_ fun _ _ _ => trivial
    exact (usesKinds_call rfl).bind fun _ => (usesKinds_call rfl).bind fun _ =>
      (releaseLockIfKeyed_uses _).weaken (by decide)
  | screen promptTokens =>
    refine (silent_runs ((runSecurityPipeline_uses _ _).weaken (by decide)) past).mono ?_
    rintro (e | body) _ ⟨new, rfl, run⟩
    · cases e <;> trivial
    · exact (runSecurityPipeline_screened run).fields
  | block =>
    refine silent_goes ?_ fun _ _ _ => trivial
    exact (usesKinds_call rfl).bind fun _ => (usesKinds_call rfl).bind fun _ =>
      (releaseLockIfKeyed_uses _).weaken (by decide)
  | lookUp body promptTokens =>
    have own : Own config request
        ⟨body, promptTokens, some (computeCacheKey config.lib request.tenant.tenantId body)⟩ :=
      ⟨reached, fun key mem => by cases mem; rfl⟩
    refine (getCachedCompletion_found reached).mono ?_
    rintro (e | cached) past' found
    · trivial
    · refine ⟨own, ?_⟩
      rintro response ⟨⟩
      exact found response rfl
  | uncached body promptTokens => exact ⟨reached, fun key mem => by cases mem⟩
  | noteLookup asked cached =>
    obtain ⟨own, found⟩ := reached
    refine silent_goes (usesKinds_call rfl) fun _ past' grown => ?_
    cases cached with
    | some response => exact (found response rfl).grow grown
    | none => exact own
  | freeHit | beginHit => exact silent_goes (usesKinds_call rfl) fun _ _ grown => Found.grow reached grown
  | billHit =>
    refine silent_goes ((recordUsage_uses _ _ _ _ _ _).weaken (by decide)) fun _ _ grown => ?_
    exact .inr ⟨rfl, Found.grow reached grown⟩
  | unbilledHit => exact .inr ⟨rfl, reached⟩
  | replayChunks cached =>
    refine ⟨.inr ⟨cached, reached, rfl⟩, fun o _ => ?_⟩
    cases o with
    | error e => trivial
    | ok _ => exact ⟨trivial, fun _ _ => trivial⟩
  | billReplay =>
    exact silent_goes ((recordUsage_uses _ _ _ _ _ _).weaken (by decide)) fun _ _ _ => trivial
  | endReplay outcome =>
    refine silent_leads ((releaseLockIfKeyed_uses _).weaken (by decide)) fun r _ _ => ?_
    cases outcome <;> cases r <;> trivial
  | callProvider asked =>
    refine ⟨trivial, fun o _ => ?_⟩
    cases o with
    | ok received => exact ⟨reached, List.mem_append_right _ (.head _)⟩
    | error e => cases e <;> trivial
  | fail =>
    refine silent_leads ?_ fun r _ _ => by cases r <;> trivial
    exact (usesKinds_call rfl).bind fun _ => (usesKinds_call rfl).bind fun _ =>
      (releaseLockIfKeyed_uses _).weaken (by decide)
  | freeRaised | freeStream => exact silent_goes (usesKinds_call rfl) fun _ _ _ => trivial
  | freeAnswered =>
    obtain ⟨own, answer⟩ := reached
    exact silent_goes (usesKinds_call rfl) fun _ _ grown => ⟨own, grown answer⟩
  | complete providerName asked received =>
    obtain ⟨own, answer⟩ := reached
    refine Holds.bind ((silent_runs (usesKinds_call rfl) past).mono ?_)
    rintro (e | u) _ ⟨new, rfl, -⟩
    · trivial
    refine (silent_runs ((withUsage_uses _ _ received).weaken (by decide)) _).mono ?_
    rintro (e | ⟨response, usage⟩) _ ⟨new', rfl, run⟩
    · trivial
    obtain ⟨rfl, given⟩ := withUsage_given run
    refine ⟨own, .answered ?_ usage given⟩
    exact List.mem_append_left _ (List.mem_append_left _ answer)
  | keep asked response usage =>
    obtain ⟨own, made⟩ := reached
    refine (storeIfCaching_sourced own made).mono fun r past' grown => ?_
    cases r with
    | ok _ => exact ⟨own, made.grow grown⟩
    | error e => trivial
  | bill providerName asked response usage =>
    obtain ⟨own, made⟩ := reached
    refine silent_goes ((recordUsage_uses _ _ _ _ _ _).weaken (by decide)) fun _ _ grown => ?_
    exact .inl ⟨rfl, asked.body, own.asks, made.grow grown⟩
  | dump response headers =>
    refine ⟨trivial, fun o _ => ?_⟩
    cases o with
    | error e => trivial
    | ok text =>
      refine Answered.stated (Answered.grow reached ?_) (List.mem_append_right _ (.head _))
      exact List.subset_append_left _ _
  | send text headers =>
    have stated (past' : List GatewayEvent) (grown : past ⊆ past') :
        Sourced config request (.ok (.json text headers)) past' := by
      rcases Stated.grow reached grown with missed | hit
      · exact .inl missed
      · exact .inr (.inl hit)
    have kept : Missed request past text ∨ Hit config request past text := by
      rcases reached with ⟨-, missed⟩ | ⟨-, hit⟩
      · exact .inl missed
      · exact .inr hit
    rw [storeAndReleaseIfKeyed]
    split
    · refine ⟨kept, fun o _ => ?_⟩
      cases o with
      | error e => trivial
      | ok _ =>
        refine silent_goes (usesKinds_call rfl) fun _ past' grown => ?_
        exact stated past' fun e mem => grown (List.mem_append_left _ mem)
    · exact stated past (List.Subset.refl past)
  | beginMissed => exact silent_goes (usesKinds_call rfl) fun _ _ _ => reached
  | startUpstream asked =>
    refine ⟨trivial, fun o _ => ?_⟩
    cases o with
    | error e => exact ⟨reached, .inl rfl⟩
    | ok stream => exact ⟨reached, rfl, stream, List.mem_append_right _ (.head _), rfl⟩
  | yieldChunk asked sent chunk rest ending parts contents readable =>
    obtain ⟨own, reading⟩ := reached
    obtain ⟨rfl, stream, started, taken⟩ := reading
    have first : contentsOf chunk = contents := by rw [contentsOf, readable]
    have collected : sent.flatMap contentsOf ++ contents = (sent ++ [chunk]).flatMap contentsOf := by
      rw [List.flatMap_append, List.flatMap_singleton, first]
    have among : stream.chunks = (sent ++ [chunk]) ++ rest := by
      rw [taken, List.append_assoc, List.singleton_append]
    refine ⟨.inl ⟨asked.body, stream, own.asks, started, ?_⟩, fun o _ => ?_⟩
    · rw [taken]
      exact List.mem_append_right _ (.head _)
    · have now : Reading asked.body past (sent ++ [chunk]) rest (sent.flatMap contentsOf ++ contents) :=
        ⟨collected, stream, started, among⟩
      have later := now.grow (List.subset_append_left past [⟨.yieldFrame (.chunk chunk), o⟩])
      cases o with
      | ok _ => exact ⟨own, later⟩
      | error e => exact ⟨own, later.read⟩
  | unreadable | breakOff =>
    obtain ⟨own, reading⟩ := reached
    exact ⟨own, reading.read⟩
  | finish asked sent parts =>
    obtain ⟨own, reading⟩ := reached
    exact ⟨trivial, fun _ _ => ⟨own, reading.read.grow (List.subset_append_left _ _)⟩⟩
  | report =>
    obtain ⟨own, read⟩ := reached
    exact ⟨trivial, fun _ _ => ⟨own, read.grow (List.subset_append_left _ _)⟩⟩
  | countText providerName asked parts =>
    obtain ⟨own, read⟩ := reached
    exact silent_goes ((countText_uses _ _ _).weaken (by decide)) fun _ _ grown => ⟨own, read.grow grown⟩
  | billStream =>
    obtain ⟨own, read⟩ := reached
    refine silent_goes ((recordUsage_uses _ _ _ _ _ _).weaken (by decide)) fun _ _ grown => ?_
    exact ⟨own, read.grow grown⟩
  | keepStream asked parts completionTokens =>
    obtain ⟨own, read⟩ := reached
    refine (cacheStream_sourced own read).mono fun r _ _ => ?_
    cases r <;> trivial
  | failStream => exact silent_goes ((failStream_uses _ _ _).weaken (by decide)) fun _ _ _ => trivial
  | endStream pendingResult =>
    refine silent_goes ((releaseLockIfKeyed_uses _).weaken (by decide)) fun _ _ _ => ?_
    cases pendingResult <;> trivial
  | unreplayed | unlocked | unbilledReplay => trivial
  | succeed => exact reached

theorem serve_sourced (config : GatewayConfig) (request : ChatRequest) :
    Holds (sourceMonitor config request) (serve config request) (Sourced config request) [] :=
  serve_walks (source_walks config request) trivial

end Walk
end AegisGateway.AnswerSources
