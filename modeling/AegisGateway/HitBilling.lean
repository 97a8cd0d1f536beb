import AegisGateway.CacheHits
import AegisGateway.UsageBilling

set_option autoImplicit false

/-!
# The usage rows of cache hits

What a cache hit writes to `usage_records`: one row if the entry has its usage. A plain hit
bills the requested model, a streamed hit the model that the entry names.
-/
namespace AegisGateway.HitBilling
open EffectProgram CacheHits
open UsageBilling (committedRow)

section Rows
variable {t t' : List GatewayEvent}

def rows (t : List GatewayEvent) : List UsageRecord := t.filterMap committedRow

theorem rows_append : rows (t ++ t') = rows t ++ rows t' := List.filterMap_append

theorem rows_eq_nil (other : ∀ e ∈ t, e.1.kind ≠ .usage) : rows t = [] := by
  refine List.filterMap_eq_nil_iff.mpr fun e mem => ?_
  obtain ⟨op, o⟩ := e
  have kind := other _ mem
  cases op <;> first | rfl | exact absurd rfl kind

theorem uses_rows {α : Type} {p : GatewayProg α} {kinds : List OpKind} (uses : UsesKinds kinds p)
    (other : .usage ∉ kinds) {r : Except Exn α} (run : Runs p t r) : rows t = [] :=
  rows_eq_nil fun e mem usage => other (usage ▸ uses.of_runs run e mem)

theorem early_rows (early : Early t) : rows t = [] := by
  have later : OpKind.usage ∉ earlyKinds := by decide
  exact rows_eq_nil fun e mem usage => later (usage ▸ early e mem)

variable {request : ChatRequest} {providerName model : String} {p c : ℤ} {cacheHit : Bool} {α : Type}

theorem recordUsage_rows {r : Except Exn Unit}
    (run : Runs (recordUsage request providerName model p c cacheHit) t r) :
    (∃ cost, ⟨.calculateCostUsd model p c providerName, .ok cost⟩ ∈ t ∧
      rows t = [usageRecord request providerName model p c cacheHit cost]) ∨
      rows t = [] ∧ ∃ e, r = .error e := by
  have setting : UsesKinds [.security]
      (usageSession.setRlsContext (some request.tenant.tenantId) false) := usesKinds_call rfl
  rcases runs_bind run with ⟨e, context, rfl⟩ | ⟨t₁, _, t₂, rfl, context, run⟩
  · exact .inr ⟨uses_rows setting (by decide) context, e, rfl⟩
  have before := uses_rows setting (by decide) context
  have pricing : UsesKinds [.cost] (call (.calculateCostUsd model p c providerName)) := usesKinds_call rfl
  rcases runs_bind run with ⟨e, priced, rfl⟩ | ⟨t₅, cost, t₆, rfl, priced, run⟩
  · refine .inr ⟨?_, e, rfl⟩
    rw [rows_append, before, uses_rows pricing (by decide) priced]
    rfl
  have unpriced := uses_rows pricing (by decide) priced
  rcases runs_bind run with ⟨e, commit, rfl⟩ | ⟨t₃, _, t₄, rfl, commit, run⟩
  · refine .inr ⟨?_, e, rfl⟩
    rw [rows_append, rows_append, before, unpriced, runs_perform commit]
    rfl
  · refine .inl ⟨cost, ?_, ?_⟩
    · rw [runs_perform priced]
      exact List.mem_append_right _ (.head _)
    have metrics : UsesKinds [.metric] (do
        call (.metric (.chatCompletions providerName .success))
        call (.metric (.usageCostUsd providerName cost))
        call (.metric (.usageTokens providerName "prompt" p))
        call (.metric (.usageTokens providerName "completion" c))) :=
      (usesKinds_call rfl).bind fun _ => (usesKinds_call rfl).bind fun _ =>
        (usesKinds_call rfl).bind fun _ => usesKinds_call rfl
    rw [rows_append, rows_append, rows_append, before, unpriced, uses_rows metrics (by decide) run,
      runs_perform commit]
    rfl

/-- The usage of the entry is billed under the model, at the cost that was calculated. Without a
row the entry has no usage, or the run has failed. -/
def Bills (request : ChatRequest) (providerName model : String) (cached : ChatCompletionResponse)
    (t : List GatewayEvent) (r : Except Exn α) : Prop :=
  (∃ usage cost, cached.usage = some usage ∧
    ⟨.calculateCostUsd model usage.promptTokens usage.completionTokens providerName, .ok cost⟩ ∈ t ∧
    rows t = [usageRecord request providerName model usage.promptTokens usage.completionTokens true
      cost]) ∨
  rows t = [] ∧ ∀ a, r = .ok a → cached.usage = none

variable {cached : ChatCompletionResponse} {r : Except Exn α}

theorem Bills.prepend (h : Bills request providerName model cached t' r) (before : rows t = []) :
    Bills request providerName model cached (t ++ t') r := by
  unfold Bills
  rw [rows_append, before, List.nil_append]
  refine h.imp_left ?_
  rintro ⟨usage, cost, used, priced, one⟩
  exact ⟨usage, cost, used, List.mem_append_right _ priced, one⟩

theorem bills_failed {e : Exn} (empty : rows t = []) :
    Bills request providerName model cached t (.error e : Except Exn α) :=
  .inr ⟨empty, fun _ ok => by cases ok⟩

theorem recordUsage_bills {usage : Usage} (used : cached.usage = some usage)
    {f : Unit → GatewayProg α} {kinds : List OpKind} (uses : ∀ u, UsesKinds kinds (f u))
    (other : .usage ∉ kinds)
    (run : Runs (recordUsage request providerName model usage.promptTokens usage.completionTokens true
      >>= f) t r) : Bills request providerName model cached t r := by
  rcases runs_bind run with ⟨e, recorded, rfl⟩ | ⟨t₁, _, t₂, rfl, recorded, rest⟩
  · rcases recordUsage_rows recorded with ⟨cost, priced, one⟩ | ⟨empty, _⟩
    · exact .inl ⟨usage, cost, used, priced, one⟩
    · exact bills_failed empty
  · rcases recordUsage_rows recorded with ⟨cost, priced, one⟩ | ⟨_, e, raised⟩
    · refine .inl ⟨usage, cost, used, List.mem_append_left _ priced, ?_⟩
      rw [rows_append, one, uses_rows (uses _) other rest, List.append_nil]
    · cases raised

theorem finishCachedStream_bills {r : Except Exn Unit}
    (run : Runs (finishCachedStream request providerName cached) t r) :
    Bills request providerName cached.model cached t r := by
  rw [finishCachedStream] at run
  cases used : cached.usage with
  | some usage =>
    simp only [used] at run
    exact recordUsage_bills used (fun _ => releaseLockIfKeyed_uses request) (by decide) run
  | none =>
    simp only [used] at run
    exact .inr ⟨uses_rows (releaseLockIfKeyed_uses request) (by decide) run, fun _ _ => used⟩

/-- However the client reads the stream, the `finally` block bills it. -/
theorem streamCachedCompletion_bills {r : Except Exn Unit}
    (run : Runs (streamCachedCompletion request providerName cached) t r) :
    Bills request providerName cached.model cached t r := by
  obtain ⟨t₁, sent, t₂, rfl, first, rest⟩ := runs_andThen.mp run
  have yields : UsesKinds [.yield] (do
      call (.yieldFrame (.chunk (cachedChunk cached)))
      call (.yieldFrame .finished)) := (usesKinds_call rfl).bind fun _ => usesKinds_call rfl
  refine Bills.prepend ?_ (uses_rows yields (by decide) first)
  obtain ⟨t₃, finished, t₄, rfl, last, done⟩ := runs_andThen.mp rest
  have billed := finishCachedStream_bills last
  cases finished with
  | error e =>
    obtain ⟨rfl, rfl⟩ := runs_done done
    rw [List.append_nil]
    exact billed
  | ok u =>
    obtain ⟨rfl, _⟩ := runs_done done
    rw [List.append_nil]
    exact billed.imp_right fun unbilled => ⟨unbilled.1, fun _ _ => unbilled.2 u rfl⟩

/-- The model that a hit is billed under. -/
def hitModel (body : ChatCompletionRequest) (cached : ChatCompletionResponse) : String :=
  if body.stream then cached.model else body.model

theorem answerFromCache_bills {body : ChatCompletionRequest}
    {r : Except Exn Answer}
    (run : Runs (answerFromCache request providerName body cached >>= deliver) t r) :
    Bills request providerName (hitModel body cached) cached t r := by
  simp only [answerFromCache, Prog.bind_assoc] at run
  have releasing : UsesKinds [.releaseSlot] (releaseSlot request) := usesKinds_call rfl
  rcases runs_bind run with ⟨e, released, rfl⟩ | ⟨t₁, _, t₂, rfl, released, run⟩
  · exact bills_failed (uses_rows releasing (by decide) released)
  refine Bills.prepend ?_ (uses_rows releasing (by decide) released)
  unfold hitModel
  by_cases streaming : body.stream = true
  · rw [if_pos streaming] at run ⊢
    have run : Runs (deliver (.stream .cached (streamCachedCompletion request providerName cached)))
        t₂ r := run
    have beginning : UsesKinds [.begin] (call (.beginStream .cached)) := usesKinds_call rfl
    rcases runs_bind run with ⟨e, begun, rfl⟩ | ⟨t₃, _, t₄, rfl, begun, run⟩
    · exact bills_failed (uses_rows beginning (by decide) begun)
    refine Bills.prepend ?_ (uses_rows beginning (by decide) begun)
    rcases runs_bind run with ⟨e, streamed, rfl⟩ | ⟨t₅, u, t₆, rfl, streamed, run⟩
    · exact (streamCachedCompletion_bills streamed).imp_right fun unbilled =>
        ⟨unbilled.1, fun _ ok => by cases ok⟩
    · obtain ⟨rfl, _⟩ := runs_done run
      rw [List.append_nil]
      exact (streamCachedCompletion_bills streamed).imp_right fun unbilled =>
        ⟨unbilled.1, fun _ _ => unbilled.2 u rfl⟩
  · rw [if_neg streaming] at run ⊢
    have returning (u : Unit) : UsesKinds [.dump, .storeResponse, .releaseLock] (do
        let responseJson ← call (.modelDumpJson cached)
        storeAndReleaseIfKeyed request responseJson
        deliver (.json responseJson [("X-Cache", "hit")])) :=
      (usesKinds_call rfl).bind fun _ =>
        ((storeAndReleaseIfKeyed_uses request _).weaken (by decide)).bind fun _ => trivial
    cases used : cached.usage with
    | some usage =>
      simp only [used, Prog.bind_assoc] at run
      exact recordUsage_bills used returning (by decide) run
    | none =>
      simp only [used, Prog.bind_assoc] at run
      exact .inr ⟨uses_rows (returning ()) (by decide) run, fun _ _ => used⟩

end Rows

section Hits
variable {config : GatewayConfig} {request : ChatRequest} {providerName : String}
  {body : ChatCompletionRequest} {promptTokens : ℕ} {t : List GatewayEvent} {r : Except Exn Answer}
  {key text : String} {cached : ChatCompletionResponse}

theorem answer_bills
    (run : Runs (answer config request providerName body promptTokens >>= deliver) t r)
    (found : ⟨.getCachedCompletion key, .ok (some text)⟩ ∈ t)
    (parsed : config.lib.modelValidateJson text = some cached) :
    Bills request providerName (hitModel body cached) cached t r := by
  obtain ⟨before, after, rfl, looking, rest⟩ := answer_found run found
  have silent : rows before = [] :=
    rows_eq_nil fun e mem usage => absurd (looking e mem) (by rw [usage]; decide)
  rcases rest with ⟨rfl, e, rfl⟩ | ⟨entry, isEntry, rest⟩
  · rw [List.append_nil]
    exact bills_failed silent
  · cases parsed.symm.trans isEntry
    exact (answerFromCache_bills rest).prepend silent

theorem serve_bills (run : Runs (serve config request) t r)
    (found : ⟨.getCachedCompletion key, .ok (some text)⟩ ∈ t)
    (parsed : config.lib.modelValidateJson text = some cached) :
    ∃ providerName, resolve config.providers request.body.model = .ok providerName ∧
      Bills request providerName (hitModel request.body cached) cached t r := by
  rcases serve_early run with early | ⟨pre, rest, providerName, body, tokens, rfl, early, resolved,
    fields, run⟩
  · exact absurd (early _ found) (by simp [GatewayOp.kind, earlyKinds])
  · have found := early.quiet.not_mem (by simp [GatewayOp.kind, quietKinds]) found
    have same : hitModel body cached = hitModel request.body cached := by
      rw [fields]
      rfl
    refine ⟨providerName, resolved, Bills.prepend ?_ (early_rows early)⟩
    rw [← same]
    exact answer_bills run found parsed

end Hits

section Alike

/-- The request, streamed or plain. -/
def withStream (request : ChatRequest) (stream : Bool) : ChatRequest :=
  { request with body := { request.body with stream := stream } }

/-- What a row bills: tenant, key, provider, model, token counts, cost and the cache flag. -/
def billed (row : UsageRecord) :
    Uuid × String × String × String × ℤ × ℤ × ℤ × Decimal × Bool :=
  (row.tenantId, row.apiKeyId, row.provider, row.model, row.promptTokens, row.completionTokens,
    row.totalTokens, row.costUsd, row.cacheHit)

theorem billed_usageRecord_iff (request : ChatRequest) (stream stream' : Bool)
    (providerName model model' : String) (p c : ℤ) (cacheHit : Bool) (cost cost' : ℚ)
    (same_cost : model = model' → cost = cost') :
    billed (usageRecord (withStream request stream) providerName model p c cacheHit cost) =
      billed (usageRecord (withStream request stream') providerName model' p c cacheHit cost') ↔
      model = model' := by
  constructor
  · intro same
    simp only [billed, usageRecord, Prod.mk.injEq] at same
    exact same.2.2.2.1
  · intro same
    rw [same_cost same, same]
    rfl

theorem priced_same {costs : CostFunction} {model providerName : String} {p c : ℤ} {cost cost' : ℚ}
    (first : pricedBy costs ⟨.calculateCostUsd model p c providerName, .ok cost⟩ = true)
    (second : pricedBy costs ⟨.calculateCostUsd model p c providerName, .ok cost'⟩ = true) :
    cost = cost' := by
  have isFirst : costs model p c providerName = some cost := by simpa [pricedBy] using first
  have isSecond : costs model p c providerName = some cost' := by simpa [pricedBy] using second
  exact Option.some.inj (isFirst.symm.trans isSecond)

/-- A streamed and a plain hit of one entry are billed alike exactly if the entry names the
requested model, or has no usage. -/
theorem hits_billed_alike_iff (config : GatewayConfig) (costs : CostFunction) (request : ChatRequest)
    (cached : ChatCompletionResponse) (key key' text : String) (t t' : List GatewayEvent)
    (r r' : Except Exn Answer) (parsed : config.lib.modelValidateJson text = some cached)
    (plain : Runs (serve config (withStream request false)) t r)
    (plainHit : ⟨.getCachedCompletion key, .ok (some text)⟩ ∈ t)
    (streamed : Runs (serve config (withStream request true)) t' r')
    (streamedHit : ⟨.getCachedCompletion key', .ok (some text)⟩ ∈ t')
    (priced : ∀ e ∈ t ++ t', pricedBy costs e = true) :
    (∀ row ∈ rows t, ∀ row' ∈ rows t', billed row' = billed row ↔
      cached.model = request.body.model) ∧
    ∀ a a', r = .ok a → r' = .ok a' →
      ((rows t').map billed = (rows t).map billed ↔
        cached.usage = none ∨ cached.model = request.body.model) := by
  obtain ⟨providerName, resolved, bills⟩ := serve_bills plain plainHit parsed
  obtain ⟨providerName', resolved', bills'⟩ := serve_bills streamed streamedHit parsed
  obtain rfl : providerName = providerName' := Except.ok.inj (resolved.symm.trans resolved')
  have plainModel : hitModel (withStream request false).body cached = request.body.model := rfl
  have streamedModel : hitModel (withStream request true).body cached = cached.model := rfl
  rw [plainModel] at bills
  rw [streamedModel] at bills'
  rcases bills with ⟨usage, cost, used, calculated, one⟩ | ⟨empty, unused⟩
  · rcases bills' with ⟨usage', cost', used', calculated', one'⟩ | ⟨empty', unused'⟩
    · cases used.symm.trans used'
      have alike := billed_usageRecord_iff request true false providerName cached.model
        request.body.model usage.promptTokens usage.completionTokens true cost' cost (by
          intro same
          rw [same] at calculated'
          exact priced_same (priced _ (List.mem_append_right _ calculated'))
            (priced _ (List.mem_append_left _ calculated)))
      rw [one, one']
      constructor
      · intro row mem row' mem'
        rw [List.mem_singleton.mp mem, List.mem_singleton.mp mem']
        exact alike
      · intro _ _ _ _
        rw [List.map_singleton, List.map_singleton, List.singleton_inj, alike, used]
        simp
    · constructor
      · intro _ _ _ mem'
        rw [empty'] at mem'
        cases mem'
      · intro _ a' _ ok'
        cases used.symm.trans (unused' a' ok')
  · constructor
    · intro _ mem
      rw [empty] at mem
      cases mem
    · intro a _ ok _
      have none_used := unused a ok
      rcases bills' with ⟨_, _, used', _⟩ | ⟨empty', _⟩
      · cases none_used.symm.trans used'
      · rw [empty, empty']
        exact iff_of_true rfl (.inl none_used)

end Alike

section LocalModel

/-- The calls of a streamed hit up to its bill. -/
def streaming (cached : ChatCompletionResponse) : List GatewayEvent :=
  [⟨.beginStream .cached, .ok ()⟩, ⟨.yieldFrame (.chunk (cachedChunk cached)), .ok ()⟩,
    ⟨.yieldFrame .finished, .ok ()⟩]

theorem hits_billed_alike_iff_pair :
    (rows (gates true ++ (pairLookup ++ (streaming pairResponse ++ pairUsage true)))).map billed =
      (rows (gates false ++ (pairLookup ++
        (pairUsage true ++ [⟨.modelDumpJson pairResponse, .ok pairDump⟩])))).map billed :=
  ((hits_billed_alike_iff pairConfig exactCosts (cachingChat false) pairResponse pairKey pairKey
    pairDump _ _ _ _ pair_parsed pair_hit_plain (by simp [pairLookup]) pair_hit_streaming
    (by simp [pairLookup]) (by decide +kernel)).2 _ _ rfl rfl).mpr (.inr rfl)

/-- The model under the name that its server gives it. -/
def taggedResponse : ChatCompletionResponse := { pairResponse with model := "llama3:latest" }

/-- `taggedResponse.model_dump_json()`. -/
def taggedDump : String :=
  "\x7b\"id\":\"chatcmpl-1\",\"object\":\"chat.completion\",\"created\":0,\"model\":\"llama3:latest\"," ++
    "\"choices\":[\x7b\"index\":0,\"message\":\x7b\"content\":\"Hello\"\x7d,\"finish_reason\":\"stop\"\x7d," ++
    "\x7b\"index\":1,\"message\":\x7b\"content\":\"Hi\"\x7d,\"finish_reason\":\"length\"\x7d]," ++
    "\"usage\":\x7b\"prompt_tokens\":8,\"completion_tokens\":2,\"total_tokens\":10\x7d\x7d"

def taggedConfig : GatewayConfig :=
  ⟨{ pairLibraries with
    modelValidateJson := fun text => if text = taggedDump then some taggedResponse else none },
    ["ollama"], 300⟩

theorem tagged_parsed : taggedConfig.lib.modelValidateJson taggedDump = some taggedResponse := by
  simp only [taggedConfig, if_true]

def taggedLookup : List GatewayEvent :=
  [⟨.getCachedCompletion pairKey, .ok (some taggedDump)⟩, ⟨.metric (.cacheLookups true), .ok ()⟩,
    ⟨.releaseConcurrencySlot helloTenantId, .ok ()⟩]

/-- The calls that bill a hit on the entry. -/
def taggedUsage (model : String) : List GatewayEvent :=
  [⟨.setRlsContext (some helloTenantId) false, .ok ()⟩,
    ⟨.calculateCostUsd model 8 2 "ollama", .ok (0 : ℚ)⟩,
    ⟨.commitUsageRecord (usageRecord (cachingChat false) "ollama" model 8 2 true 0), .ok ()⟩,
    ⟨.metric (.chatCompletions "ollama" .success), .ok ()⟩,
    ⟨.metric (.usageCostUsd "ollama" 0), .ok ()⟩,
    ⟨.metric (.usageTokens "ollama" "prompt" 8), .ok ()⟩,
    ⟨.metric (.usageTokens "ollama" "completion" 2), .ok ()⟩]

def taggedPlain : List GatewayEvent :=
  gates false ++ (taggedLookup ++
    (taggedUsage "llama3" ++ [⟨.modelDumpJson taggedResponse, .ok taggedDump⟩]))

def taggedStreamed : List GatewayEvent :=
  gates true ++ (taggedLookup ++ (streaming taggedResponse ++ taggedUsage "llama3:latest"))

theorem tagged_hit_plain : Runs (serve taggedConfig (cachingChat false)) taggedPlain
    (.ok (.json taggedDump [("X-Cache", "hit")])) :=
  cachingChat_served rfl (answer_found_local tagged_parsed
    (.call (.call (.call (.call (.call (.call (.call (.call (.call (.done _)))))))))))

theorem tagged_hit_streaming : Runs (serve taggedConfig (cachingChat true)) taggedStreamed
    (.ok .streamed) :=
  cachingChat_served rfl (answer_found_local tagged_parsed (.call (.call (.call (.call (.call (.call
    (.call (.call (.call (.call (.call (.done _)))))))))))))

/-- Plain, the hit is billed under the requested name; streamed, under the entry's. -/
theorem tagged_hits_billed_apart :
    (rows taggedPlain).map UsageRecord.model = ["llama3"] ∧
      (rows taggedStreamed).map UsageRecord.model = ["llama3:latest"] ∧
      ¬ ∀ (config : GatewayConfig) (costs : CostFunction) (request : ChatRequest)
        (cached : ChatCompletionResponse) key key' text t t' r r',
        config.lib.modelValidateJson text = some cached →
        Runs (serve config (withStream request false)) t r →
        ⟨.getCachedCompletion key, .ok (some text)⟩ ∈ t →
        Runs (serve config (withStream request true)) t' r' →
        ⟨.getCachedCompletion key', .ok (some text)⟩ ∈ t' →
        (∀ e ∈ t ++ t', pricedBy costs e = true) →
        ∀ row ∈ rows t, ∀ row' ∈ rows t', billed row' = billed row := by
  have plainRows : rows taggedPlain =
      [usageRecord (cachingChat false) "ollama" "llama3" 8 2 true 0] := rfl
  have streamedRows : rows taggedStreamed =
      [usageRecord (cachingChat false) "ollama" "llama3:latest" 8 2 true 0] := rfl
  rw [plainRows, streamedRows]
  refine ⟨rfl, rfl, ?_⟩
  intro alike
  have same := alike taggedConfig exactCosts (cachingChat false) taggedResponse pairKey pairKey
    taggedDump _ _ _ _ tagged_parsed tagged_hit_plain (by simp [taggedPlain, taggedLookup])
    tagged_hit_streaming (by simp [taggedStreamed, taggedLookup]) (by decide +kernel)
  rw [plainRows, streamedRows] at same
  have model := congrArg (fun columns => columns.2.2.2.1) (same _ (.head _) _ (.head _))
  exact absurd model (by decide)

end LocalModel
end AegisGateway.HitBilling
