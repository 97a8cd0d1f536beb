import AegisGateway.CanonicalJson
import AegisGateway.ProviderCalls
import AegisGateway.TenantIsolation

set_option autoImplicit false

/-!
# Cache keys

`compute_cache_key` dumps the request anew, apart from the dump that the provider adapter
posts. Two accepted requests have the same key exactly if the tenant is the same and the
payloads are the same value but for their `stream` member.
-/
namespace AegisGateway.CacheKeys
open EffectProgram ProviderCalls
open Json (Proper Same)
open TenantIsolation (RedisKey text_parts)

section Payloads

def payloadOf : ProviderOp → Option JsonObject
  | .post payload | .send payload => some payload
  | _ => none

/-- The adapter can make a request with this payload for the body, streamed or not. -/
def Posts (body : ChatCompletionRequest) (payload : JsonObject) : Prop :=
  ∃ lib config t e, ((∃ r, Runs (chatCompletion lib config body) t r) ∨
    ∃ r, Runs (ProviderCalls.streamChatCompletion lib config body) t r) ∧ e ∈ t ∧ payloadOf e.1 = some payload

def sentPayload (stream : Bool) (body : ChatCompletionRequest) : JsonObject :=
  Json.set "stream" (.bool stream) body.modelDump

variable {α : Type} {payload : JsonObject}

def SendsOnly (payload : JsonObject) (op : ProviderOp) : Prop :=
  ∀ sent, payloadOf op = some sent → sent = payload

theorem sendsOnly_of_none {op : ProviderOp} (h : payloadOf op = none) : SendsOnly payload op := by
  intro sent other
  rw [h] at other
  cases other

theorem sendsOnly_self {op : ProviderOp} (h : payloadOf op = some payload) :
    SendsOnly payload op := by
  intro sent other
  rw [h] at other
  exact (Option.some.inj other).symm

theorem perform_sendsOnly {op : ProviderOp} (h : payloadOf op = none) :
    (ProviderCalls.call op).Uses (SendsOnly payload) :=
  Prog.uses_perform (sendsOnly_of_none h)

theorem guards_sendsOnly (op : ProviderOp) (own : guards op = true) : SendsOnly payload op := by
  apply sendsOnly_of_none
  cases op <;> first
    | rfl
    | cases own

theorem postOnce_uses (lib : Libraries) (payload : JsonObject) :
    (postOnce lib payload).Uses (SendsOnly payload) := by
  refine (Prog.uses_perform (sendsOnly_self rfl)).bind fun response => ?_
  split
  · trivial
  · split <;> trivial

theorem openStream_uses (payload : JsonObject) : (openStream payload).Uses (SendsOnly payload) := by
  refine (Prog.uses_perform (sendsOnly_self rfl)).bind fun statusCode => ?_
  split
  · exact (perform_sendsOnly rfl).bind fun _ => (perform_sendsOnly rfl).bind fun _ => trivial
  · trivial

theorem readStream_sendsOnly (lib : Libraries) (config : ProviderConfig) :
    (readStream lib config).Uses (SendsOnly payload) := by
  have lines (lines : List String) (ending : Option Exn) :
      (readLines lib config lines ending).Uses (SendsOnly payload) := by
    induction lines with
    | nil => cases ending <;> trivial
    | cons line rest ih =>
      rw [readLines]
      split
      · split
        · trivial
        · trivial
        · exact (perform_sendsOnly rfl).bind fun _ => ih
      · exact ih
  exact (perform_sendsOnly rfl).bind fun stream => lines stream.lines stream.ending

theorem chatCompletion_uses (lib : Libraries) (config : ProviderConfig)
    (body : ChatCompletionRequest) :
    (chatCompletion lib config body).Uses (SendsOnly (sentPayload false body)) := by
  refine (runWithBreaker_uses guards_sendsOnly config (postOnce_uses lib _)).bind fun raw => ?_
  split <;> trivial

theorem streamChatCompletion_uses (lib : Libraries) (config : ProviderConfig)
    (body : ChatCompletionRequest) :
    (ProviderCalls.streamChatCompletion lib config body).Uses (SendsOnly (sentPayload true body)) :=
  (runWithBreaker_uses guards_sendsOnly config (openStream_uses _)).bind fun _ =>
    (readStream_sendsOnly lib config).ensure (perform_sendsOnly rfl)

/-- What the adapter posts is the dump with `stream` set. -/
theorem posts_iff (body : ChatCompletionRequest) (payload : JsonObject) :
    Posts body payload ↔ ∃ stream, payload = sentPayload stream body := by
  constructor
  · rintro ⟨lib, config, t, e, ⟨r, run⟩ | ⟨r, run⟩, mem, sent⟩
    · exact ⟨false, (chatCompletion_uses lib config body).of_runs run e mem payload sent⟩
    · exact ⟨true, (streamChatCompletion_uses lib config body).of_runs run e mem payload sent⟩
  · rintro ⟨stream, rfl⟩
    -- The first attempt is made and ends in an exception that is not retried.
    cases stream with
    | false =>
      have run : Runs (chatCompletion silentLibraries ⟨"ollama", 1⟩ body)
          [⟨.beforeCall, .ok ()⟩, ⟨.post (sentPayload false body), .error (.other "")⟩]
          (.error (.other "")) := .call (.call (.done _))
      exact ⟨_, _, _, _, .inl ⟨_, run⟩, .tail _ (.head _), rfl⟩
    | true =>
      have run : Runs (ProviderCalls.streamChatCompletion silentLibraries ⟨"ollama", 1⟩ body)
          [⟨.beforeCall, .ok ()⟩, ⟨.send (sentPayload true body), .error (.other "")⟩]
          (.error (.other "")) := .call (.call (.done _))
      exact ⟨_, _, _, _, .inr ⟨_, run⟩, .tail _ (.head _), rfl⟩

end Payloads

section Accepted

/-- Members that pass through beside the declared fields. -/
structure Extra (declared : List String) (members : JsonObject) : Prop where
  distinct : (members.map Prod.fst).Nodup
  undeclared : ∀ m ∈ members, m.1 ∉ declared
  proper : ∀ m ∈ members, Proper m.2

/-- A message as it is parsed from a JSON body. -/
structure AcceptedMessage (message : ChatMessage) : Prop where
  content : Proper message.content.toJson
  extra : Extra ["role", "content"] message.extra

/-- A request as it is parsed from a JSON body. -/
structure Accepted (body : ChatCompletionRequest) : Prop where
  messages : ∀ message ∈ body.messages, AcceptedMessage message
  extra : Extra ["model", "messages", "stream"] body.extra

theorem withoutNone_distinct {members : JsonObject} (distinct : (members.map Prod.fst).Nodup) :
    ((withoutNone members).map Prod.fst).Nodup :=
  distinct.sublist (List.filter_sublist.map Prod.fst)

theorem withoutNone_proper {members : JsonObject} (each : ∀ m ∈ members, Proper m.2) :
    ∀ m ∈ withoutNone members, Proper m.2 :=
  fun m mem => each m (List.mem_filter.mp mem).1

theorem declared_proper {declared : List String} {extra : JsonObject} (fields : JsonObject)
    (h : Extra declared extra) (distinct : (fields.map Prod.fst).Nodup)
    (known : ∀ m ∈ fields, m.1 ∈ declared) (each : ∀ m ∈ fields, Proper m.2) :
    Proper (.obj (withoutNone (fields ++ extra))) := by
  have keys : ((fields ++ extra).map Prod.fst).Nodup := by
    rw [List.map_append, List.nodup_append]
    refine ⟨distinct, h.distinct, ?_⟩
    intro key mem key' mem' same
    obtain ⟨m, inside, rfl⟩ := List.mem_map.mp mem
    obtain ⟨m', inside', rfl⟩ := List.mem_map.mp mem'
    exact h.undeclared m' inside' (same ▸ known m inside)
  have values : ∀ m ∈ fields ++ extra, Proper m.2 := by
    intro m mem
    rcases List.mem_append.mp mem with mem | mem
    · exact each m mem
    · exact h.proper m mem
  exact .obj (withoutNone_distinct keys) (withoutNone_proper values)

theorem AcceptedMessage.dump_proper {message : ChatMessage} (h : AcceptedMessage message) :
    Proper message.modelDump := by
  have names : ["role", "content"].Nodup := by decide
  refine declared_proper [("role", _), ("content", _)] h.extra names ?_ ?_
  · simp
  · simpa using ⟨Proper.str _, h.content⟩

theorem Accepted.messages_proper {body : ChatCompletionRequest} (h : Accepted body) :
    Proper (.arr (body.messages.map ChatMessage.modelDump)) := by
  refine .arr fun x mem => ?_
  obtain ⟨message, inside, rfl⟩ := List.mem_map.mp mem
  exact (h.messages message inside).dump_proper

theorem Accepted.dump_proper {body : ChatCompletionRequest} (h : Accepted body) :
    Proper (.obj body.modelDumpWithoutStream) := by
  have names : ["model", "messages"].Nodup := by decide
  refine declared_proper [("model", _), ("messages", _)] h.extra names ?_ ?_
  · simp
  · simpa using ⟨Proper.str _, h.messages_proper⟩

end Accepted

section Keys
variable {body body₁ body₂ : ChatCompletionRequest}

def withoutStream (payload : JsonObject) : JsonObject := payload.filter fun m => m.1 ≠ "stream"

/-- Without its `stream` member, what is posted is what is hashed. -/
theorem withoutStream_sentPayload (h : Accepted body) (stream : Bool) :
    withoutStream (sentPayload stream body) = body.modelDumpWithoutStream := by
  have extra : withoutStream (withoutNone body.extra) = withoutNone body.extra := by
    refine List.filter_eq_self.mpr fun m mem => ?_
    have undeclared := h.extra.undeclared m (List.mem_filter.mp mem).1
    simp only [List.mem_cons, not_or] at undeclared
    exact decide_eq_true undeclared.2.2.1
  have dump : body.modelDump = ("model", .str body.model) ::
      ("messages", .arr (body.messages.map ChatMessage.modelDump)) ::
      ("stream", .bool body.stream) :: withoutNone body.extra := rfl
  have dump' : body.modelDumpWithoutStream = ("model", .str body.model) ::
      ("messages", .arr (body.messages.map ChatMessage.modelDump)) :: withoutNone body.extra := rfl
  rw [sentPayload, dump, dump', Json.set, if_neg (by decide), Json.set, if_neg (by decide), Json.set,
    if_pos rfl, withoutStream, List.filter_cons_of_pos (by simp), List.filter_cons_of_pos (by simp),
    List.filter_cons_of_neg (by simp)]
  exact congrArg (fun rest => _ :: _ :: rest) extra

theorem computeCacheKey_eq_iff (lib : Libraries) (tenant₁ tenant₂ : Uuid)
    (body₁ body₂ : ChatCompletionRequest) :
    computeCacheKey lib tenant₁ body₁ = computeCacheKey lib tenant₂ body₂ ↔ tenant₁ = tenant₂ ∧
      lib.sha256Hex (Json.dumps Json.canonicalDump (.obj body₁.modelDumpWithoutStream)) =
        lib.sha256Hex (Json.dumps Json.canonicalDump (.obj body₂.modelDumpWithoutStream)) := by
  constructor
  · intro same
    have texts : (RedisKey.completion body₁).text lib tenant₁ =
        (RedisKey.completion body₂).text lib tenant₂ := same
    obtain ⟨_, tenants, rests⟩ := text_parts texts
    exact ⟨tenants, (String.append_right_inj _).mp rests⟩
  · rintro ⟨rfl, digests⟩
    exact congrArg (fun digest => "cache:completion:" ++ tenant₁.text ++ ":" ++ digest) digests

/-- Without collisions of the hash, the cache key identifies what would be sent. -/
theorem cache_key_eq_iff_same_payload (lib : Libraries)
    (no_collisions : Function.Injective lib.sha256Hex) (tenant₁ tenant₂ : Uuid)
    (accepted₁ : Accepted body₁) (accepted₂ : Accepted body₂) {payload₁ payload₂ : JsonObject}
    (posted₁ : Posts body₁ payload₁) (posted₂ : Posts body₂ payload₂) :
    computeCacheKey lib tenant₁ body₁ = computeCacheKey lib tenant₂ body₂ ↔
      tenant₁ = tenant₂ ∧
        Same (.obj (withoutStream payload₁)) (.obj (withoutStream payload₂)) := by
  obtain ⟨stream₁, rfl⟩ := (posts_iff body₁ payload₁).mp posted₁
  obtain ⟨stream₂, rfl⟩ := (posts_iff body₂ payload₂).mp posted₂
  rw [withoutStream_sentPayload accepted₁, withoutStream_sentPayload accepted₂,
    computeCacheKey_eq_iff, no_collisions.eq_iff,
    Json.dumps_canonical_eq_iff accepted₁.dump_proper accepted₂.dump_proper]

/-- A request with two more fields, in one order or the other. -/
def fieldsRequest (stream : Bool) : ChatCompletionRequest :=
  { helloRequest stream with extra :=
      if stream then [("user", .str "é"), ("temperature", .float "0.5")]
      else [("temperature", .float "0.5"), ("user", .str "é")] }

def fieldsDigest : String := "0e533dd18e7bb1e0feeb1e51111e97078e136c248439120f7a390e0d0698d1b7"

/-- An injective hash with the SHA-256 digest of the request's canonical text. -/
def fieldsLibraries : Libraries :=
  { silentLibraries with sha256Hex := fun text =>
      if text = Json.dumps Json.canonicalDump (.obj (fieldsRequest false).modelDumpWithoutStream) then
        fieldsDigest
      else "x" ++ text }

theorem fieldsLibraries_injective : Function.Injective fieldsLibraries.sha256Hex := by
  have apart (s : String) : "x" ++ s ≠ fieldsDigest := by
    intro same
    have chars := congrArg String.toList same
    simp [fieldsDigest] at chars
  intro a b same
  simp only [fieldsLibraries] at same
  split at same <;> split at same
  · simp_all
  · exact absurd same.symm (apart _)
  · exact absurd same (apart _)
  · simpa using same

theorem fieldsRequest_accepted (stream : Bool) : Accepted (fieldsRequest stream) := by
  have message : AcceptedMessage ⟨"user", .text "hello", []⟩ :=
    ⟨.str _, ⟨by simp, by simp, by simp⟩⟩
  refine ⟨fun m mem => ?_, ?_⟩
  · cases List.mem_singleton.mp mem
    exact message
  · have half : Proper (.float "0.5") := .float (by decide)
    have name : Proper (.str "é") := .str _
    cases stream with
    | true =>
      exact ⟨by decide, by simp [fieldsRequest], by simpa [fieldsRequest] using ⟨name, half⟩⟩
    | false =>
      exact ⟨by decide, by simp [fieldsRequest], by simpa [fieldsRequest] using ⟨half, name⟩⟩

theorem cache_key_eq_iff_same_payload_fields :
    computeCacheKey fieldsLibraries helloTenantId (fieldsRequest true) =
        computeCacheKey fieldsLibraries helloTenantId (fieldsRequest false) ∧
      Same (.obj (withoutStream (sentPayload true (fieldsRequest true))))
        (.obj (withoutStream (sentPayload false (fieldsRequest false)))) := by
  have same : computeCacheKey fieldsLibraries helloTenantId (fieldsRequest true) =
      computeCacheKey fieldsLibraries helloTenantId (fieldsRequest false) := by
    decide +kernel
  have keys := cache_key_eq_iff_same_payload fieldsLibraries fieldsLibraries_injective helloTenantId
    helloTenantId (fieldsRequest_accepted true) (fieldsRequest_accepted false)
    ((posts_iff _ _).mpr ⟨true, rfl⟩) ((posts_iff _ _).mpr ⟨false, rfl⟩)
  exact ⟨same, (keys.mp same).2⟩

end Keys
end AegisGateway.CacheKeys
