import AegisGateway.ProviderGates
import AegisGateway.StreamCaching

set_option autoImplicit false

/-!
# What the client of a cache hit gets

A client reassembles an answer by choice: the text of each index and its finish
reason, whether the answer comes as one JSON body or in chunks. A stream is cached
as one choice that ends with "stop", and a cached answer is streamed as one such
choice, so this says exactly when a hit gives the answer that filled the cache.
-/
namespace AegisGateway.CacheHits
open EffectProgram StreamCaching ProviderGates

section Pieces

/-- What one choice of a body or of a chunk adds to the answer. -/
structure Piece where
  index : Option ℤ
  text : String
  finishReason : Option String
  deriving DecidableEq, Repr

def intOf : Json → Option ℤ
  | .int n => some n
  | _ => none

def strOf : Json → Option String
  | .str s => some s
  | _ => none

/-- The string content of the choice's message, or of its delta. -/
def contentOf (part : String) (choice : JsonObject) : Option String :=
  match Json.get choice part with
  | .obj message => strOf (Json.get message "content")
  | _ => none

def choicePiece (part : String) (choice : JsonObject) : Piece :=
  ⟨intOf (Json.get choice "index"), (contentOf part choice).getD "",
    strOf (Json.get choice "finish_reason")⟩

def answerPieces (response : ChatCompletionResponse) : List Piece :=
  response.choices.map (choicePiece "message")

def chunkChoices : Json → List Json
  | .obj members =>
    match Json.get members "choices" with
    | .arr items => items
    | _ => []
  | _ => []

def deltaPiece : Json → Option Piece
  | .obj choice => some (choicePiece "delta" choice)
  | _ => none

def chunkPieces (chunk : Json) : List Piece := (chunkChoices chunk).filterMap deltaPiece

def piecesText (pieces : List Piece) : String := String.join (pieces.map Piece.text)

/-- The last finish reason that is given. -/
def lastReason (pieces : List Piece) : Option String :=
  (pieces.filterMap Piece.finishReason).getLast?

/-- The answer that the pieces add up to: the text and the finish reason of each choice. -/
def reassembled (pieces : List Piece) (index : Option ℤ) : Option (String × Option String) :=
  match pieces.filter fun piece => piece.index = index with
  | [] => none
  | own => some (piecesText own, lastReason own)

/-- The answer is one choice, with index 0, that stopped by itself. -/
def OneStoppedChoice (pieces : List Piece) : Prop :=
  (∀ piece ∈ pieces, piece.index = some 0) ∧ lastReason pieces = some "stop"

def stoppedPiece (text : String) : Piece := ⟨some 0, text, some "stop"⟩

theorem piecesText_append (pieces more : List Piece) :
    piecesText (pieces ++ more) = piecesText pieces ++ piecesText more := by
  rw [piecesText, List.map_append, String.join_append]
  rfl

theorem reassembled_eq_none_iff {pieces : List Piece} {index : Option ℤ} :
    reassembled pieces index = none ↔ ∀ piece ∈ pieces, piece.index ≠ index := by
  have filtered : (pieces.filter fun piece => piece.index = index) = [] ↔
      ∀ piece ∈ pieces, piece.index ≠ index := by simp
  rw [← filtered, reassembled]
  split
  · rename_i empty
    simp [empty]
  · rename_i nonempty
    simpa using nonempty

theorem reassembled_single (pieces : List Piece) (single : ∀ piece ∈ pieces, piece.index = some 0)
    (nonempty : pieces ≠ []) :
    reassembled pieces (some 0) = some (piecesText pieces, lastReason pieces) := by
  have own : (pieces.filter fun piece => piece.index = some 0) = pieces :=
    List.filter_eq_self.mpr fun piece mem => by simp [single piece mem]
  rw [reassembled, own]
  cases pieces with
  | nil => exact absurd rfl nonempty
  | cons piece rest => rfl

theorem reassembled_stopped_iff (pieces : List Piece) :
    reassembled [stoppedPiece (piecesText pieces)] = reassembled pieces ↔ OneStoppedChoice pieces := by
  have flat : reassembled [stoppedPiece (piecesText pieces)] (some 0) =
      some (piecesText pieces, some "stop") := by
    rw [reassembled_single _ (by simp [stoppedPiece]) (by simp)]
    simp [piecesText, lastReason, stoppedPiece, String.join_cons]
  constructor
  · intro same
    have single : ∀ piece ∈ pieces, piece.index = some 0 := by
      intro piece mem
      by_contra other
      have absent : reassembled [stoppedPiece (piecesText pieces)] piece.index = none := by
        rw [reassembled_eq_none_iff]
        simp only [List.mem_singleton, forall_eq]
        exact fun eq => other eq.symm
      rw [same, reassembled_eq_none_iff] at absent
      exact absent piece mem rfl
    have nonempty : pieces ≠ [] := by
      rintro rfl
      rw [same] at flat
      cases flat
    have here := congrFun same (some 0)
    rw [flat, reassembled_single pieces single nonempty] at here
    refine ⟨single, ?_⟩
    simp only [Option.some.injEq, Prod.mk.injEq, true_and] at here
    exact here.symm
  · rintro ⟨single, stopped⟩
    have nonempty : pieces ≠ [] := by
      rintro rfl
      cases stopped
    funext index
    by_cases zero : index = some 0
    · rw [zero, flat, reassembled_single pieces single nonempty, stopped]
    · have elsewhere : reassembled pieces index = none := by
        rw [reassembled_eq_none_iff]
        intro piece mem eq
        exact zero (eq.symm.trans (single piece mem))
      rw [elsewhere, reassembled_eq_none_iff]
      simp only [List.mem_singleton, forall_eq]
      exact fun eq => zero eq.symm

theorem piecesText_answer (response : ChatCompletionResponse) :
    piecesText (answerPieces response) = completionText response.choices := by
  rw [answerPieces, completionText]
  induction response.choices with
  | nil => rfl
  | cons choice choices ih =>
    have own : piecesText ((choice :: choices).map (choicePiece "message")) =
        (contentOf "message" choice).getD "" ++ piecesText (choices.map (choicePiece "message")) := by
      rw [piecesText, List.map_cons, List.map_cons, String.join_cons]
      rfl
    rw [own, ih, contentOf, List.filterMap_cons]
    cases Json.get choice "message" with
    | obj message =>
      simp only
      cases Json.get message "content" with
      | str content => simp [strOf, String.join_cons]
      | _ => simp [strOf]
    | _ => simp

theorem piecesText_deltas (items : List Json) :
    piecesText (items.filterMap deltaPiece) = String.join (items.filterMap deltaContent) := by
  induction items with
  | nil => rfl
  | cons item items ih =>
    rw [List.filterMap_cons, List.filterMap_cons]
    cases item with
    | obj choice =>
      have own : piecesText (choicePiece "delta" choice :: items.filterMap deltaPiece) =
          (contentOf "delta" choice).getD "" ++ piecesText (items.filterMap deltaPiece) := by
        rw [piecesText, List.map_cons, String.join_cons]
        rfl
      simp only [deltaPiece, deltaContent]
      rw [own, ih, contentOf]
      cases Json.get choice "delta" with
      | obj delta =>
        simp only
        cases Json.get delta "content" with
        | str content => simp [strOf, String.join_cons]
        | _ => simp [strOf]
      | _ => simp
    | _ => exact ih

theorem piecesText_chunk (chunk : Json) (o : Except Exn Unit) :
    piecesText (chunkPieces chunk) = String.join (sentContents ⟨.yieldFrame (.chunk chunk), o⟩) := by
  cases chunk with
  | obj members =>
    rw [chunkPieces, chunkChoices, sentContents, chunkContents]
    cases Json.get members "choices" with
    | arr items =>
      cases items with
      | nil => rfl
      | cons item items => exact piecesText_deltas (item :: items)
    | _ =>
      simp only
      split_ifs <;> rfl
  | _ => rfl

end Pieces

section Clients

def framePieces : GatewayEvent → List Piece
  | ⟨.yieldFrame (.chunk chunk), _⟩ => chunkPieces chunk
  | _ => []

/-- The pieces of the answer that the client has: of the JSON body it got, or of the chunks
it was handed. -/
def clientPieces (lib : Libraries) (t : List GatewayEvent) : Except Exn Answer → List Piece
  | .ok (.json content _) =>
    match lib.modelValidateJson content with
    | some response => answerPieces response
    | none => []
  | _ => t.flatMap framePieces

/-- The answer of the client, as a map from choice indices. -/
def clientAnswer (lib : Libraries) (t : List GatewayEvent) (r : Except Exn Answer) :
    Option ℤ → Option (String × Option String) := reassembled (clientPieces lib t r)

/-- What the upstream answers, a chunk being counted when it is passed on. -/
def upstreamPieces : GatewayEvent → List Piece
  | ⟨.chatCompletion _, .ok received⟩ => answerPieces received
  | ⟨.yieldFrame (.chunk chunk), _⟩ => chunkPieces chunk
  | _ => []

/-- The text of the response is read back as a response with the same indices, contents and finish
reasons. -/
def ReadsBack (lib : Libraries) (response : ChatCompletionResponse) (text : String) : Prop :=
  ∃ readBack, lib.modelValidateJson text = some readBack ∧ answerPieces readBack = answerPieces response

theorem sentText_eq_piecesText (t : List GatewayEvent) :
    sentText t = piecesText (t.flatMap framePieces) := by
  have joined : ∀ e : GatewayEvent, String.join (sentContents e) = piecesText (framePieces e) := by
    rintro ⟨op, o⟩
    cases op with
    | yieldFrame frame =>
      cases frame with
      | chunk chunk => exact (piecesText_chunk chunk o).symm
      | _ => rfl
    | _ => rfl
  induction t with
  | nil => rfl
  | cons e t ih =>
    rw [List.flatMap_cons, piecesText_append, ← ih, ← joined e, sentText, List.flatMap_cons,
      String.join_append]
    rfl

/-- The kinds of calls that neither carry a part of the answer nor use the cache. -/
def quietKinds : List OpKind :=
  [.readResponse, .acquireLock, .releaseLock, .storeResponse, .tokenizer, .limiter, .acquireSlot,
    .releaseSlot, .redactor, .detector, .security, .audit, .usage, .metric, .stream, .begin, .clock, .dump,
    .cost]

def Quiet (t : List GatewayEvent) : Prop := ∀ e ∈ t, e.1.kind ∈ quietKinds

theorem silent_pieces {t : List GatewayEvent}
    (silent : ∀ e ∈ t, e.1.kind ∈ OpKind.readCache :: .writeCache :: quietKinds) :
    t.flatMap upstreamPieces = [] ∧ t.flatMap framePieces = [] := by
  have each : ∀ e ∈ t, upstreamPieces e = [] ∧ framePieces e = [] := by
    rintro ⟨op, o⟩ mem
    have kind := silent _ mem
    cases op <;> first | exact ⟨rfl, rfl⟩ | exact absurd kind (by simp [GatewayOp.kind, quietKinds])
  exact ⟨List.flatMap_eq_nil_iff.mpr fun e mem => (each e mem).1,
    List.flatMap_eq_nil_iff.mpr fun e mem => (each e mem).2⟩

theorem Quiet.pieces {t : List GatewayEvent} (quiet : Quiet t) :
    t.flatMap upstreamPieces = [] ∧ t.flatMap framePieces = [] :=
  silent_pieces fun e mem => .tail _ (.tail _ (quiet e mem))

theorem uses_pieces {α : Type} {p : GatewayProg α} {kinds : List OpKind} (uses : UsesKinds kinds p)
    (silent : kinds ⊆ .readCache :: .writeCache :: quietKinds) {t : List GatewayEvent}
    {r : Except Exn α} (run : Runs p t r) :
    t.flatMap upstreamPieces = [] ∧ t.flatMap framePieces = [] :=
  silent_pieces fun e mem => silent (uses.of_runs run e mem)

theorem runs_behind {α β : Type} {p : GatewayProg α} {f : α → GatewayProg β} {t : List GatewayEvent}
    {r : Except Exn β} {kinds : List OpKind} (uses : UsesKinds kinds p) (run : Runs (p >>= f) t r)
    {e : GatewayEvent} (mem : e ∈ t) (other : e.1.kind ∉ kinds) :
    ∃ t₁ a t₂, t = t₁ ++ t₂ ∧ Runs p t₁ (.ok a) ∧ Runs (f a) t₂ r ∧ e ∈ t₂ := by
  rcases runs_bind run with ⟨_, first, _⟩ | ⟨t₁, a, t₂, rfl, first, second⟩
  · exact absurd (uses.of_runs first e mem) other
  · rcases List.mem_append.mp mem with mem | mem
    · exact absurd (uses.of_runs first e mem) other
    · exact ⟨t₁, a, t₂, rfl, first, second, mem⟩

theorem Quiet.not_mem {t t' : List GatewayEvent} (quiet : Quiet t) {e : GatewayEvent}
    (cache : e.1.kind ∉ quietKinds) (mem : e ∈ t ++ t') : e ∈ t' := by
  rcases List.mem_append.mp mem with mem | mem
  · exact absurd (quiet e mem) cache
  · exact mem

end Clients

section Serving
variable {config : GatewayConfig} {request : ChatRequest} {t : List GatewayEvent}
  {r : Except Exn Answer}

/-- The kinds of the calls before the cache lookup. -/
def earlyKinds : List OpKind :=
  [.readResponse, .acquireLock, .releaseLock, .tokenizer, .limiter, .acquireSlot, .releaseSlot,
    .redactor, .detector, .security, .audit, .metric]

def Early (t : List GatewayEvent) : Prop := ∀ e ∈ t, e.1.kind ∈ earlyKinds

theorem early_of_uses {α : Type} {p : GatewayProg α} {kinds : List OpKind} (uses : UsesKinds kinds p)
    (early : kinds ⊆ earlyKinds) {t : List GatewayEvent} {r : Except Exn α} (run : Runs p t r) :
    Early t := fun e mem => early (uses.of_runs run e mem)

theorem Early.append {t t' : List GatewayEvent} (h : Early t) (h' : Early t') : Early (t ++ t') :=
  List.forall_mem_append.mpr ⟨h, h'⟩

theorem Early.quiet {t : List GatewayEvent} (h : Early t) : Quiet t := by
  have among : earlyKinds ⊆ quietKinds := by decide
  exact fun e mem => among (h e mem)

/-- The request gets as far as the cache lookup, for the provider that its model names and with
nothing but its messages changed. -/
def AnswersAs (config : GatewayConfig) (request : ChatRequest) (t : List GatewayEvent)
    (r : Except Exn Answer) : Prop :=
  ∃ pre rest providerName body promptTokens, t = pre ++ rest ∧ Early pre ∧
    resolve config.providers request.body.model = .ok providerName ∧
    body = { request.body with messages := body.messages } ∧
    Runs (answer config request providerName body promptTokens >>= deliver) rest r

theorem runs_early_bind {α : Type} {p : GatewayProg α} {f : α → GatewayProg Answer}
    {kinds : List OpKind} (uses : UsesKinds kinds p) (early : kinds ⊆ earlyKinds)
    (run : Runs (p >>= f) t r)
    (next : ∀ a t₁ t₂, Runs p t₁ (.ok a) → Runs (f a) t₂ r → Early t₂ ∨ AnswersAs config request t₂ r) :
    Early t ∨ AnswersAs config request t r := by
  rcases runs_bind run with ⟨e, first, _⟩ | ⟨t₁, a, t₂, rfl, first, second⟩
  · exact .inl (early_of_uses uses early first)
  · have before := early_of_uses uses early first
    rcases next a t₁ t₂ first second with after | ⟨pre, rest, name, body, tokens, rfl, early', same, run'⟩
    · exact .inl (before.append after)
    · refine .inr ⟨t₁ ++ pre, rest, name, body, tokens, ?_, before.append early', same, run'⟩
      rw [List.append_assoc]

theorem process_answers (run : Runs (process config request >>= deliver) t r) :
    Early t ∨ AnswersAs config request t r := by
  rw [process] at run
  cases resolved : resolve config.providers request.body.model with
  | error message =>
    rw [resolved] at run
    simp only [Prog.bind_assoc] at run
    refine runs_early_bind (releaseLockIfKeyed_uses request) (by decide) run ?_
    intro _ _ t₂ _ second
    obtain ⟨rfl, _⟩ := runs_done second
    exact .inl (by simp [Early])
  | ok providerName =>
    rw [resolved] at run
    simp only [Prog.bind_assoc] at run
    refine runs_early_bind (countPromptTokens_uses _ _) (by decide) run ?_
    intro promptTokens _ _ _ run
    refine runs_early_bind (enforceLimits_uses _ _ _) (by decide) run ?_
    intro _ _ _ _ run
    refine runs_early_bind (screen_uses _ _ _) (by decide) run ?_
    intro body _ t₂ screened run
    have fields := (screen_screened screened).fields
    exact .inr ⟨[], t₂, providerName, body, promptTokens, rfl, by simp [Early], resolved, fields, run⟩

theorem serve_early (run : Runs (serve config request) t r) :
    Early t ∨ AnswersAs config request t r := by
  have locked (t : List GatewayEvent) (run : Runs (lockAndProcess config request >>= deliver) t r) :
      Early t ∨ AnswersAs config request t r := by
    rw [lockAndProcess] at run
    cases key_eq : request.key with
    | none =>
      rw [key_eq] at run
      exact process_answers run
    | some key =>
      rw [key_eq] at run
      simp only [Prog.bind_assoc] at run
      have uses : UsesKinds [.acquireLock] (call (.tryAcquireLock request.tenant.tenantId key)) :=
        usesKinds_call rfl
      refine runs_early_bind uses (by decide) run ?_
      intro acquired _ t₂ _ run
      cases acquired with
      | true => exact process_answers run
      | false =>
        obtain ⟨rfl, _⟩ := runs_done run
        exact .inl (by simp [Early])
  rw [serve, chatCompletions] at run
  split at run
  · rename_i key _ _
    have uses : UsesKinds [.readResponse] (call (.getCachedResponse request.tenant.tenantId key)) :=
      usesKinds_call rfl
    rw [Prog.bind_assoc] at run
    refine runs_early_bind uses (by decide) run ?_
    intro cached _ t₂ _ run
    cases cached with
    | some content =>
      obtain ⟨rfl, _⟩ := runs_done run
      exact .inl (by simp [Early])
    | none => exact locked t₂ run
  · exact locked t run

/-- The request gets as far as the cache lookup, after quiet calls only. -/
def AnswersIn (config : GatewayConfig) (request : ChatRequest) (t : List GatewayEvent)
    (r : Except Exn Answer) : Prop :=
  ∃ pre rest providerName body promptTokens, t = pre ++ rest ∧ Quiet pre ∧
    body.stream = request.body.stream ∧
    Runs (answer config request providerName body promptTokens >>= deliver) rest r

theorem serve_answers (run : Runs (serve config request) t r) :
    Quiet t ∨ AnswersIn config request t r := by
  rcases serve_early run with early | ⟨pre, rest, name, body, tokens, rfl, early, _, fields, run⟩
  · exact .inl early.quiet
  · exact .inr ⟨pre, rest, name, body, tokens, rfl, early.quiet, by rw [fields], run⟩

end Serving

section Filling
variable {config : GatewayConfig} {request : ChatRequest} {providerName : String}
  {body : ChatCompletionRequest} {promptTokens : ℕ} {cacheKey : Option String}
  {t : List GatewayEvent} {r : Except Exn Answer} {key text : String} {ttlSeconds : ℤ}
  {stored : Except Exn Unit}

/-- The response has been dumped to this text. -/
def DumpedTo (response : ChatCompletionResponse) (text : String) (t : List GatewayEvent) : Prop :=
  ⟨.modelDumpJson response, .ok text⟩ ∈ t

/-- The filling client has the upstream's answer, and the stored text is a response with the
same text, that has the same choices or is flat. -/
def Filled (streaming : Bool) (t : List GatewayEvent) (r : Except Exn Answer) (text : String) : Prop :=
  ∃ response, DumpedTo response text t ∧
    if streaming then
      answerPieces response = [stoppedPiece (piecesText (t.flatMap framePieces))] ∧
        t.flatMap upstreamPieces = t.flatMap framePieces ∧
        ∀ content headers, r ≠ .ok (.json content headers)
    else
      t.flatMap upstreamPieces = answerPieces response ∧
        ∀ answered, r = .ok answered →
          ∃ content headers, answered = .json content headers ∧ DumpedTo response content t

theorem Filled.prepend {streaming : Bool} (h : Filled streaming t r text)
    {before : List GatewayEvent}
    (silent : before.flatMap upstreamPieces = [] ∧ before.flatMap framePieces = []) :
    Filled streaming (before ++ t) r text := by
  obtain ⟨response, written, rest⟩ := h
  refine ⟨response, List.mem_append_right _ written, ?_⟩
  simp only [List.flatMap_append, silent.1, silent.2, List.nil_append]
  cases streaming with
  | true => exact rest
  | false =>
    refine ⟨rest.1, fun answered returned => ?_⟩
    obtain ⟨content, headers, json, dumped⟩ := rest.2 answered returned
    exact ⟨content, headers, json, List.mem_append_right _ dumped⟩

theorem callProvider_ok {received : ChatCompletionResponse}
    (run : Runs (callProvider request providerName body) t (.ok received)) :
    t.flatMap upstreamPieces = answerPieces received := by
  obtain ⟨t₁, r₁, t₂, rfl, first, second⟩ := runs_andThen.mp run
  obtain ⟨t₃, r₂, t₄, rfl, released, done⟩ := runs_andThen.mp second
  rw [runs_perform released]
  cases r₂ with
  | error e => cases (runs_done done).2
  | ok _ =>
    obtain ⟨rfl, rfl⟩ := runs_done done
    have asked : Runs (call (.chatCompletion body)) t₁ (.ok received) := by
      apply runs_handle_ok _ first
      intro exc
      cases exc with
      | provider e => exact .after fun _ => .after fun _ => .after fun _ => Prog.neverReturns_raise _
      | _ => exact Prog.neverReturns_raise _
    rw [runs_perform asked]
    simp [upstreamPieces]

theorem withUsage_choices {received response : ChatCompletionResponse} {usage : Usage}
    (run : Runs (withUsage body promptTokens received) t (.ok (response, usage))) :
    response.choices = received.choices := by
  rw [withUsage] at run
  split at run
  · cases (runs_done run).2
    rfl
  · obtain ⟨_, _, _, _, _, rest⟩ := runs_bind_ok run
    cases (runs_done rest).2
    rfl

theorem dumps_uses (response : ChatCompletionResponse) : UsesKinds [.dump] (call (.modelDumpJson response)) :=
  usesKinds_call rfl

theorem stored_dumped {cacheKey : String} {response : ChatCompletionResponse} {r : Except Exn Unit}
    (run : Runs (storeCachedCompletion config cacheKey response) t r)
    (mem : ⟨.storeCachedCompletion key text ttlSeconds, stored⟩ ∈ t) : DumpedTo response text t := by
  obtain ⟨t₁, written, t₂, rfl, dumped, stores, mem⟩ :=
    runs_behind (dumps_uses response) run mem (by simp [GatewayOp.kind])
  rw [runs_perform stores] at mem
  cases List.mem_singleton.mp mem
  rw [runs_perform dumped]
  exact .head _

theorem stored_text {response : ChatCompletionResponse} {r : Except Exn Unit}
    (run : Runs (storeIfCaching config cacheKey response) t r)
    (mem : ⟨.storeCachedCompletion key text ttlSeconds, stored⟩ ∈ t) : DumpedTo response text t := by
  cases cacheKey with
  | none =>
    obtain ⟨rfl, _⟩ := runs_done run
    cases mem
  | some cacheKey => exact stored_dumped run mem

theorem answerFromProvider_filled
    (run : Runs (answerFromProvider config request providerName body promptTokens cacheKey >>=
      deliver) t r)
    (mem : ⟨.storeCachedCompletion key text ttlSeconds, stored⟩ ∈ t) :
    Filled false t r text := by
  simp only [answerFromProvider, bookAnswer, Prog.bind_assoc] at run
  obtain ⟨t₁, received, t₂, rfl, asked, run, mem⟩ :=
    runs_behind (callProvider_uses request providerName body) run mem (by simp [GatewayOp.kind])
  have timing (m : Metric) : UsesKinds [.metric] (call (.metric m)) := usesKinds_call rfl
  obtain ⟨t₃, _, t₄, rfl, timed, run, mem⟩ := runs_behind (timing _) run mem (by simp [GatewayOp.kind])
  obtain ⟨t₅, ⟨response, usage⟩, t₆, rfl, counted, run, mem⟩ :=
    runs_behind (withUsage_uses body promptTokens received) run mem (by simp [GatewayOp.kind])
  -- the rest returns what was stored, and carries no part of the answer
  have sending (content : String) : UsesKinds [.storeResponse, .releaseLock] (do
      storeAndReleaseIfKeyed request content
      deliver (.json content [("X-Cache", "miss")])) :=
    (storeAndReleaseIfKeyed_uses _ _).bind fun _ => trivial
  have booked : UsesKinds [.security, .cost, .usage, .metric, .dump, .storeResponse, .releaseLock] (do
      recordUsage request providerName body.model usage.promptTokens usage.completionTokens false
      let responseJson ← call (.modelDumpJson response)
      storeAndReleaseIfKeyed request responseJson
      deliver (.json responseJson [("X-Cache", "miss")])) :=
    ((recordUsage_uses _ _ _ _ _ _).weaken (by decide)).bind fun _ =>
      ((dumps_uses _).weaken (by decide)).bind fun content => (sending content).weaken (by decide)
  have written : DumpedTo response text t₆ := by
    rcases runs_bind run with ⟨_, storing, _⟩ | ⟨t₇, _, t₈, rfl, storing, rest⟩
    · exact stored_text storing mem
    · rcases List.mem_append.mp mem with mem | mem
      · exact List.mem_append_left _ (stored_text storing mem)
      · exact absurd (booked.of_runs rest _ mem) (by simp [GatewayOp.kind])
  have storing : UsesKinds [.writeCache, .security, .cost, .usage, .metric, .dump, .storeResponse, .releaseLock]
      (storeIfCaching config cacheKey response >>= fun _ => _) :=
    ((storeIfCaching_uses config cacheKey response).weaken (by decide)).bind fun _ =>
      booked.weaken (by decide)
  have behind {e : GatewayEvent} (mem : e ∈ t₆) : e ∈ t₁ ++ (t₃ ++ (t₅ ++ t₆)) :=
    List.mem_append_right _ (List.mem_append_right _ (List.mem_append_right _ mem))
  refine ⟨response, behind written, ?_, ?_⟩
  · simp only [List.flatMap_append, callProvider_ok asked, (uses_pieces (timing _) (by decide) timed).1,
      (uses_pieces (withUsage_uses _ _ _) (by decide) counted).1,
      (uses_pieces storing (by decide) run).1, List.append_nil]
    rw [answerPieces, answerPieces, withUsage_choices counted]
  · rintro answered rfl
    obtain ⟨t₇, _, t₈, rfl, _, run⟩ := runs_bind_ok run
    obtain ⟨t₉, _, t₁₀, rfl, _, run⟩ := runs_bind_ok run
    obtain ⟨t₁₁, content, t₁₂, rfl, dumped, run⟩ := runs_bind_ok run
    obtain ⟨_, _, _, _, _, run⟩ := runs_bind_ok run
    cases (runs_done run).2
    refine ⟨content, _, rfl, behind ?_⟩
    rw [runs_perform dumped]
    exact List.mem_append_right _ (List.mem_append_right _ (.head _))

theorem cacheStream_text {completionText : String} {completionTokens : ℕ} {r : Except Exn Unit}
    (run : Runs (cacheStream config body cacheKey completionText promptTokens completionTokens) t r)
    (mem : ⟨.storeCachedCompletion key text ttlSeconds, stored⟩ ∈ t) :
    ∃ hex created, DumpedTo
      (cacheableResponse body completionText promptTokens completionTokens hex created) text t := by
  cases cacheKey with
  | none =>
    obtain ⟨rfl, _⟩ := runs_done run
    cases mem
  | some cacheKey =>
    rw [cacheStream] at run
    split at run
    · have clock (op : GatewayOp) (kind : op.kind = .clock) : UsesKinds [.clock] (call op) :=
        Prog.uses_perform (by rw [kind]; exact .head _)
      obtain ⟨_, hex, _, rfl, _, run, mem⟩ := runs_behind (clock .uuid4Hex rfl) run mem (by simp [GatewayOp.kind])
      obtain ⟨_, created, _, rfl, _, run, mem⟩ := runs_behind (clock .timeTime rfl) run mem (by simp [GatewayOp.kind])
      exact ⟨hex, created, List.mem_append_right _ (List.mem_append_right _ (stored_dumped run mem))⟩
    · obtain ⟨rfl, _⟩ := runs_done run
      cases mem

theorem bookStream_text {succeeded : Bool} {parts : List String} {r : Except Exn Unit}
    (run : Runs (bookStream config request providerName body promptTokens cacheKey succeeded parts) t r)
    (mem : ⟨.storeCachedCompletion key text ttlSeconds, stored⟩ ∈ t) :
    ∃ completionTokens hex created, DumpedTo
      (cacheableResponse body (String.join parts) promptTokens completionTokens hex created) text t := by
  have timing (m : Metric) : UsesKinds [.metric] (call (.metric m)) := usesKinds_call rfl
  obtain ⟨_, _, _, rfl, _, run, mem⟩ := runs_behind (timing _) run mem (by simp [GatewayOp.kind])
  cases succeeded with
  | true =>
    obtain ⟨_, tokens, _, rfl, _, run, mem⟩ :=
      runs_behind (countTextTokens_uses _ _) run mem (by simp [GatewayOp.kind])
    obtain ⟨_, _, _, rfl, _, run, mem⟩ :=
      runs_behind (recordUsage_uses _ _ _ _ _ _) run mem (by simp [GatewayOp.kind])
    obtain ⟨hex, created, dumped⟩ := cacheStream_text run mem
    refine ⟨tokens, hex, created, List.mem_append_right _ ?_⟩
    exact List.mem_append_right _ (List.mem_append_right _ dumped)
  | false =>
    obtain ⟨_, _, _, rfl, _, run, mem⟩ := runs_behind (timing _) run mem (by simp [GatewayOp.kind])
    obtain ⟨_, _, _, rfl, _, run, mem⟩ :=
      runs_behind (countTextTokens_uses _ _) run mem (by simp [GatewayOp.kind])
    obtain ⟨rfl, _⟩ := runs_done run
    cases mem

theorem finishStream_text {succeeded : Bool} {parts : List String} {r : Except Exn Unit}
    (run : Runs (finishStream config request providerName body promptTokens cacheKey succeeded parts)
      t r)
    (mem : ⟨.storeCachedCompletion key text ttlSeconds, stored⟩ ∈ t) :
    ∃ completionTokens hex created, DumpedTo
      (cacheableResponse body (String.join parts) promptTokens completionTokens hex created) text t := by
  have released : UsesKinds [.releaseSlot, .releaseLock] (do
      releaseSlot request
      releaseLockIfKeyed request) :=
    (usesKinds_call rfl).bind fun _ => (releaseLockIfKeyed_uses request).weaken (by decide)
  rcases runs_bind run with ⟨_, booked, _⟩ | ⟨_, _, _, rfl, booked, rest⟩
  · exact bookStream_text booked mem
  · rcases List.mem_append.mp mem with mem | mem
    · obtain ⟨tokens, hex, created, dumped⟩ := bookStream_text booked mem
      exact ⟨tokens, hex, created, List.mem_append_left _ dumped⟩
    · exact absurd (released.of_runs rest _ mem) (by simp [GatewayOp.kind])

theorem upstream_eq_frames {t : List GatewayEvent} (streamed : ∀ e ∈ t, e.1.kind ≠ .chat) :
    t.flatMap upstreamPieces = t.flatMap framePieces := by
  rw [List.flatMap_def, List.flatMap_def]
  congr 1
  apply List.map_congr_left
  rintro ⟨op, o⟩ mem
  have kind := streamed _ mem
  cases op with
  | chatCompletion body => exact absurd rfl kind
  | yieldFrame frame => cases frame <;> rfl
  | _ => rfl

theorem streamChatCompletion_filled {r : Except Exn Unit}
    (run : Runs (streamChatCompletion config request providerName body promptTokens cacheKey) t r)
    (mem : ⟨.storeCachedCompletion key text ttlSeconds, stored⟩ ∈ t) :
    ∃ completionTokens hex created, DumpedTo (cacheableResponse body (sentText t) promptTokens
      completionTokens hex created) text t := by
  obtain ⟨upstream, sent, frames, finish, outcome, succeeded, r', rfl, yields, errorFrames, _, _,
    finished⟩ := streamChatCompletion_runs run
  have in_finish : ⟨.storeCachedCompletion key text ttlSeconds, stored⟩ ∈ finish := by
    rw [List.mem_cons, List.mem_append, List.mem_append] at mem
    rcases mem with eq | mem | mem | mem
    · cases eq
    · exact absurd (yields _ mem) (by simp [isYield])
    · exact absurd (errorFrames _ mem) (by simp [isErrorFrame])
    · exact mem
  have sent_eq : sentText (⟨.streamChatCompletion body, upstream⟩ :: (sent ++ (frames ++ finish))) =
      sentText sent := (only_chunks_count errorFrames finished).2
  rw [sent_eq]
  obtain ⟨tokens, hex, created, dumped⟩ := finishStream_text finished in_finish
  refine ⟨tokens, hex, created, .tail _ (List.mem_append_right _ ?_)⟩
  exact List.mem_append_right _ dumped

theorem deliver_filled
    (run : Runs (deliver (.stream .provider
      (streamChatCompletion config request providerName body promptTokens cacheKey))) t r)
    (mem : ⟨.storeCachedCompletion key text ttlSeconds, stored⟩ ∈ t) :
    Filled true t r text := by
  have begins : UsesKinds [.begin] (call (.beginStream .provider)) := usesKinds_call rfl
  obtain ⟨t₁, _, t₂, rfl, begun, run, mem⟩ := runs_behind begins run mem (by simp [GatewayOp.kind])
  obtain ⟨r', generated, unlike⟩ : ∃ r', Runs (streamChatCompletion config request providerName body
      promptTokens cacheKey) t₂ r' ∧ ∀ content headers, r ≠ .ok (.json content headers) := by
    rcases runs_bind run with ⟨e, first, rfl⟩ | ⟨t₃, _, t₄, rfl, first, rest⟩
    · exact ⟨_, first, by simp⟩
    · obtain ⟨rfl, rfl⟩ := runs_done rest
      exact ⟨_, by rwa [List.append_nil], by simp⟩
  obtain ⟨completionTokens, hex, created, written⟩ := streamChatCompletion_filled generated mem
  have streamed : ∀ e ∈ t₂, e.1.kind ≠ .chat := by
    intro e mem chat
    have kind := (streamChatCompletion_uses config request providerName body promptTokens
      cacheKey).of_runs generated e mem
    rw [chat] at kind
    exact absurd kind (by decide)
  have silent := uses_pieces begins (by decide) begun
  refine ⟨_, List.mem_append_right _ written, ?_, ?_, unlike⟩
  · rw [List.flatMap_append, silent.2, List.nil_append, ← sentText_eq_piecesText]
    rfl
  · rw [List.flatMap_append, List.flatMap_append, silent.1, silent.2, upstream_eq_frames streamed]

theorem missed_filled
    (run : Runs ((if body.stream then pure (.stream .provider
        (streamChatCompletion config request providerName body promptTokens cacheKey))
      else answerFromProvider config request providerName body promptTokens cacheKey) >>= deliver) t r)
    (mem : ⟨.storeCachedCompletion key text ttlSeconds, stored⟩ ∈ t) :
    Filled body.stream t r text := by
  by_cases streaming : body.stream = true
  · rw [if_pos streaming] at run
    rw [streaming]
    exact deliver_filled run mem
  · rw [if_neg streaming] at run
    rw [Bool.eq_false_iff.mpr streaming]
    exact answerFromProvider_filled run mem

/-- The kinds of calls that follow a hit. -/
def hitKinds : List OpKind :=
  [.begin, .yield, .releaseSlot, .security, .cost, .usage, .metric, .dump, .storeResponse, .releaseLock]

theorem answerFromCache_kinds {cached : ChatCompletionResponse}
    (run : Runs (answerFromCache request providerName body cached >>= deliver) t r) :
    ∀ e ∈ t, e.1.kind ∈ hitKinds := by
  have uses : UsesKinds hitKinds (answerFromCache request providerName body cached) :=
    (answerFromCache_uses request providerName body cached).weaken (by decide)
  rcases runs_bind run with ⟨_, first, _⟩ | ⟨t₁, response, t₂, rfl, first, rest⟩
  · exact uses.of_runs first
  · have delivered : UsesKinds hitKinds (deliver response) := by
      rcases answerFromCache_returns first with ⟨content, headers, rfl⟩ | rfl
      · trivial
      · refine (usesKinds_call rfl).bind fun _ => ?_
        exact ((streamCachedCompletion_uses request providerName cached).weaken (by decide)).bind
          fun _ => trivial
    exact List.forall_mem_append.mpr ⟨uses.of_runs first, delivered.of_runs rest⟩

theorem answer_filled
    (run : Runs (answer config request providerName body promptTokens >>= deliver) t r)
    (mem : ⟨.storeCachedCompletion key text ttlSeconds, stored⟩ ∈ t) :
    Filled body.stream t r text := by
  rw [answer] at run
  split at run
  · simp only [Prog.bind_assoc] at run
    obtain ⟨t₁, cached, t₂, rfl, looked, run, mem⟩ :=
      runs_behind (getCachedCompletion_uses _ _) run mem (by simp [GatewayOp.kind])
    have counting : UsesKinds [.metric] (call (.metric (.cacheLookups cached.isSome))) :=
      usesKinds_call rfl
    obtain ⟨t₃, _, t₄, rfl, counted, run, mem⟩ := runs_behind counting run mem (by simp [GatewayOp.kind])
    cases cached with
    | some response =>
      have kind := answerFromCache_kinds run _ mem
      exact absurd kind (by simp [GatewayOp.kind, hitKinds])
    | none =>
      have before := uses_pieces (getCachedCompletion_uses _ _) (by decide) looked
      have between := uses_pieces counting (by decide) counted
      exact ((missed_filled run mem).prepend between).prepend before
  · exact missed_filled run mem

end Filling

section Hitting
variable {config : GatewayConfig} {request : ChatRequest} {providerName : String}
  {body : ChatCompletionRequest} {promptTokens : ℕ} {cacheKey : Option String}
  {t : List GatewayEvent} {key text : String}

/-- What the client of a hit has: the cached response, or one stopped choice with its text. -/
def Hit (config : GatewayConfig) (streaming : Bool) (t : List GatewayEvent) (answered : Answer)
    (text : String) : Prop :=
  ∃ cached, config.lib.modelValidateJson text = some cached ∧
    if streaming then
      answered = .streamed ∧ t.flatMap framePieces = [stoppedPiece (completionText cached.choices)]
    else ∃ content headers, answered = .json content headers ∧ DumpedTo cached content t

theorem Hit.prepend {streaming : Bool} {answered : Answer} (h : Hit config streaming t answered text)
    {before : List GatewayEvent} (silent : before.flatMap framePieces = []) :
    Hit config streaming (before ++ t) answered text := by
  obtain ⟨cached, parsed, hit⟩ := h
  refine ⟨cached, parsed, ?_⟩
  rw [List.flatMap_append, silent, List.nil_append]
  cases streaming with
  | true => exact hit
  | false =>
    obtain ⟨content, headers, json, dumped⟩ := hit
    exact ⟨content, headers, json, List.mem_append_right _ dumped⟩

theorem getCachedCompletion_ok {lib : Libraries} {cached : Option ChatCompletionResponse}
    (run : Runs (getCachedCompletion lib key) t (.ok cached)) :
    ∃ raw, t = [⟨.getCachedCompletion key, .ok raw⟩] ∧ raw.bind lib.modelValidateJson = cached ∧
      (cached = none → raw = none) := by
  obtain ⟨t₁, raw, t₂, rfl, looked, rest⟩ := runs_bind_ok run
  rw [runs_perform looked]
  refine ⟨raw, ?_⟩
  cases raw with
  | none =>
    obtain ⟨rfl, eq⟩ := runs_done rest
    cases eq
    exact ⟨rfl, rfl, fun _ => rfl⟩
  | some text =>
    simp only at rest
    cases parsed : lib.modelValidateJson text with
    | none =>
      rw [parsed] at rest
      cases (runs_done rest).2
    | some response =>
      rw [parsed] at rest
      obtain ⟨rfl, eq⟩ := runs_done rest
      cases eq
      exact ⟨rfl, parsed, fun none_ => by cases none_⟩

theorem missed_kinds {r : Except Exn Answer}
    (run : Runs ((if body.stream then pure (.stream .provider
        (streamChatCompletion config request providerName body promptTokens cacheKey))
      else answerFromProvider config request providerName body promptTokens cacheKey) >>= deliver) t r) :
    ∀ e ∈ t, e.1.kind ≠ .readCache := by
  intro e mem looks
  by_cases streaming : body.stream = true
  · rw [if_pos streaming] at run
    have uses : UsesKinds [.begin, .stream, .yield, .metric, .tokenizer, .security, .cost, .usage, .clock,
        .dump, .writeCache, .releaseSlot, .releaseLock] (deliver (.stream .provider
          (streamChatCompletion config request providerName body promptTokens cacheKey))) := by
      refine (usesKinds_call rfl).bind fun _ => Prog.Uses.bind ?_ fun _ => trivial
      exact (streamChatCompletion_uses config request providerName body promptTokens cacheKey).weaken
        (by decide)
    have kind := uses.of_runs run e mem
    rw [looks] at kind
    exact absurd kind (by decide)
  · rw [if_neg streaming, answerFromProvider, Prog.bind_assoc] at run
    obtain ⟨_, received, t₂, rfl, _, run, mem⟩ :=
      runs_behind (callProvider_uses request providerName body) run mem (by simp [looks])
    obtain ⟨_, response, t₃, rfl, booked, run, mem⟩ :=
      runs_behind (bookAnswer_uses config request providerName body promptTokens cacheKey received)
        run mem (by simp [looks])
    obtain ⟨content, headers, rfl⟩ := bookAnswer_json booked
    obtain ⟨rfl, _⟩ := runs_done run
    cases mem

theorem streamCachedCompletion_pieces {cached : ChatCompletionResponse}
    (run : Runs (streamCachedCompletion request providerName cached) t (.ok ())) :
    t.flatMap framePieces = [stoppedPiece (completionText cached.choices)] := by
  obtain ⟨t₁, r₁, t₂, rfl, sent, rest⟩ := runs_andThen.mp run
  obtain ⟨t₃, r₂, t₄, rfl, finished, done⟩ := runs_andThen.mp rest
  have silent := uses_pieces (finishCachedStream_uses request providerName cached) (by decide) finished
  cases r₂ with
  | error e => cases (runs_done done).2
  | ok _ =>
    obtain ⟨rfl, eq⟩ := runs_done done
    cases eq
    obtain ⟨t₅, _, t₆, rfl, chunk, last⟩ := runs_bind_ok sent
    rw [runs_perform chunk, runs_perform last, List.flatMap_append, List.append_nil, silent.2]
    rfl

theorem answerFromCache_hit {cached : ChatCompletionResponse} {answered : Answer}
    (parsed : config.lib.modelValidateJson text = some cached)
    (run : Runs (answerFromCache request providerName body cached >>= deliver) t
      (.ok answered)) : Hit config body.stream t answered text := by
  refine ⟨cached, parsed, ?_⟩
  simp only [answerFromCache, Prog.bind_assoc] at run
  obtain ⟨t₁, _, t₂, rfl, released, run⟩ := runs_bind_ok run
  have silent : t₁.flatMap framePieces = [] := by
    rw [runs_perform released]
    rfl
  by_cases streaming : body.stream = true
  · rw [if_pos streaming] at run ⊢
    have run : Runs (deliver (.stream .cached (streamCachedCompletion request providerName cached)))
        t₂ (.ok answered) := run
    obtain ⟨t₃, _, t₄, rfl, begun, run⟩ := runs_bind_ok run
    obtain ⟨t₅, _, t₆, rfl, generated, run⟩ := runs_bind_ok run
    obtain ⟨rfl, eq⟩ := runs_done run
    cases eq
    refine ⟨rfl, ?_⟩
    rw [List.flatMap_append, List.flatMap_append, silent, runs_perform begun, List.append_nil,
      streamCachedCompletion_pieces generated]
    rfl
  · rw [if_neg streaming] at run ⊢
    obtain ⟨t₃, among, returned⟩ : ∃ t₃, t₃ ⊆ t₂ ∧ Runs (do
        let responseJson ← call (.modelDumpJson cached)
        storeAndReleaseIfKeyed request responseJson
        deliver (.json responseJson [("X-Cache", "hit")])) t₃ (.ok answered) := by
      cases usage : cached.usage with
      | none =>
        simp only [usage, Prog.bind_assoc] at run
        exact ⟨_, List.Subset.refl _, run⟩
      | some used =>
        simp only [usage, Prog.bind_assoc] at run
        obtain ⟨_, _, _, rfl, _, run⟩ := runs_bind_ok run
        exact ⟨_, List.subset_append_right _ _, run⟩
    obtain ⟨t₄, content, t₅, rfl, dumped, rest⟩ := runs_bind_ok returned
    obtain ⟨_, _, _, _, _, done⟩ := runs_bind_ok rest
    cases (runs_done done).2
    refine ⟨content, _, rfl, List.mem_append_right _ (among ?_)⟩
    rw [runs_perform dumped]
    exact .head _

theorem answer_found {r : Except Exn Answer}
    (run : Runs (answer config request providerName body promptTokens >>= deliver) t r)
    (mem : ⟨.getCachedCompletion key, .ok (some text)⟩ ∈ t) :
    ∃ before after, t = before ++ after ∧ (∀ e ∈ before, e.1.kind ∈ [.readCache, .metric]) ∧
      ((after = [] ∧ ∃ e, r = .error e) ∨ ∃ cached, config.lib.modelValidateJson text = some cached ∧
        Runs (answerFromCache request providerName body cached >>= deliver) after r) := by
  rw [answer] at run
  split at run
  · simp only [Prog.bind_assoc] at run
    have looking : UsesKinds [.readCache, .metric] (getCachedCompletion config.lib
        (computeCacheKey config.lib request.tenant.tenantId body)) :=
      (getCachedCompletion_uses _ _).weaken (by decide)
    have counting (hit : Bool) : UsesKinds [.readCache, .metric] (call (.metric (.cacheLookups hit))) :=
      usesKinds_call rfl
    rcases runs_bind run with ⟨e, looked, rfl⟩ | ⟨t₁, lookup, t₂, rfl, looked, counted⟩
    · exact ⟨t, [], (List.append_nil t).symm, looking.of_runs looked, .inl ⟨rfl, e, rfl⟩⟩
    have first := looking.of_runs looked
    rcases runs_bind counted with ⟨e, counts, rfl⟩ | ⟨t₃, _, t₄, rfl, counts, answers⟩
    · refine ⟨t₁ ++ t₂, [], (List.append_nil _).symm, ?_, .inl ⟨rfl, e, rfl⟩⟩
      exact List.forall_mem_append.mpr ⟨first, (counting _).of_runs counts⟩
    refine ⟨t₁ ++ t₃, t₄, (List.append_assoc ..).symm, ?_, .inr ?_⟩
    · exact List.forall_mem_append.mpr ⟨first, (counting _).of_runs counts⟩
    obtain ⟨raw, isLookup, parsed, missed⟩ := getCachedCompletion_ok looked
    -- the lookup is the only one
    have found (later : ∀ e ∈ t₄, e.1.kind ≠ .readCache) : raw = some text := by
      rw [isLookup, runs_perform counts] at mem
      rcases List.mem_append.mp mem with mem | mem
      · cases List.mem_singleton.mp mem
        rfl
      · rcases List.mem_append.mp mem with mem | mem
        · cases List.mem_singleton.mp mem
        · exact absurd rfl (later _ mem)
    cases lookup with
    | none =>
      have some_raw := found (missed_kinds answers)
      rw [missed rfl] at some_raw
      cases some_raw
    | some response =>
      have some_raw := found fun e mem looks => by
        have kind := answerFromCache_kinds answers e mem
        rw [looks] at kind
        exact absurd kind (by decide)
      rw [some_raw] at parsed
      exact ⟨response, parsed, answers⟩
  · exact absurd rfl (missed_kinds run _ mem)

theorem answer_hit {answered : Answer}
    (run : Runs (answer config request providerName body promptTokens >>= deliver) t (.ok answered))
    (mem : ⟨.getCachedCompletion key, .ok (some text)⟩ ∈ t) :
    Hit config body.stream t answered text := by
  obtain ⟨before, after, rfl, looking, ⟨_, e, raised⟩ | ⟨_, parsed, rest⟩⟩ := answer_found run mem
  · cases raised
  · have among : [OpKind.readCache, .metric] ⊆ .readCache :: .writeCache :: quietKinds := by decide
    exact ((answerFromCache_hit parsed rest).prepend (silent_pieces fun e mem => among (looking e mem)).2)

end Hitting

section Requests
variable {config : GatewayConfig} {request : ChatRequest} {t : List GatewayEvent}
  {r : Except Exn Answer} {key text : String} {ttlSeconds : ℤ} {stored : Except Exn Unit}

theorem serve_filled (run : Runs (serve config request) t r)
    (mem : ⟨.storeCachedCompletion key text ttlSeconds, stored⟩ ∈ t) :
    Filled request.body.stream t r text := by
  rcases serve_answers run with quiet | ⟨pre, rest, name, body, tokens, rfl, quiet, same, run⟩
  · exact absurd (quiet _ mem) (by simp [GatewayOp.kind, quietKinds])
  · have mem := quiet.not_mem (by simp [GatewayOp.kind, quietKinds]) mem
    rw [← same]
    exact (answer_filled run mem).prepend quiet.pieces

theorem serve_hit {answered : Answer} (run : Runs (serve config request) t (.ok answered))
    (mem : ⟨.getCachedCompletion key, .ok (some text)⟩ ∈ t) :
    Hit config request.body.stream t answered text := by
  rcases serve_answers run with quiet | ⟨pre, rest, name, body, tokens, rfl, quiet, same, run⟩
  · exact absurd (quiet _ mem) (by simp [GatewayOp.kind, quietKinds])
  · have mem := quiet.not_mem (by simp [GatewayOp.kind, quietKinds]) mem
    rw [← same]
    exact (answer_hit run mem).prepend quiet.pieces.2

/-- Every response that was dumped is read back. -/
def AllReadBack (lib : Libraries) (t : List GatewayEvent) : Prop :=
  ∀ response text, DumpedTo response text t → ReadsBack lib response text

theorem Filled.client {streaming : Bool} (filled : Filled streaming t r text)
    (readsBack : AllReadBack config.lib t)
    (complete : streaming = false → ∃ answered, r = .ok answered) :
    clientPieces config.lib t r = t.flatMap upstreamPieces := by
  obtain ⟨response, written, filled⟩ := filled
  cases streaming with
  | true =>
    obtain ⟨_, same, unlike⟩ := filled
    rw [same]
    cases r with
    | error e => rfl
    | ok answered =>
      cases answered with
      | json content headers => exact absurd rfl (unlike content headers)
      | streamed => rfl
  | false =>
    obtain ⟨same, returned⟩ := filled
    obtain ⟨answered, rfl⟩ := complete rfl
    obtain ⟨content, headers, rfl, dumped⟩ := returned answered rfl
    obtain ⟨readBack, parsed, pieces⟩ := readsBack response content dumped
    rw [same, clientPieces, parsed]
    exact pieces

/-- The client of a hit has the cached response itself if both requests are plain, and one
stopped choice with its text if not. -/
theorem Hit.client {fillStreaming streaming : Bool} {t' : List GatewayEvent} {answered : Answer}
    (hit : Hit config streaming t' answered text) (filled : Filled fillStreaming t r text)
    (readsBack : AllReadBack config.lib t) (readsBack' : AllReadBack config.lib t') :
    clientPieces config.lib t' (.ok answered) =
      if fillStreaming = false ∧ streaming = false then t.flatMap upstreamPieces
      else [stoppedPiece (piecesText (t.flatMap upstreamPieces))] := by
  obtain ⟨response, written, filled⟩ := filled
  obtain ⟨cached, parsed, hit⟩ := hit
  have same : answerPieces cached = answerPieces response := by
    obtain ⟨readBack, parsed', pieces⟩ := readsBack response text written
    obtain rfl := Option.some.inj (parsed.symm.trans parsed')
    exact pieces
  have flat : completionText cached.choices = piecesText (t.flatMap upstreamPieces) ∧
      (fillStreaming = true →
        answerPieces cached = [stoppedPiece (piecesText (t.flatMap upstreamPieces))]) ∧
      (fillStreaming = false → answerPieces cached = t.flatMap upstreamPieces) := by
    rw [← piecesText_answer, same]
    cases fillStreaming with
    | true =>
      obtain ⟨pieces, passed, _⟩ := filled
      rw [pieces, passed]
      refine ⟨?_, fun _ => rfl, (fun h => by cases h)⟩
      simp [piecesText, stoppedPiece, String.join_cons]
    | false =>
      obtain ⟨pieces, _⟩ := filled
      rw [pieces]
      exact ⟨rfl, (fun h => by cases h), fun _ => rfl⟩
  cases streaming with
  | true =>
    obtain ⟨rfl, pieces⟩ := hit
    have handed : clientPieces config.lib t' (.ok .streamed) = t'.flatMap framePieces := rfl
    rw [if_neg (by simp), handed, pieces, flat.1]
  | false =>
    obtain ⟨content, headers, rfl, dumped⟩ := hit
    obtain ⟨readBack, parsed', pieces⟩ := readsBack' cached content dumped
    rw [clientPieces, parsed']
    refine pieces.trans ?_
    cases fillStreaming with
    | true =>
      rw [if_neg (by simp)]
      exact flat.2.1 rfl
    | false =>
      rw [if_pos ⟨rfl, rfl⟩]
      exact flat.2.2 rfl

/-- The client of a hit gets the answer that filled the cache exactly when neither request
streams, or when that answer is one choice, with index 0, that stopped by itself. -/
theorem hit_gives_filling_answer_iff (config : GatewayConfig) (filling hitting : ChatRequest)
    (t t' : List GatewayEvent) (r : Except Exn Answer) (answered : Answer) (key text : String)
    (ttlSeconds : ℤ) (filled : Runs (serve config filling) t r)
    (stored : ⟨.storeCachedCompletion key text ttlSeconds, .ok ()⟩ ∈ t)
    (complete : filling.body.stream = false → ∃ answered, r = .ok answered)
    (hit : Runs (serve config hitting) t' (.ok answered))
    (found : ⟨.getCachedCompletion key, .ok (some text)⟩ ∈ t')
    (readsBack : AllReadBack config.lib (t ++ t')) :
    clientAnswer config.lib t' (.ok answered) = clientAnswer config.lib t r ↔
      (filling.body.stream = false ∧ hitting.body.stream = false) ∨
        OneStoppedChoice (t.flatMap upstreamPieces) := by
  have fills := serve_filled filled stored
  have fillReads : AllReadBack config.lib t := fun response text dumped =>
    readsBack response text (List.mem_append_left _ dumped)
  have hitReads : AllReadBack config.lib t' := fun response text dumped =>
    readsBack response text (List.mem_append_right _ dumped)
  rw [clientAnswer, clientAnswer, fills.client fillReads complete,
    (serve_hit hit found).client fills fillReads hitReads]
  by_cases plain : filling.body.stream = false ∧ hitting.body.stream = false
  · rw [if_pos plain]
    exact iff_of_true rfl (.inl plain)
  · rw [if_neg plain, reassembled_stopped_iff]
    exact (or_iff_right plain).symm

end Requests

section LocalModel

/-- An answer with two choices, one of them cut off. -/
def pairResponse : ChatCompletionResponse :=
  ⟨"chatcmpl-1", "chat.completion", 0, "llama3",
    [[("index", .int 0), ("message", .obj [("content", .str "Hello")]), ("finish_reason", .str "stop")],
      [("index", .int 1), ("message", .obj [("content", .str "Hi")]), ("finish_reason", .str "length")]],
    some ⟨8, 2, 10, []⟩, []⟩

/-- `pairResponse.model_dump_json()`. -/
def pairDump : String :=
  "\x7b\"id\":\"chatcmpl-1\",\"object\":\"chat.completion\",\"created\":0,\"model\":\"llama3\"," ++
    "\"choices\":[\x7b\"index\":0,\"message\":\x7b\"content\":\"Hello\"\x7d,\"finish_reason\":\"stop\"\x7d," ++
    "\x7b\"index\":1,\"message\":\x7b\"content\":\"Hi\"\x7d,\"finish_reason\":\"length\"\x7d]," ++
    "\"usage\":\x7b\"prompt_tokens\":8,\"completion_tokens\":2,\"total_tokens\":10\x7d\x7d"

/-- Libraries that read this one answer, and know the digest of the request's canonical text. -/
def pairLibraries : Libraries where
  jsonLoads _ := .error .jsonDecodeError
  modelValidate _ := none
  modelValidateJson text := if text = pairDump then some pairResponse else none
  reprRounded _ := ""
  sha256Hex _ := "c509202cd9f10c351520e743d1e6f2c1b62b02af91701ca8994a0848a54a66a7"

theorem pair_parsed : pairLibraries.modelValidateJson pairDump = some pairResponse := by
  simp only [pairLibraries, if_true]

def pairConfig : GatewayConfig := ⟨pairLibraries, ["ollama"], 300⟩

/-- A request of a tenant that caches. -/
def cachingChat (stream : Bool) : ChatRequest :=
  ⟨helloRequest stream, { helloTenant with cacheEnabled := true }, none, none⟩

def pairKey : String := computeCacheKey pairLibraries helloTenantId (helloRequest false)

/-- The calls up to the cache lookup. -/
def gates (stream : Bool) : List GatewayEvent :=
  [⟨.encodingForModel "llama3", .ok "cl100k_base"⟩, ⟨.encode "cl100k_base" "user", .ok (1 : ℕ)⟩,
    ⟨.encode "cl100k_base" "hello", .ok (1 : ℕ)⟩] ++ limits (cachingChat stream) 8 ++ []

theorem cachingChat_served {config : GatewayConfig} (only : config.providers = ["ollama"])
    {stream : Bool} {t : List GatewayEvent} {r : Except Exn Answer}
    (answered : Runs (answer config (cachingChat stream) "ollama" (helloRequest stream) 8 >>=
      deliver) t r) :
    Runs (serve config (cachingChat stream)) (gates stream ++ t) r := by
  refine serve_answering rfl ?_ ?_ (.done _) answered
  · rw [only]
    change resolve ["ollama"] "llama3" = _
    decide
  · exact .call (.call (.call (.done _)))

theorem answer_found_local {config : GatewayConfig} {stream : Bool} {cached : ChatCompletionResponse}
    {text : String} {t : List GatewayEvent} {r : Except Exn Answer}
    (parsed : config.lib.modelValidateJson text = some cached)
    (answered : Runs (answerFromCache (cachingChat stream) "ollama" (helloRequest stream) cached >>=
      deliver) t r) :
    Runs (answer config (cachingChat stream) "ollama" (helloRequest stream) 8 >>= deliver)
      (⟨.getCachedCompletion (computeCacheKey config.lib helloTenantId (helloRequest stream)),
          .ok (some text)⟩ :: ⟨.metric (.cacheLookups true), .ok ()⟩ :: t) r := by
  have looked : Runs (getCachedCompletion config.lib
      (computeCacheKey config.lib helloTenantId (helloRequest stream)))
      [⟨.getCachedCompletion (computeCacheKey config.lib helloTenantId (helloRequest stream)),
        .ok (some text)⟩] (.ok (some cached)) := by
    have found : Runs (call (.getCachedCompletion (computeCacheKey config.lib helloTenantId
        (helloRequest stream))) : GatewayProg (Option String)) _ (.ok (some text)) := .call (.done _)
    refine found.bind ?_
    simp only [parsed]
    exact .done _
  rw [answer, if_pos (show (cachingChat stream).tenant.cacheEnabled = true from rfl)]
  simp only [Prog.bind_assoc]
  exact looked.bind (.call answered)

/-- The usage of the answer with two choices is recorded. -/
def pairUsage (cacheHit : Bool) : List GatewayEvent :=
  [⟨.setRlsContext (some helloTenantId) false, .ok ()⟩,
    ⟨.calculateCostUsd "llama3" 8 2 "ollama", .ok (0 : ℚ)⟩,
    ⟨.commitUsageRecord (usageRecord (cachingChat false) "ollama" "llama3" 8 2 cacheHit 0), .ok ()⟩,
    ⟨.metric (.chatCompletions "ollama" .success), .ok ()⟩, ⟨.metric (.usageCostUsd "ollama" 0), .ok ()⟩,
    ⟨.metric (.usageTokens "ollama" "prompt" 8), .ok ()⟩,
    ⟨.metric (.usageTokens "ollama" "completion" 2), .ok ()⟩]

/-- A plain request misses, and stores the answer. -/
def pairFilling : List GatewayEvent :=
  ⟨.getCachedCompletion pairKey, .ok (none : Option String)⟩ ::
    ⟨.metric (.cacheLookups false), .ok ()⟩ ::
    ⟨.chatCompletion (helloRequest false), .ok pairResponse⟩ ::
    ⟨.releaseConcurrencySlot helloTenantId, .ok ()⟩ ::
    ⟨.metric (.providerCallDuration "ollama" .success), .ok ()⟩ ::
    ⟨.modelDumpJson pairResponse, .ok pairDump⟩ ::
    ⟨.storeCachedCompletion pairKey pairDump 300, .ok ()⟩ ::
    (pairUsage false ++ [⟨.modelDumpJson pairResponse, .ok pairDump⟩])

theorem pair_filled : Runs (serve pairConfig (cachingChat false)) (gates false ++ pairFilling)
    (.ok (.json pairDump [("X-Cache", "miss")])) :=
  cachingChat_served rfl (.call (.call (.call (.call (.call (.call (.call (.call (.call (.call (.call
    (.call (.call (.call (.call (.done _))))))))))))))))

/-- A request that hits, up to the lookup. -/
def pairLookup : List GatewayEvent :=
  [⟨.getCachedCompletion pairKey, .ok (some pairDump)⟩, ⟨.metric (.cacheLookups true), .ok ()⟩,
    ⟨.releaseConcurrencySlot helloTenantId, .ok ()⟩]

theorem pair_hit_plain : Runs (serve pairConfig (cachingChat false)) (gates false ++ (pairLookup ++
    (pairUsage true ++ [⟨.modelDumpJson pairResponse, .ok pairDump⟩])))
    (.ok (.json pairDump [("X-Cache", "hit")])) :=
  cachingChat_served rfl (answer_found_local pair_parsed
    (.call (.call (.call (.call (.call (.call (.call (.call (.call (.done _)))))))))))

theorem pair_hit_streaming : Runs (serve pairConfig (cachingChat true)) (gates true ++ (pairLookup ++
    (⟨.beginStream .cached, .ok ()⟩ :: ⟨.yieldFrame (.chunk (cachedChunk pairResponse)), .ok ()⟩ ::
      ⟨.yieldFrame .finished, .ok ()⟩ :: pairUsage true))) (.ok .streamed) :=
  cachingChat_served rfl (answer_found_local pair_parsed (.call (.call (.call (.call (.call (.call
    (.call (.call (.call (.call (.call (.done _)))))))))))))

theorem pair_stored : ⟨.storeCachedCompletion pairKey pairDump 300, .ok ()⟩ ∈ gates false ++ pairFilling := by
  simp [pairFilling]

theorem clientAnswer_json {lib : Libraries} {content : String} {response : ChatCompletionResponse}
    (parsed : lib.modelValidateJson content = some response) (t : List GatewayEvent)
    (headers : List (String × String)) :
    clientAnswer lib t (.ok (.json content headers)) = reassembled (answerPieces response) := by
  rw [clientAnswer, clientPieces, parsed]

theorem pair_allReadBack {t : List GatewayEvent}
    (only : ∀ response text, DumpedTo response text t → response = pairResponse ∧ text = pairDump) :
    AllReadBack pairLibraries t := by
  intro response text dumped
  obtain ⟨rfl, rfl⟩ := only response text dumped
  exact ⟨pairResponse, pair_parsed, rfl⟩

theorem hit_gives_filling_answer_iff_plain :
    clientAnswer pairLibraries (gates false ++ (pairLookup ++
        (pairUsage true ++ [⟨.modelDumpJson pairResponse, .ok pairDump⟩])))
        (.ok (.json pairDump [("X-Cache", "hit")])) =
      clientAnswer pairLibraries (gates false ++ pairFilling) (.ok (.json pairDump [("X-Cache", "miss")])) :=
  (hit_gives_filling_answer_iff pairConfig (cachingChat false) (cachingChat false) _ _ _ _ pairKey
    pairDump 300 pair_filled pair_stored (fun _ => ⟨_, rfl⟩) pair_hit_plain (by simp [pairLookup])
    (pair_allReadBack (by
      intro response text dumped
      simpa [DumpedTo, gates, limits, pairFilling, pairLookup, pairUsage] using dumped))).mpr
    (.inl ⟨rfl, rfl⟩)

/-- Streamed from the cache, both choices run together in one. -/
theorem streamed_hit_merges_choices :
    ¬ ∀ (config : GatewayConfig) (filling hitting : ChatRequest) t t' r answered key text ttlSeconds,
      Runs (serve config filling) t r →
      ⟨.storeCachedCompletion key text ttlSeconds, .ok ()⟩ ∈ t →
      (filling.body.stream = false → ∃ answered, r = .ok answered) →
      Runs (serve config hitting) t' (.ok answered) →
      ⟨.getCachedCompletion key, .ok (some text)⟩ ∈ t' → AllReadBack config.lib (t ++ t') →
      clientAnswer config.lib t' (.ok answered) = clientAnswer config.lib t r := by
  intro same
  have merged := same pairConfig _ _ _ _ _ _ _ _ _ pair_filled pair_stored (fun _ => ⟨_, rfl⟩)
    pair_hit_streaming (by simp [pairLookup]) (pair_allReadBack (by
      intro response text dumped
      simpa [DumpedTo, gates, limits, pairFilling, pairLookup, pairUsage] using dumped))
  rw [show clientAnswer pairConfig.lib _ _ = _ from clientAnswer_json pair_parsed _ _] at merged
  have second := congrFun merged (some 1)
  exact absurd second (by decide)

end LocalModel
end AegisGateway.CacheHits
