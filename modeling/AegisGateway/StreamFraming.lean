import AegisGateway.EventStreams
import AegisGateway.JsonRoundTrip
import AegisGateway.StreamCaching

set_option autoImplicit false

/-!
# Framing a stream again

What the generators of `api/proxy.py` send, read by the loop of the provider's
`stream_chat_completion`. The text of a chunk is printable ASCII, so that its frame is one
data line and a blank one, and the decoder gives the chunk back.
-/
namespace AegisGateway.StreamFraming
open EffectProgram EventStreams JsonTokens JsonLimits JsonRoundTrip
open ProviderCalls (ProviderConfig payload chunkOf_payload)
open Pricing (startsWith)

section Frames

/-- The frames that a run of a generator sends. -/
def frames (t : List GatewayEvent) : List Frame :=
  t.filterMap fun
    | ⟨.yieldFrame frame, _⟩ => some frame
    | _ => none

def sentBody (t : List GatewayEvent) : String := String.join ((frames t).map Frame.text)

/-- The client takes every frame. -/
def TakesFrames (t : List GatewayEvent) : Prop :=
  ∀ frame o, ⟨.yieldFrame frame, o⟩ ∈ t → o = .ok ()

theorem takes_frame {frame : Frame} {t : List GatewayEvent} (h : TakesFrames t) :
    TakesFrames (⟨.yieldFrame frame, .ok ()⟩ :: t) := by
  intro other o mem
  rcases List.mem_cons.mp mem with same | later
  · cases same
    rfl
  · exact h other o later

/-- Whether `for choice in choices or []` can run. -/
def iterable : Json → Bool
  | .bool b => !b
  | .int n => n = 0
  | .float text => text ∈ ["0.0", "-0.0"]
  | _ => true

def iterates (members : JsonObject) : Bool := iterable (Json.get members "choices")

theorem chunkContents_iterable {members : JsonObject} (h : iterates members = true) :
    ∃ contents, chunkContents (.obj members) = .ok contents := by
  rw [iterates] at h
  rw [chunkContents]
  cases choices : Json.get members "choices" with
  | null => exact ⟨_, rfl⟩
  | bool b => cases b <;> simp_all [iterable, Json.truthy]
  | int n => simp_all [iterable, Json.truthy]
  | float text => simp_all [iterable, Json.truthy]
  | str s => by_cases s = "" <;> simp_all [Json.truthy]
  | arr items => cases items <;> simp_all [Json.truthy]
  | obj members' => cases members' <;> simp_all [Json.truthy]

theorem chunkContents_broken {members : JsonObject} (h : ¬ iterates members = true) :
    chunkContents (.obj members) = .error (.other "TypeError") := by
  rw [iterates] at h
  rw [chunkContents]
  cases choices : Json.get members "choices" with
  | bool b => cases b <;> simp_all [iterable, Json.truthy]
  | int n => simp_all [iterable, Json.truthy]
  | float text => simp_all [iterable, Json.truthy]
  | null | str s | arr items | obj members' => simp_all [iterable]

/-- What the loop sends of a stream that ends normally. -/
def loopFrames : List JsonObject → List Frame
  | [] => [.finished]
  | members :: rest =>
    if iterates members then .chunk (.obj members) :: loopFrames rest else []

theorem streamLoop_frames {chunks : List JsonObject} {parts : List String} {t : List GatewayEvent}
    {r : Except Exn (List String × Except Exn Unit)}
    (run : Runs (streamLoop (chunks.map Json.obj) none parts) t r) (takes : TakesFrames t) :
    frames t = loopFrames chunks ∧ ∃ parts' outcome, r = .ok (parts', outcome) ∧
      ∀ exc, outcome ≠ .error (.provider exc) := by
  induction chunks generalizing parts t with
  | nil =>
    obtain ⟨sent, t, rfl, rest⟩ := runs_attempted run
    obtain ⟨rfl, rfl⟩ := runs_done rest
    obtain rfl := takes _ sent (.head _)
    exact ⟨rfl, _, _, rfl, by simp⟩
  | cons members rest ih =>
    rw [List.map_cons, streamLoop] at run
    rw [loopFrames]
    by_cases loops : iterates members = true
    · obtain ⟨contents, read⟩ := chunkContents_iterable loops
      rw [read] at run
      obtain ⟨sent, t, rfl, second⟩ := runs_attempted run
      obtain rfl := takes _ sent (.head _)
      obtain ⟨sentFrames, ended⟩ := ih second fun frame o mem => takes frame o (.tail _ mem)
      rw [if_pos loops, ← sentFrames]
      exact ⟨rfl, ended⟩
    · rw [chunkContents_broken loops] at run
      obtain ⟨rfl, rfl⟩ := runs_done run
      rw [if_neg loops]
      exact ⟨rfl, _, _, rfl, by simp⟩

theorem frames_quiet {α : Type} {p : GatewayProg α} {kinds : List OpKind} (uses : UsesKinds kinds p)
    (apart : OpKind.yield ∉ kinds) {t : List GatewayEvent} {r : Except Exn α} (run : Runs p t r) :
    frames t = [] := by
  rw [frames, List.filterMap_eq_nil_iff]
  rintro ⟨op, o⟩ mem
  have kind := uses.of_runs run _ mem
  cases op <;> first
    | rfl
    | exact absurd kind apart

theorem frames_append (t t' : List GatewayEvent) : frames (t ++ t') = frames t ++ frames t' := by
  rw [frames, List.filterMap_append]
  rfl

variable {config : GatewayConfig} {request : ChatRequest} {providerName : String}
  {body : ChatCompletionRequest} {promptTokens : ℕ} {cacheKey : Option String}

theorem stream_frames {chunks : List JsonObject} {t : List GatewayEvent} {r : Except Exn Unit}
    (run : Runs (streamChatCompletion config request providerName body promptTokens cacheKey)
      (⟨.streamChatCompletion body, .ok ⟨chunks.map Json.obj, none⟩⟩ :: t) r)
    (takes : TakesFrames t) : frames t = loopFrames chunks := by
  obtain ⟨t₁, r₁, t₂, split, read, rest⟩ := runs_andThen.mp run
  obtain ⟨started, t₃, rfl, loop⟩ := runs_attempted read
  rw [List.cons_append] at split
  obtain ⟨same, rfl⟩ := List.cons.inj split
  cases same
  obtain ⟨sent, parts, outcome, rfl, other⟩ :=
    streamLoop_frames loop fun frame o mem => takes frame o (List.mem_append_left _ mem)
  have settled : settleStream outcome = pure (true, outcome) := by
    unfold settleStream
    split
    · rename_i exc
      exact absurd rfl (other exc)
    · rfl
  have uses : UsesKinds [.metric, .tokenizer, .security, .cost, .usage, .clock, .dump, .writeCache, .releaseSlot,
      .releaseLock] (settleStream outcome >>= fun state => finishStream config request providerName body
        promptTokens cacheKey state.1 parts >>= fun _ => .done state.2) := by
    rw [settled]
    exact (finishStream_uses config request providerName body promptTokens cacheKey true parts).bind
      fun _ => trivial
  rw [frames_append, sent, frames_quiet uses (by decide) rest, List.append_nil]

theorem cached_frames {response : ChatCompletionResponse} {t : List GatewayEvent} {r : Except Exn Unit}
    (run : Runs (streamCachedCompletion request providerName response) t r) (takes : TakesFrames t) :
    frames t = [.chunk (cachedChunk response), .finished] := by
  obtain ⟨t₁, r₁, t₂, rfl, sent, rest⟩ := runs_andThen.mp run
  cases sent with
  | @call _ _ o _ _ later =>
    obtain rfl := takes _ o (by simp)
    cases later with
    | @call _ _ o _ _ last =>
      obtain rfl := takes _ o (by simp)
      obtain ⟨rfl, rfl⟩ := runs_done last
      have uses : UsesKinds [.security, .cost, .usage, .metric, .releaseLock]
          (finishCachedStream request providerName response >>= fun _ => .done (.ok ())) :=
        (finishCachedStream_uses request providerName response).bind fun _ => trivial
      rw [frames_append, frames_quiet uses (by decide) rest]
      rfl

end Frames

section Reading
variable {py : PyTexts} (lib : Libraries) (config : ProviderConfig)

/-- What the loop of the provider makes of a body. The chunks came through the decoder, so that
its limits take them once more. -/
def readBack (py : PyTexts) (lib : Libraries) (config : ProviderConfig)
    (body : String) : List Json × Outcome := readPieces (withTexts py lib) config (splitlines body)

/-- The lines of a body of frames. -/
def frameLines (sent : List Frame) : List String :=
  (splitChars false (sent.flatMap fun frame => frame.text.toList)).map String.ofList

theorem readBack_frames (t : List GatewayEvent) :
    readBack py lib config (sentBody t) =
      readPieces (withTexts py lib) config (frameLines (frames t)) := by
  rw [readBack, splitlines, sentBody, String.toList_join, List.flatMap_map]
  rfl

theorem printable_unbroken {text : List Char} (h : Printable text) : Unbroken text := by
  intro c mem
  have bounds := h c mem
  rw [isBreak, decide_eq_false_iff_not]
  simp only [List.mem_cons, List.not_mem_nil, or_false]
  omega

theorem framed_line {line : List Char} (h : Unbroken line) (rest : List Char) :
    splitChars false (line ++ '\n' :: '\n' :: rest) = line :: [] :: splitChars false rest := by
  rw [splitChars_unbroken h (by decide)]
  rfl

theorem chunk_text (v : Json) :
    (Frame.chunk v).text.toList = dataField ++ ' ' :: dumpText v ++ ['\n', '\n'] := by
  rw [Frame.text, String.toList_append, String.toList_append]
  rfl

theorem finished_text : Frame.finished.text.toList = doneText ++ ['\n', '\n'] := rfl

theorem text_chunk {text : List Char} {members : JsonObject}
    (reads : JsonDecoder.loads py (String.ofList text) = some (.obj members)) :
    ProviderCalls.chunkOf (withTexts py lib) config (String.ofList (dataField ++ ' ' :: text)) =
      .ok (some (.obj members)) := by
  obtain ⟨data, value⟩ := object_data reads
  rw [← object_payload] at data value
  have loading (s : String) :
      (withTexts py lib).jsonLoads s = decoded (JsonDecoder.loads py s) := rfl
  refine chunkOf_loaded config data ?_
  rw [loading, value]
  rfl

theorem chunk_read {members : JsonObject} (h : Decoded py (.obj members)) (sent : List Frame) :
    readPieces (withTexts py lib) config (frameLines (.chunk (.obj members) :: sent)) =
      (.obj members :: (readPieces (withTexts py lib) config (frameLines sent)).1,
        (readPieces (withTexts py lib) config (frameLines sent)).2) := by
  have inside := printable_unbroken (dumps_printable h)
  have whole : Unbroken (dataField ++ ' ' :: dumpText (.obj members)) :=
    unbroken_data (List.forall_mem_cons.mpr ⟨rfl, inside⟩)
  have reads : JsonDecoder.loads py (String.ofList (dumpText (.obj members))) =
      some (.obj members) := by
    rw [dumpText, String.ofList_toList]
    exact loads_dumps h
  have taken := text_chunk lib config reads
  have blank : startsWith (String.ofList []) "data:" = false := by decide
  rw [frameLines, List.flatMap_cons, chunk_text, List.append_assoc, List.cons_append, List.cons_append,
    List.nil_append, framed_line whole, List.map_cons, List.map_cons, readPieces,
    if_pos (startsWith_data _), taken, readPieces, if_neg (by simp [blank])]
  rfl

theorem finished_read :
    readPieces (withTexts py lib) config (frameLines [.finished]) = ([], .stops) := by
  have data : startsWith (String.ofList doneText) "data:" = true := startsWith_data _
  rw [frameLines, List.flatMap_cons, finished_text, List.append_assoc, List.cons_append, List.cons_append,
    List.nil_append, framed_line done_unbroken, List.map_cons, readPieces, if_pos data, done_stops]

theorem loopFrames_read {chunks : List JsonObject}
    (decoded : ∀ members ∈ chunks, Decoded py (.obj members)) :
    readPieces (withTexts py lib) config (frameLines (loopFrames chunks)) =
        (chunks.map Json.obj, .stops) ↔ ∀ members ∈ chunks, iterates members = true := by
  induction chunks with
  | nil =>
    rw [loopFrames, finished_read]
    simp
  | cons members rest ih =>
    obtain ⟨first, others⟩ := List.forall_mem_cons.mp decoded
    rw [loopFrames, List.forall_mem_cons]
    split
    · rename_i loops
      rw [chunk_read lib config first, ← ih others, List.map_cons]
      simp only [Prod.ext_iff, List.cons.injEq, loops, true_and]
    · rename_i broken
      exact iff_of_false (by simp [frameLines, splitChars, readPieces]) fun all => broken all.1

theorem cached_decoded (response : ChatCompletionResponse) :
    Decoded py (cachedChunk response) := by
  have delta : Decoded py (.obj [("role", .str "assistant"),
      ("content", .str (completionText response.choices))]) := by
    refine .obj (by simp) ?_
    simp only [List.forall_mem_cons]
    exact ⟨.str _, .str _, by simp⟩
  have choice : Decoded py (.obj [("index", .int 0), ("delta", .obj [("role", .str "assistant"),
      ("content", .str (completionText response.choices))]), ("finish_reason", .str "stop")]) := by
    refine .obj (by simp) ?_
    simp only [List.forall_mem_cons]
    exact ⟨.int _, delta, .str _, by simp⟩
  refine .obj (by simp) ?_
  simp only [List.forall_mem_cons]
  exact ⟨.str _, .str _, .int _, .str _, .arr (List.forall_mem_cons.mpr ⟨choice, by simp⟩), by simp⟩

end Reading

section Chunks
variable {py : PyTexts} (real : ∀ text, FloatText py (py.floatRepr text))
  {limits : Limits} {lib : Libraries} {config : ProviderConfig}
include real

theorem loaded_decoded {s : String} {v : Json} (loaded : jsonLoads limits py s = .ok v) : Decoded py v :=
  loads_decoded real ((jsonLoads_agrees s).ok v loaded)

theorem readPieces_decoded (lines : List String) :
    ∀ chunk ∈ (readPieces (withJson limits py lib) config lines).1, Decoded py chunk := by
  induction lines with
  | nil => simp [readPieces]
  | cons line rest ih =>
    rw [readPieces]
    split
    · have read := chunkOf_payload (withJson limits py lib) config line
      cases taken : ProviderCalls.chunkOf (withJson limits py lib) config line with
      | error exc => simp
      | ok chunk =>
        cases chunk with
        | none => simp
        | some value =>
          rw [taken, withJson] at read
          split at read
          · cases read
          · split at read
            · rename_i loaded
              cases read
              exact List.forall_mem_cons.mpr ⟨loaded_decoded real loaded, ih⟩
            · cases read
            · cases read
    · exact ih

/-- The chunks that a provider yields are values of the decoder. -/
theorem provider_chunks_decoded {request : ChatCompletionRequest} {body : String}
    {t : List (Event ProviderCalls.ProviderOp ProviderCalls.ProviderRet Exn)} {r : Except Exn Unit}
    (run : Runs (ProviderCalls.streamChatCompletion (withJson limits py lib) config request) t r)
    (served : Served body t) : ∀ chunk ∈ yieldedChunks t, Decoded py chunk := by
  rw [(stream_runs run served).1]
  exact readPieces_decoded real _

end Chunks

section RoundTrip
variable (py : PyTexts) (lib : Libraries) (provider : ProviderConfig)
  (config : GatewayConfig) (request : ChatRequest) (providerName : String) (body : ChatCompletionRequest)
  (promptTokens : ℕ) (cacheKey : Option String)

/-- The stream reads back as the chunks exactly if the loop can go over the choices of each,
and the stream of a cache hit always reads back as its chunk. -/
theorem reframing_reads_back_iff :
    (∀ (chunks : List JsonObject) (t : List GatewayEvent) (r : Except Exn Unit),
      Runs (streamChatCompletion config request providerName body promptTokens cacheKey)
        (⟨.streamChatCompletion body, .ok ⟨chunks.map Json.obj, none⟩⟩ :: t) r →
      TakesFrames t → (∀ members ∈ chunks, Decoded py (.obj members)) →
      (readBack py lib provider (sentBody t) = (chunks.map Json.obj, .stops) ↔
        ∀ members ∈ chunks, iterates members = true)) ∧
    ∀ (response : ChatCompletionResponse) (t : List GatewayEvent) (r : Except Exn Unit),
      Runs (streamCachedCompletion request providerName response) t r → TakesFrames t →
      readBack py lib provider (sentBody t) = ([cachedChunk response], .stops) := by
  constructor
  · intro chunks t r run takes decoded
    rw [readBack_frames, stream_frames run takes]
    exact loopFrames_read lib provider decoded
  · intro response t r run takes
    have read := chunk_read lib provider (@cached_decoded py response) [.finished]
    rw [readBack_frames, cached_frames run takes]
    rw [finished_read] at read
    exact read

end RoundTrip

section Samples
open StreamCaching

def helloMembers : JsonObject :=
  [("choices", .arr [.obj [("delta", .obj [("content", .str "Hel")])]])]

def fiveMembers : JsonObject := [("choices", .int 5)]

theorem hello_decoded : Decoded plainTexts (.obj helloMembers) := by
  have delta : Decoded plainTexts (.obj [("content", .str "Hel")]) :=
    .obj (by simp) (List.forall_mem_cons.mpr ⟨.str _, by simp⟩)
  have choice : Decoded plainTexts (.obj [("delta", .obj [("content", .str "Hel")])]) :=
    .obj (by simp) (List.forall_mem_cons.mpr ⟨delta, by simp⟩)
  have choices : Decoded plainTexts (.arr [.obj [("delta", .obj [("content", .str "Hel")])]]) :=
    .arr (List.forall_mem_cons.mpr ⟨choice, by simp⟩)
  exact .obj (by simp [helloMembers]) (List.forall_mem_cons.mpr ⟨choices, by simp⟩)

theorem five_decoded : Decoded plainTexts (.obj fiveMembers) :=
  .obj (by simp [fiveMembers]) (List.forall_mem_cons.mpr ⟨.int 5, by simp⟩)

theorem booked_takes : TakesFrames bookedTrace := by
  intro frame o mem
  simp [bookedTrace, booking] at mem

theorem reframing_reads_back_iff_hello :
    (∃ t, Runs helloStream
        (⟨.streamChatCompletion (helloRequest true), .ok ⟨[.obj helloMembers], none⟩⟩ :: t) (.ok ()) ∧
      readBack plainTexts silentLibraries oneProvider (sentBody t) = ([.obj helloMembers], .stops)) ∧
    ∃ t, Runs (streamCachedCompletion (helloChat true none) "ollama" { helloResponse with usage := none })
        t (.ok ()) ∧
      readBack plainTexts silentLibraries oneProvider (sentBody t) =
        ([cachedChunk { helloResponse with usage := none }], .stops) := by
  obtain ⟨streamed, cached⟩ := reframing_reads_back_iff plainTexts silentLibraries oneProvider helloConfig
    (helloChat true none) "ollama" (helloRequest true) 8 (some "k")
  have run : Runs helloStream
      (⟨.streamChatCompletion (helloRequest true), .ok ⟨[helloMembers].map Json.obj, none⟩⟩ ::
        ⟨.yieldFrame (.chunk (.obj helloMembers)), .ok ()⟩ :: ⟨.yieldFrame .finished, .ok ()⟩ ::
        bookedTrace) (.ok ()) := .call (.call (.call (booked_run (.ok ()))))
  have takes : TakesFrames (⟨.yieldFrame (.chunk (.obj helloMembers)), .ok ()⟩ ::
      ⟨.yieldFrame .finished, .ok ()⟩ :: bookedTrace) :=
    takes_frame (takes_frame booked_takes)
  have hit : Runs (streamCachedCompletion (helloChat true none) "ollama" { helloResponse with usage := none })
      [⟨.yieldFrame (.chunk (cachedChunk { helloResponse with usage := none })), .ok ()⟩,
        ⟨.yieldFrame .finished, .ok ()⟩] (.ok ()) := .call (.call (.done _))
  have takes' : TakesFrames [⟨.yieldFrame (.chunk (cachedChunk { helloResponse with usage := none })), .ok ()⟩,
      ⟨.yieldFrame .finished, .ok ()⟩] :=
    takes_frame (takes_frame (by simp [TakesFrames]))
  exact ⟨⟨_, run, (streamed [helloMembers] _ _ run takes
    (List.forall_mem_cons.mpr ⟨hello_decoded, by simp⟩)).mpr (by decide)⟩, _, hit, cached _ _ _ hit takes'⟩

/-- A number for the choices of a chunk breaks the stream off before the chunk is sent. -/
theorem number_breaks_stream : ¬ ∀ (py : PyTexts) (lib : Libraries)
    (provider : ProviderConfig) (chunks : List JsonObject) (t : List GatewayEvent) (r : Except Exn Unit),
    Runs helloStream
      (⟨.streamChatCompletion (helloRequest true), .ok ⟨chunks.map Json.obj, none⟩⟩ :: t) r →
    TakesFrames t → (∀ members ∈ chunks, Decoded py (.obj members)) →
    readBack py lib provider (sentBody t) = (chunks.map Json.obj, .stops) := by
  intro claim
  have run : Runs helloStream (⟨.streamChatCompletion (helloRequest true),
      .ok ⟨[helloMembers, fiveMembers].map Json.obj, none⟩⟩ ::
      ⟨.yieldFrame (.chunk (.obj helloMembers)), .ok ()⟩ :: bookedTrace)
      (.error (.other "TypeError")) := .call (.call (booked_run (.error (.other "TypeError"))))
  have takes : TakesFrames (⟨.yieldFrame (.chunk (.obj helloMembers)), .ok ()⟩ :: bookedTrace) :=
    takes_frame booked_takes
  have decoded : ∀ members ∈ [helloMembers, fiveMembers], Decoded plainTexts (.obj members) := by
    simp only [List.forall_mem_cons]
    exact ⟨hello_decoded, five_decoded, by simp⟩
  have read := claim plainTexts silentLibraries oneProvider _ _ _ run takes decoded
  rw [readBack_frames, stream_frames run takes, loopFrames_read silentLibraries oneProvider decoded] at read
  have five := read fiveMembers (by simp)
  cases five

end Samples

end AegisGateway.StreamFraming
