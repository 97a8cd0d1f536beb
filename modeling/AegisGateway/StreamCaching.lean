import AegisGateway.ChatCompletions

set_option autoImplicit false

/-!
# What a stream leaves behind

The runs of `_stream_chat_completion`: how the upstream and the client end the
stream, and when its content is cached and its usage recorded.
-/
namespace AegisGateway.StreamCaching
open EffectProgram

/-- The exception the upstream's stream comes to, if the client reads on: that of the
first chunk the loop cannot take, else the stream's own. -/
def failureOf : List Json → Option Exn → Option Exn
  | [], ending => ending
  | chunk :: rest, ending =>
    match chunkContents chunk with
    | .error exc => some exc
    | .ok _ => failureOf rest ending

def failure : Except Exn UpstreamStream → Option Exn
  | .error exc => some exc
  | .ok stream => failureOf stream.chunks stream.ending

/-- The client abandons the response at a chunk. -/
def abandons : GatewayEvent → Option Exn
  | ⟨.yieldFrame (.chunk _), .error exc⟩ => some exc
  | _ => none

def abandoned (t : List GatewayEvent) : Option Exn := t.findSome? abandons

/-- How the stream ended, `none` being its normal end. -/
def streamFailure (upstream : Except Exn UpstreamStream) (t : List GatewayEvent) : Option Exn :=
  match abandoned t with
  | some exc => some exc
  | none => failure upstream

def sentContents : GatewayEvent → List String
  | ⟨.yieldFrame (.chunk chunk), _⟩ =>
    match chunkContents chunk with
    | .ok contents => contents
    | .error _ => []
  | _ => []

/-- The content of the chunks handed to the client. -/
def sentText (t : List GatewayEvent) : String := String.join (t.flatMap sentContents)

def stores : GatewayEvent → Bool
  | ⟨.storeCachedCompletion _ _ _, _⟩ => true
  | _ => false

def bills : GatewayEvent → Bool
  | ⟨.commitUsageRecord _, .ok _⟩ => true
  | _ => false

def isYield : GatewayOp → Bool
  | .yieldFrame _ => true
  | _ => false

/-- A call of the bookkeeping raises, other than the lookup that has a fallback. -/
def faults : GatewayEvent → Bool
  | ⟨.yieldFrame _, _⟩ => false
  | ⟨.encodingForModel _, .error .keyError⟩ => false
  | ⟨_, .error _⟩ => true
  | _ => false

/-- An entry is stored only for a stream that ended normally, and no usage is recorded
for one that ended in an upstream failure. -/
def OnlyCompleteKept (upstream : Except Exn UpstreamStream) (t : List GatewayEvent) : Prop :=
  ((∃ e ∈ t, stores e = true) → streamFailure upstream t = none) ∧
  (abandoned t = none → failure upstream ≠ none → ¬ ∃ e ∈ t, bills e = true)

/-- The stream ended normally or with a `ProviderError`, or the client abandoned it with
nothing to cache. -/
def CleanEnd (cacheKey : Option String) (upstream : Except Exn UpstreamStream)
    (t : List GatewayEvent) : Prop :=
  match streamFailure upstream t with
  | none => True
  | some (.provider _) => True
  | some _ => abandoned t ≠ none ∧ (cacheKey = none ∨ sentText t = "")

theorem streamLoop_runs {chunks : List Json} {ending : Option Exn} {parts : List String}
    {t : List GatewayEvent} {r : Except Exn (List String × Except Exn Unit)}
    (run : Runs (streamLoop chunks ending parts) t r) :
    (∀ e ∈ t, isYield e.1 = true) ∧ ∃ outcome,
      r = .ok (parts ++ t.flatMap sentContents, outcome) ∧
      ∀ exc, (match abandoned t with
        | some e => some e
        | none => failureOf chunks ending) = some exc → outcome = .error exc := by
  induction chunks generalizing parts t with
  | nil =>
    cases ending with
    | some exc =>
      obtain ⟨rfl, rfl⟩ := runs_done run
      refine ⟨by simp, .error exc, by simp, ?_⟩
      rintro _ ⟨⟩
      rfl
    | none =>
      obtain ⟨sent, t, rfl, rest⟩ := runs_attempted run
      obtain ⟨rfl, rfl⟩ := runs_done rest
      refine ⟨by simp [isYield], sent, by simp [sentContents], ?_⟩
      rintro exc ended
      cases ended
  | cons chunk rest ih =>
    rw [streamLoop] at run
    cases contents_eq : chunkContents chunk with
    | error exc =>
      rw [contents_eq] at run
      obtain ⟨rfl, rfl⟩ := runs_done run
      refine ⟨by simp, .error exc, by simp, ?_⟩
      intro e ended
      simp only [failureOf, contents_eq, abandoned, List.findSome?_nil, Option.some.injEq] at ended
      rw [ended]
    | ok contents =>
      rw [contents_eq] at run
      obtain ⟨sent, t, rfl, second⟩ := runs_attempted run
      cases sent with
      | error exc =>
        obtain ⟨rfl, rfl⟩ := runs_done second
        refine ⟨by simp [isYield], .error exc, by simp [sentContents, contents_eq], ?_⟩
        rintro _ ⟨⟩
        rfl
      | ok u =>
        obtain ⟨yields, outcome, rfl, ended⟩ := ih second
        refine ⟨?_, outcome, ?_, ?_⟩
        · simpa [isYield] using yields
        · simp [sentContents, contents_eq]
        · have same : abandoned (⟨.yieldFrame (.chunk chunk), .ok u⟩ :: t) = abandoned t := rfl
          rw [same, failureOf, contents_eq]
          exact ended

theorem readUpstream_runs {body : ChatCompletionRequest} {t : List GatewayEvent}
    {r : Except Exn (List String × Except Exn Unit)} (run : Runs (readUpstream body) t r) :
    ∃ upstream rest outcome, t = ⟨.streamChatCompletion body, upstream⟩ :: rest ∧
      (∀ e ∈ rest, isYield e.1 = true) ∧ r = .ok (rest.flatMap sentContents, outcome) ∧
      ∀ exc, streamFailure upstream rest = some exc → outcome = .error exc := by
  obtain ⟨started, t, rfl, second⟩ := runs_attempted run
  cases started with
  | error exc =>
    obtain ⟨rfl, rfl⟩ := runs_done second
    refine ⟨.error exc, [], .error exc, rfl, by simp, rfl, ?_⟩
    rintro _ ⟨⟩
    rfl
  | ok stream =>
    obtain ⟨yields, outcome, rfl, ended⟩ := streamLoop_runs second
    exact ⟨.ok stream, t, outcome, rfl, yields, rfl, ended⟩

def isErrorFrame : GatewayEvent → Bool
  | ⟨.yieldFrame (.error _), _⟩ => true
  | _ => false

theorem settleStream_runs {outcome : Except Exn Unit} {t : List GatewayEvent}
    {r : Except Exn (Bool × Except Exn Unit)} (run : Runs (settleStream outcome) t r) :
    (∀ e ∈ t, isErrorFrame e = true) ∧ ∃ succeeded pendingResult,
      r = .ok (succeeded, pendingResult) ∧
      (succeeded = false ↔ ∃ exc, outcome = .error (.provider exc)) := by
  have passed (other : ∀ exc, outcome ≠ .error (.provider exc))
      (same : settleStream outcome = pure (true, outcome)) :
      (∀ e ∈ t, isErrorFrame e = true) ∧ ∃ succeeded pendingResult,
        r = .ok (succeeded, pendingResult) ∧
        (succeeded = false ↔ ∃ exc, outcome = .error (.provider exc)) := by
    rw [same] at run
    obtain ⟨rfl, rfl⟩ := runs_done run
    refine ⟨by simp, true, outcome, rfl, ?_⟩
    simp only [Bool.true_eq_false, false_iff, not_exists]
    exact other
  cases outcome with
  | ok u => exact passed (by simp) rfl
  | error exc =>
    cases exc with
    | provider exc =>
      obtain ⟨sent, t, rfl, rest⟩ := runs_attempted run
      obtain ⟨rfl, rfl⟩ := runs_done rest
      exact ⟨by simp [isErrorFrame], false, sent, rfl, by simp⟩
    | _ => exact passed (by simp) rfl

theorem encodingFor_raises (model : String) :
    (encodingFor model).RaisesBy fun e => faults e = true := by
  intro t exc run
  obtain ⟨t₁, r₁, t₂, rfl, first, second⟩ := runs_andThen.mp run
  rw [runs_perform first]
  cases r₁ with
  | ok a => cases second
  | error e =>
    cases e with
    | keyError =>
      rw [runs_perform second]
      exact ⟨_, .tail _ (.head _), rfl⟩
    | _ => exact ⟨_, .head _, rfl⟩

theorem countTextTokens_raises (text model : String) :
    (countTextTokens text model).RaisesBy fun e => faults e = true :=
  (encodingFor_raises model).bind fun _ => Prog.raisesBy_perform fun _ => rfl

theorem recordUsage_raises (request : ChatRequest) (providerName model : String)
    (promptTokens completionTokens : ℤ) (cacheHit : Bool) :
    (recordUsage request providerName model promptTokens completionTokens cacheHit).RaisesBy
      fun e => faults e = true := by
  refine (Prog.raisesBy_perform fun _ => rfl).bind fun _ => ?_
  refine (Prog.raisesBy_perform fun _ => rfl).bind fun _ => ?_
  refine (Prog.raisesBy_perform fun _ => rfl).bind fun _ => ?_
  refine (Prog.raisesBy_perform fun _ => rfl).bind fun _ => ?_
  refine (Prog.raisesBy_perform fun _ => rfl).bind fun _ => ?_
  exact (Prog.raisesBy_perform fun _ => rfl).bind fun _ => Prog.raisesBy_perform fun _ => rfl

section Bookkeeping
variable {config : GatewayConfig} {request : ChatRequest} {providerName : String}
  {body : ChatCompletionRequest} {promptTokens : ℕ} {cacheKey : Option String}
  {parts : List String} {t : List GatewayEvent}

theorem finishStream_failed {r : Except Exn Unit}
    (run : Runs (finishStream config request providerName body promptTokens cacheKey false parts)
      t r) : ∀ e ∈ t, stores e = false ∧ bills e = false := by
  have uses : UsesKinds [.metric, .tokenizer, .releaseSlot, .releaseLock]
      (finishStream config request providerName body promptTokens cacheKey false parts) := by
    refine finishStream_uses_of ?_ rfl (by decide)
    refine (usesKinds_call rfl).bind fun _ => (usesKinds_call rfl).bind fun _ => ?_
    exact ((countTextTokens_uses _ _).weaken (by decide)).bind fun _ => trivial
  rintro ⟨op, o⟩ mem
  have kind := uses.of_runs run _ mem
  cases op <;> first | exact ⟨rfl, rfl⟩ | exact absurd kind (by simp [GatewayOp.kind])

theorem cacheStream_nothing {text : String} {completionTokens : ℕ}
    (nothing : cacheKey = none ∨ text = "") :
    cacheStream config body cacheKey text promptTokens completionTokens = pure () := by
  rcases nothing with rfl | rfl
  · rfl
  · cases cacheKey <;> rfl

theorem finishStream_uncached {succeeded : Bool} {r : Except Exn Unit}
    (nothing : cacheKey = none ∨ String.join parts = "")
    (run : Runs (finishStream config request providerName body promptTokens cacheKey succeeded
      parts) t r) : ∀ e ∈ t, stores e = false := by
  cases succeeded with
  | false => exact fun e mem => (finishStream_failed run e mem).1
  | true =>
    have uses : UsesKinds [.metric, .tokenizer, .security, .cost, .usage, .releaseSlot, .releaseLock]
        (finishStream config request providerName body promptTokens cacheKey true parts) := by
      refine finishStream_uses_of ?_ rfl (by decide)
      refine (usesKinds_call rfl).bind fun _ => ?_
      refine ((countTextTokens_uses _ _).weaken (by decide)).bind fun completionTokens => ?_
      refine ((recordUsage_uses _ _ _ _ _ _).weaken (by decide)).bind fun _ => ?_
      rw [cacheStream_nothing nothing]
      trivial
    rintro ⟨op, o⟩ mem
    have kind := uses.of_runs run _ mem
    cases op <;> first | rfl | exact absurd kind (by simp [GatewayOp.kind])

theorem recordUsage_bills {model : String} {promptTokens completionTokens : ℤ} {cacheHit : Bool}
    (run : Runs (recordUsage request providerName model promptTokens completionTokens cacheHit) t
      (.ok ())) : ∃ e ∈ t, bills e = true := by
  obtain ⟨t₁, _, t₂, rfl, _, rest⟩ := runs_bind_ok run
  obtain ⟨t₂, cost, t₃, rfl, _, rest⟩ := runs_bind_ok rest
  obtain ⟨t₃, _, t₄, rfl, commit, _⟩ := runs_bind_ok rest
  rw [runs_perform commit]
  exact ⟨_, List.mem_append_right _ (List.mem_append_right _ (.head _)), rfl⟩

theorem cacheStream_stores {text : String} {completionTokens : ℕ} (keyed : cacheKey ≠ none)
    (some_text : text ≠ "")
    (run : Runs (cacheStream config body cacheKey text promptTokens completionTokens) t (.ok ())) :
    ∃ e ∈ t, stores e = true := by
  cases cacheKey with
  | none => exact absurd rfl keyed
  | some key =>
    rw [cacheStream, if_pos some_text] at run
    obtain ⟨t₁, hex, t₂, rfl, _, rest⟩ := runs_bind_ok run
    obtain ⟨t₂, created, t₃, rfl, _, rest⟩ := runs_bind_ok rest
    obtain ⟨t₃, responseJson, t₄, rfl, _, store⟩ := runs_bind_ok rest
    rw [runs_perform store]
    exact ⟨_, List.mem_append_right _ (List.mem_append_right _ (List.mem_append_right _ (.head _))), rfl⟩

theorem cacheStream_raises (text : String) (completionTokens : ℕ) :
    (cacheStream config body cacheKey text promptTokens completionTokens).RaisesBy
      fun e => faults e = true := by
  cases cacheKey with
  | none => exact Prog.raisesBy_pure _
  | some key =>
    simp only [cacheStream]
    split
    · refine (Prog.raisesBy_perform fun _ => rfl).bind fun hex => ?_
      refine (Prog.raisesBy_perform fun _ => rfl).bind fun created => ?_
      exact (Prog.raisesBy_perform fun _ => rfl).bind fun _ => Prog.raisesBy_perform fun _ => rfl
    · exact Prog.raisesBy_pure _

theorem bookStream_raises :
    (bookStream config request providerName body promptTokens cacheKey true parts).RaisesBy
      fun e => faults e = true := by
  refine (Prog.raisesBy_perform fun _ => rfl).bind fun _ => ?_
  refine (countTextTokens_raises _ _).bind fun completionTokens => ?_
  refine (recordUsage_raises _ _ _ _ _ _).bind fun _ => ?_
  exact cacheStream_raises _ _

/-- If no call of the bookkeeping raises, a successful stream is recorded, and cached
if there is a key and content. -/
theorem finishStream_books {r : Except Exn Unit} (sound : ∀ e ∈ t, faults e = false)
    (run : Runs (finishStream config request providerName body promptTokens cacheKey true parts)
      t r) :
    (∃ e ∈ t, bills e = true) ∧
      (cacheKey ≠ none → String.join parts ≠ "" → ∃ e ∈ t, stores e = true) := by
  rcases runs_bind run with ⟨e, booked, _⟩ | ⟨t₁, _, t₂, rfl, booked, _⟩
  · obtain ⟨fault, mem, faulty⟩ := bookStream_raises t e booked
    rw [sound fault mem] at faulty
    cases faulty
  obtain ⟨t₃, _, t₄, rfl, _, rest⟩ := runs_bind_ok booked
  obtain ⟨t₅, tokens, t₆, rfl, _, rest⟩ := runs_bind_ok rest
  obtain ⟨t₇, _, t₈, rfl, recorded, cached⟩ := runs_bind_ok rest
  constructor
  · obtain ⟨e, mem, billed⟩ := recordUsage_bills recorded
    exact ⟨e, by simp [mem], billed⟩
  · intro keyed some_text
    obtain ⟨e, mem, stored⟩ := cacheStream_stores keyed some_text cached
    exact ⟨e, by simp [mem], stored⟩

/-- A run of the generator: the chunks, an error frame if the upstream failed, and the
`finally` block. -/
theorem streamChatCompletion_runs {r : Except Exn Unit}
    (run : Runs (streamChatCompletion config request providerName body promptTokens cacheKey) t r) :
    ∃ (upstream : Except Exn UpstreamStream) (sent frames finish : List GatewayEvent)
      (outcome : Except Exn Unit) (succeeded : Bool) (r' : Except Exn Unit),
      t = ⟨.streamChatCompletion body, upstream⟩ :: (sent ++ (frames ++ finish)) ∧
      (∀ e ∈ sent, isYield e.1 = true) ∧ (∀ e ∈ frames, isErrorFrame e = true) ∧
      (∀ exc, streamFailure upstream sent = some exc → outcome = .error exc) ∧
      (succeeded = false ↔ ∃ exc, outcome = .error (.provider exc)) ∧
      Runs (finishStream config request providerName body promptTokens cacheKey succeeded
        (sent.flatMap sentContents)) finish r' := by
  rcases runs_bind run with ⟨e, first, _⟩ | ⟨t₁, ⟨parts, outcome⟩, t₂, rfl, first, rest⟩
  · obtain ⟨_, _, _, _, _, eq, _⟩ := readUpstream_runs first
    cases eq
  obtain ⟨upstream, sent, outcome', rfl, yields, eq, ended⟩ := readUpstream_runs first
  cases eq
  rcases runs_bind rest with ⟨e, second, _⟩ | ⟨frames, ⟨succeeded, pendingResult⟩, t₃, rfl, second, last⟩
  · obtain ⟨_, _, _, eq, _⟩ := settleStream_runs second
    cases eq
  obtain ⟨errorFrames, succeeded', pendingResult', eq, settled⟩ := settleStream_runs second
  cases eq
  rcases runs_bind last with ⟨e, finished, _⟩ | ⟨finish, _, t₄, rfl, finished, ending⟩
  · exact ⟨upstream, sent, frames, t₃, outcome, succeeded, _, rfl, yields, errorFrames, ended,
      settled, finished⟩
  · obtain ⟨rfl, _⟩ := runs_done ending
    refine ⟨upstream, sent, frames, finish, outcome, succeeded, _, ?_, yields, errorFrames, ended,
      settled, finished⟩
    simp

theorem only_chunks_count {sent frames finish : List GatewayEvent} {succeeded : Bool}
    {r : Except Exn Unit} (errorFrames : ∀ e ∈ frames, isErrorFrame e = true)
    (finished : Runs (finishStream config request providerName body promptTokens cacheKey succeeded
      parts) finish r) :
    abandoned (sent ++ (frames ++ finish)) = abandoned sent ∧
      sentText (sent ++ (frames ++ finish)) = sentText sent := by
  have silent : ∀ e ∈ frames ++ finish, abandons e = none ∧ sentContents e = [] := by
    rintro ⟨op, o⟩ mem
    rcases List.mem_append.mp mem with mem | mem
    · have frame := errorFrames _ mem
      cases op with
      | yieldFrame f => cases f <;> first | exact ⟨rfl, rfl⟩ | cases frame
      | _ => cases frame
    · have kind := (finishStream_uses config request providerName body promptTokens cacheKey
        succeeded parts).of_runs finished _ mem
      cases op <;> first | exact ⟨rfl, rfl⟩ | exact absurd kind (by simp [GatewayOp.kind])
  have none_abandons : (frames ++ finish).findSome? abandons = none :=
    List.findSome?_eq_none_iff.mpr fun e mem => (silent e mem).1
  have no_contents : (frames ++ finish).flatMap sentContents = [] :=
    List.flatMap_eq_nil_iff.mpr fun e mem => (silent e mem).2
  constructor
  · rw [abandoned, List.findSome?_append, none_abandons, Option.or_none, abandoned]
  · rw [sentText, List.flatMap_append, no_contents, List.append_nil, sentText]

end Bookkeeping

/-- What no yield does is done in the `finally` block. -/
theorem in_finish {sent frames : List GatewayEvent} (finish : List GatewayEvent)
    (yields : ∀ e ∈ sent, isYield e.1 = true) (errorFrames : ∀ e ∈ frames, isErrorFrame e = true)
    (p : GatewayEvent → Bool) (not_by_yield : ∀ frame o, p ⟨.yieldFrame frame, o⟩ = false) :
    (∃ e ∈ sent ++ (frames ++ finish), p e = true) ↔ ∃ e ∈ finish, p e = true := by
  constructor
  · rintro ⟨⟨op, o⟩, mem, done⟩
    rcases List.mem_append.mp mem with mem | mem
    · have yielded := yields _ mem
      cases op with
      | yieldFrame frame =>
        rw [not_by_yield] at done
        cases done
      | _ => cases yielded
    · rcases List.mem_append.mp mem with mem | mem
      · have frame := errorFrames _ mem
        cases op with
        | yieldFrame f =>
          rw [not_by_yield] at done
          cases done
        | _ => cases frame
      · exact ⟨_, mem, done⟩
  · rintro ⟨e, mem, done⟩
    exact ⟨e, by simp [mem], done⟩

section Ends
variable {upstream : Except Exn UpstreamStream} {t : List GatewayEvent}

theorem kept_of_normal_end (normal : streamFailure upstream t = none) : OnlyCompleteKept upstream t := by
  refine ⟨fun _ => normal, fun read_on failed => ?_⟩
  rw [streamFailure, read_on] at normal
  exact absurd normal failed

theorem kept_of_nothing (unstored : ¬ ∃ e ∈ t, stores e = true)
    (unbilled : ¬ ∃ e ∈ t, bills e = true) : OnlyCompleteKept upstream t :=
  ⟨fun stored => absurd stored unstored, fun _ _ => unbilled⟩

theorem cleanEnd_normal (cacheKey : Option String) (normal : streamFailure upstream t = none) :
    CleanEnd cacheKey upstream t := by
  rw [CleanEnd, normal]
  trivial

theorem cleanEnd_provider (cacheKey : Option String) {exc : ProviderError}
    (ended : streamFailure upstream t = some (.provider exc)) : CleanEnd cacheKey upstream t := by
  rw [CleanEnd, ended]
  trivial

theorem cleanEnd_other (cacheKey : Option String) {exc : Exn}
    (ended : streamFailure upstream t = some exc) (other : ∀ e, exc ≠ .provider e) :
    CleanEnd cacheKey upstream t ↔
      abandoned t ≠ none ∧ (cacheKey = none ∨ sentText t = "") := by
  rw [CleanEnd, ended]
  cases exc with
  | provider e => exact absurd rfl (other e)
  | _ => exact Iff.rfl

end Ends

theorem only_complete_streams_kept (config : GatewayConfig) (request : ChatRequest)
    (providerName : String) (body : ChatCompletionRequest) (promptTokens : ℕ)
    (cacheKey : Option String) (upstream : Except Exn UpstreamStream) (t : List GatewayEvent)
    (r : Except Exn Unit)
    (run : Runs (streamChatCompletion config request providerName body promptTokens cacheKey)
      (⟨.streamChatCompletion body, upstream⟩ :: t) r) :
    (CleanEnd cacheKey upstream t → OnlyCompleteKept upstream t) ∧
    ((∀ e ∈ t, faults e = false) → (OnlyCompleteKept upstream t ↔ CleanEnd cacheKey upstream t)) := by
  obtain ⟨upstream', sent, frames, finish, outcome, succeeded, r', eq, yields, errorFrames, ended,
    settled, finished⟩ := streamChatCompletion_runs run
  cases eq
  obtain ⟨same_abandoned, same_text⟩ := only_chunks_count errorFrames finished
  have same_end : streamFailure upstream (sent ++ (frames ++ finish)) = streamFailure upstream sent := by
    rw [streamFailure, same_abandoned, streamFailure]
  have stores_finish := in_finish finish yields errorFrames stores fun _ _ => rfl
  have bills_finish := in_finish finish yields errorFrames bills fun _ _ => rfl
  cases ending : streamFailure upstream sent with
  | none =>
    have normal := same_end.trans ending
    exact ⟨fun _ => kept_of_normal_end normal,
      fun _ => iff_of_true (kept_of_normal_end normal) (cleanEnd_normal cacheKey normal)⟩
  | some exc =>
    have outcome_eq := ended exc ending
    have ending' := same_end.trans ending
    by_cases from_provider : ∃ e, exc = .provider e
    · obtain ⟨e, rfl⟩ := from_provider
      have failed : succeeded = false := settled.mpr ⟨e, outcome_eq⟩
      subst failed
      have quiet := finishStream_failed finished
      have kept : OnlyCompleteKept upstream (sent ++ (frames ++ finish)) := by
        apply kept_of_nothing
        · rw [stores_finish]
          rintro ⟨e', mem, stored⟩
          rw [(quiet e' mem).1] at stored
          cases stored
        · rw [bills_finish]
          rintro ⟨e', mem, billed⟩
          rw [(quiet e' mem).2] at billed
          cases billed
      exact ⟨fun _ => kept, fun _ => iff_of_true kept (cleanEnd_provider cacheKey ending')⟩
    · -- Every other end counts as a success, so that the bookkeeping runs in full.
      have success : succeeded = true := by
        cases succeeded with
        | true => rfl
        | false =>
          obtain ⟨e, provider_eq⟩ := settled.mp rfl
          rw [outcome_eq] at provider_eq
          cases provider_eq
          exact absurd ⟨e, rfl⟩ from_provider
      subst success
      rw [cleanEnd_other cacheKey ending' fun e eq => from_provider ⟨e, eq⟩]
      have enough : abandoned (sent ++ (frames ++ finish)) ≠ none ∧
          (cacheKey = none ∨ sentText (sent ++ (frames ++ finish)) = "") →
          OnlyCompleteKept upstream (sent ++ (frames ++ finish)) := by
        rintro ⟨left, nothing⟩
        refine ⟨fun stored => ?_, fun read_on => absurd read_on left⟩
        rw [same_text] at nothing
        obtain ⟨e, mem, stored⟩ := stores_finish.mp stored
        rw [finishStream_uncached nothing finished e mem] at stored
        cases stored
      refine ⟨enough, fun sound => ⟨?_, enough⟩⟩
      rintro ⟨stored_only, billed_only⟩
      obtain ⟨billed, stored⟩ := finishStream_books
        (fun e mem => sound e (List.mem_append_right _ (List.mem_append_right _ mem))) finished
      refine ⟨fun read_on => ?_, ?_⟩
      · rw [streamFailure, read_on] at ending'
        exact billed_only read_on (by simp [ending']) (bills_finish.mpr billed)
      · by_contra something
        obtain ⟨keyed, some_text⟩ := not_or.mp something
        rw [same_text] at some_text
        have normal := stored_only (stores_finish.mpr (stored keyed some_text))
        rw [ending'] at normal
        cases normal

/-- What the cache keeps of the text "Hel". -/
def helCompletion : ChatCompletionResponse :=
  cacheableResponse (helloRequest true) "Hel" 8 1 "0123456789abcdef0123456789abcdef" 0

/-- `helCompletion.model_dump_json()`. -/
def helDump : String :=
  "\x7b\"id\":\"chatcmpl-cache-0123456789abcdef0123456789abcdef\",\"object\":\"chat.completion\"," ++
    "\"created\":0,\"model\":\"llama3\",\"choices\":[\x7b\"index\":0,\"message\":\x7b\"role\":" ++
    "\"assistant\",\"content\":\"Hel\"\x7d,\"finish_reason\":\"stop\"\x7d],\"usage\":" ++
    "\x7b\"prompt_tokens\":8,\"completion_tokens\":1,\"total_tokens\":9\x7d\x7d"

/-- The `finally` block of a stream that is taken for a success. -/
def bookedTrace : List GatewayEvent :=
  [⟨.metric (.providerCallDuration "ollama" .success), .ok ()⟩,
    ⟨.encodingForModel "llama3", .error .keyError⟩, ⟨.getEncoding fallbackEncoding, .ok "cl100k_base"⟩,
    ⟨.encode "cl100k_base" "Hel", .ok (1 : ℕ)⟩] ++ booking (helloChat true none) ++
  [⟨.uuid4Hex, .ok "0123456789abcdef0123456789abcdef"⟩, ⟨.timeTime, .ok (0 : ℤ)⟩,
    ⟨.modelDumpJson helCompletion, .ok helDump⟩, ⟨.storeCachedCompletion "k" helDump 300, .ok ()⟩,
    ⟨.releaseConcurrencySlot helloTenant.tenantId, .ok ()⟩]

theorem booked_run (pendingResult : Except Exn Unit) :
    Runs (do
        finishStream helloConfig (helloChat true none) "ollama" (helloRequest true) 8 (some "k") true
          ["Hel"]
        .done pendingResult)
      bookedTrace pendingResult := by
  exact .call (.call (.call (.call (.call (.call (.call (.call (.call (.call (.call (.call
    (.call (.call (.call (.call (.done _))))))))))))))))

abbrev helloStream : GatewayProg Unit :=
  streamChatCompletion helloConfig (helloChat true none) "ollama" (helloRequest true) 8 (some "k")

theorem only_complete_streams_kept_hello :
    ∃ t, (∃ e ∈ t, stores e = true) ∧ Runs helloStream
        (⟨.streamChatCompletion (helloRequest true), .ok ⟨[helloChunk], none⟩⟩ :: t) (.ok ()) ∧
      OnlyCompleteKept (.ok ⟨[helloChunk], none⟩) t := by
  have run : Runs helloStream (⟨.streamChatCompletion (helloRequest true), .ok ⟨[helloChunk], none⟩⟩ ::
      ⟨.yieldFrame (.chunk helloChunk), .ok ()⟩ :: ⟨.yieldFrame .finished, .ok ()⟩ ::
      bookedTrace) (.ok ()) := .call (.call (.call (booked_run (.ok ()))))
  refine ⟨_, ⟨⟨.storeCachedCompletion "k" helDump 300, .ok ()⟩, ?_, rfl⟩, run, ?_⟩
  · simp [bookedTrace]
  · exact (only_complete_streams_kept _ _ _ _ _ _ _ _ _ run).1 trivial

/-- The upstream breaks off after "Hel" with a read error: the half answer is cached. -/
theorem broken_stream_kept :
    ¬ ∀ upstream t r, Runs helloStream
        (⟨.streamChatCompletion (helloRequest true), upstream⟩ :: t) r →
      OnlyCompleteKept upstream t := by
  intro kept
  have run : Runs helloStream (⟨.streamChatCompletion (helloRequest true),
      .ok ⟨[helloChunk], some (.other "ReadError")⟩⟩ ::
      ⟨.yieldFrame (.chunk helloChunk), .ok ()⟩ :: bookedTrace)
      (.error (.other "ReadError")) := .call (.call (booked_run (.error (.other "ReadError"))))
  have ended := (kept _ _ _ run).1 ⟨⟨.storeCachedCompletion "k" helDump 300, .ok ()⟩, by simp [bookedTrace], rfl⟩
  cases ended

end AegisGateway.StreamCaching
