import AegisGateway.GatewayOps
import AegisGateway.TextPatterns

set_option autoImplicit false

/-!
# The prompt injection detector

`detectors/prompt_injection.py` over the embedding service. The patterns are
those of `_HEURISTIC_PATTERNS`, compiled with `re.I`; a float is the rational it
stands for, and a similarity that is not a number is `none`.
-/
namespace AegisGateway.InjectionDetector
open EffectProgram TextPatterns

/-- `str.isalnum` by the Unicode database, of which the ASCII part is fixed. -/
structure UnicodeTables where
  isalnum : Char → Bool
  ascii : ∀ c : Char, c.toNat < 128 → isalnum c = c.isAlphanum

section Heuristics

/-- The simple lower case mapping, as far as it reaches an ASCII letter. -/
def lower (c : Char) : Char :=
  if c = 'İ' then 'i' else if c = 'K' then 'k' else c.toLower

/-- With `re.I` the dotless i and the long s match their ASCII letters too. -/
def sameLetter (c d : Char) : Bool :=
  lower c = lower d || (lower c = 'i' && d = 'ı') || (lower c = 's' && d = 'ſ')

/-- The Kelvin sign is a k. -/
example : sameLetter 'k' 'K' = true := by decide

def ignoreCase (tables : UnicodeTables) : Alphabet Char where
  same := sameLetter
  isWord c := tables.isalnum c || c = '_'
  isBreak c := c = '\n'

theorem newline_not_word (tables : UnicodeTables) : (ignoreCase tables).isWord '\n' = false := by
  have plain : tables.isalnum '\n' = false := tables.ascii '\n' (by decide)
  simp [ignoreCase, plain]

def lit (text : String) : Pattern Char := .literal text.toList

def oneOf (first : String) (others : List String) : Pattern Char :=
  others.foldl (fun p text => .alt p (lit text)) (lit first)

def inOrder (parts : List (Pattern Char)) : Pattern Char := parts.foldr .seq (lit "")

def heuristicPatterns : List (Pattern Char × ℚ) :=
  [(inOrder [lit "ignore ", .opt (lit "all "), .opt (lit "the "),
      oneOf "previous" ["prior", "above"], lit " instructions"], 95 / 100),
    (inOrder [lit "disregard ", .opt (lit "all "), .opt (lit "the "),
      oneOf "previous" ["prior", "above"]], 9 / 10),
    (inOrder [lit "you are now ", oneOf "DAN" ["in developer mode", "unrestricted"]], 95 / 100),
    (inOrder [lit "pretend ", oneOf "you have" ["there are"], lit " no ",
      oneOf "content polic" ["restriction", "rule"]], 9 / 10),
    (inOrder [lit "reveal ", oneOf "your" ["the"], lit " ",
      oneOf "system prompt" ["initial instructions"]], 85 / 100),
    (inOrder [lit "repeat ", oneOf "your" ["the"], lit " ", oneOf "system prompt" ["instructions"],
      lit " ", oneOf "verbatim" ["exactly"]], 85 / 100),
    (inOrder [lit "act as ", .anyRun, lit " with no ",
      oneOf "ethical guidelines" ["restrictions", "filters"]], 85 / 100),
    (inOrder [.boundary, lit "do anything now", .boundary], 8 / 10),
    (inOrder [.boundary, lit "jailbreak", .boundary], 6 / 10),
    (inOrder [lit "bypass your ", .opt (lit "content "), lit "filter"], 85 / 100)]

def found (tables : UnicodeTables) (text : String) (pattern : Pattern Char) : Bool :=
  search (ignoreCase tables) pattern text.toList

/-- The loop over `_HEURISTIC_PATTERNS`. -/
def scoreAll (tables : UnicodeTables) (text : String) :
    List (Pattern Char × ℚ) → ℚ → ℚ
  | [], score => score
  | (pattern, weight) :: rest, score =>
    scoreAll tables text rest (if found tables text pattern then max score weight else score)

def heuristicScore (tables : UnicodeTables) (text : String) : ℚ :=
  scoreAll tables text heuristicPatterns 0

variable {tables : UnicodeTables} {text text' : String}

theorem le_scoreAll (patterns : List (Pattern Char × ℚ)) (score : ℚ) :
    score ≤ scoreAll tables text patterns score := by
  induction patterns generalizing score with
  | nil => exact le_refl score
  | cons head rest ih =>
    obtain ⟨pattern, weight⟩ := head
    rw [scoreAll]
    split
    · exact le_trans (le_max_left _ _) (ih _)
    · exact ih score

theorem weight_le_scoreAll {patterns : List (Pattern Char × ℚ)} {pattern : Pattern Char} {weight : ℚ}
    (mem : (pattern, weight) ∈ patterns) (hit : found tables text pattern = true) (score : ℚ) :
    weight ≤ scoreAll tables text patterns score := by
  induction patterns generalizing score with
  | nil => cases mem
  | cons head rest ih =>
    rcases List.mem_cons.mp mem with rfl | later
    · rw [scoreAll, if_pos hit]
      exact le_trans (le_max_right _ _) (le_scoreAll rest _)
    · obtain ⟨other, otherWeight⟩ := head
      rw [scoreAll]
      exact ih later _

theorem scoreAll_mono (more : ∀ pattern, found tables text pattern = true →
      found tables text' pattern = true) (patterns : List (Pattern Char × ℚ)) {score score' : ℚ}
    (start : score ≤ score') :
    scoreAll tables text patterns score ≤ scoreAll tables text' patterns score' := by
  induction patterns generalizing score score' with
  | nil => exact start
  | cons head rest ih =>
    obtain ⟨pattern, weight⟩ := head
    rw [scoreAll, scoreAll]
    apply ih
    by_cases hit : found tables text pattern = true
    · rw [if_pos hit, if_pos (more pattern hit)]
      exact max_le_max_right weight start
    · rw [if_neg hit]
      split
      · exact le_trans start (le_max_left _ _)
      · exact start

theorem heuristicScore_empty (tables : UnicodeTables) : heuristicScore tables "" = 0 := rfl

theorem heuristicScore_joined (tables : UnicodeTables) {segment : String} {segments : List String}
    (mem : segment ∈ segments) :
    heuristicScore tables segment ≤ heuristicScore tables ("\n".intercalate segments) := by
  apply scoreAll_mono _ heuristicPatterns (le_refl 0)
  intro pattern hit
  rw [found, String.toList_intercalate]
  exact search_intercalate (newline_not_word tables) (List.mem_map_of_mem mem) hit

end Heuristics

section Detection

inductive EmbeddingOp where
  | embedTexts (texts : List String)

abbrev EmbeddingRet (V : Type) : EmbeddingOp → Type
  | .embedTexts _ => List V

structure PromptInjectionDetector (V : Type) where
  corpusEmbeddings : Option (List V)
  embeddingsDisabled : Bool

/-- `EmbeddingUnavailableError` and the classes under `httpx.HTTPError`. -/
def isEmbeddingFailure : Exn → Bool
  | .httpxTimeout _ | .httpxConnect _ => true
  | .other name => name ∈ ["EmbeddingUnavailableError", "HTTPError", "HTTPStatusError", "RequestError",
      "TransportError", "NetworkError", "ReadError", "WriteError", "CloseError", "ProtocolError",
      "LocalProtocolError", "RemoteProtocolError", "ProxyError", "UnsupportedProtocol",
      "DecodingError", "TooManyRedirects"]
  | _ => false

/-- Python's `max` of two floats. A comparison with what is not a number is false. -/
def floatMax : Option ℚ → Option ℚ → Option ℚ
  | some a, some b => if b > a then some b else some a
  | a, _ => a

def embeddingMatchLogCutoff : ℚ := 8 / 10

variable {V : Type} (cosineSimilarity : V → V → Except Exn (Option ℚ))

/-- The largest similarity to a corpus that is not empty. -/
def bestSimilarity (textEmbedding first : V) (others : List V) : Except Exn (Option ℚ) := do
  let similarity ← cosineSimilarity textEmbedding first
  others.foldlM (fun best vector => do
    let similarity ← cosineSimilarity textEmbedding vector
    return floatMax best similarity) similarity

def embeddingScore (detector : PromptInjectionDetector V) (text : String) :
    Prog EmbeddingOp (EmbeddingRet V) Exn (Option ℚ) :=
  match detector.embeddingsDisabled, detector.corpusEmbeddings with
  | false, some (first :: others) =>
    Prog.handle (do
      let vectors ← Prog.perform (.embedTexts [text])
      match vectors with
      | [textEmbedding] => .done (bestSimilarity cosineSimilarity textEmbedding first others)
      | _ => Prog.raise (.other "ValueError"))
      fun exc => if isEmbeddingFailure exc then pure (some 0) else Prog.raise exc
  | _, _ => pure (some 0)

def verdict (heuristicScore : ℚ) (embeddingScore : Option ℚ) : InjectionVerdict where
  score := (floatMax (some heuristicScore) embeddingScore).getD heuristicScore
  matchedHeuristic := heuristicScore > 0
  matchedEmbedding := match embeddingScore with
    | some score => score ≥ embeddingMatchLogCutoff
    | none => false

def detect (tables : UnicodeTables) (detector : PromptInjectionDetector V) (text : String) :
    Prog EmbeddingOp (EmbeddingRet V) Exn InjectionVerdict :=
  if text = "" then pure ⟨0, false, false⟩
  else do
    let embedding ← embeddingScore cosineSimilarity detector text
    return verdict (heuristicScore tables text) embedding

theorem heuristic_le_verdict (heuristic : ℚ) (embedding : Option ℚ) :
    heuristic ≤ (verdict heuristic embedding).score := by
  cases embedding with
  | none => exact le_refl heuristic
  | some score =>
    change heuristic ≤ (if score > heuristic then some score else some heuristic).getD heuristic
    split
    · rename_i higher
      exact le_of_lt higher
    · exact le_refl heuristic

theorem heuristicScore_le_detect {tables : UnicodeTables} {detector : PromptInjectionDetector V}
    {text : String} {t : List (Event EmbeddingOp (EmbeddingRet V) Exn)} {v : InjectionVerdict}
    (run : Runs (detect cosineSimilarity tables detector text) t (.ok v)) :
    heuristicScore tables text ≤ v.score := by
  rw [detect] at run
  split at run
  · rename_i empty
    cases (runs_done run).2
    rw [empty, heuristicScore_empty]
  · obtain ⟨_, embedding, _, _, _, rest⟩ := runs_bind_ok run
    cases (runs_done rest).2
    exact heuristic_le_verdict _ embedding

/-- One vector that can be compared with the whole corpus, or an error that the detector expects. -/
def WellAnswered (detector : PromptInjectionDetector V) : Event EmbeddingOp (EmbeddingRet V) Exn → Prop
  | ⟨.embedTexts _, .ok vectors⟩ => ∃ textEmbedding, vectors = [textEmbedding] ∧
      ∀ corpus, detector.corpusEmbeddings = some corpus → ∀ vector ∈ corpus,
        ∃ similarity, cosineSimilarity textEmbedding vector = .ok similarity
  | ⟨.embedTexts _, .error exc⟩ => isEmbeddingFailure exc = true

theorem foldlM_floatMax_ok {textEmbedding : V} {others : List V}
    (compares : ∀ vector ∈ others, ∃ similarity, cosineSimilarity textEmbedding vector = .ok similarity)
    (best : Option ℚ) :
    ∃ result, others.foldlM (fun best vector => do
      let similarity ← cosineSimilarity textEmbedding vector
      return floatMax best similarity) best = .ok result := by
  induction others generalizing best with
  | nil => exact ⟨best, rfl⟩
  | cons vector others ih =>
    obtain ⟨similarity, eq⟩ := compares vector (.head _)
    simp only [List.foldlM_cons, eq]
    exact ih (fun v mem => compares v (.tail _ mem)) _

theorem bestSimilarity_ok {textEmbedding first : V} {others : List V}
    (compares : ∀ vector ∈ first :: others,
      ∃ similarity, cosineSimilarity textEmbedding vector = .ok similarity) :
    ∃ result, bestSimilarity cosineSimilarity textEmbedding first others = .ok result := by
  obtain ⟨similarity, eq⟩ := compares first (.head _)
  simp only [bestSimilarity, eq]
  exact foldlM_floatMax_ok cosineSimilarity (fun v mem => compares v (.tail _ mem)) _

theorem embeddingScore_returns {detector : PromptInjectionDetector V} {text : String}
    {t : List (Event EmbeddingOp (EmbeddingRet V) Exn)} {r : Except Exn (Option ℚ)}
    (run : Runs (embeddingScore cosineSimilarity detector text) t r)
    (answered : ∀ e ∈ t, WellAnswered cosineSimilarity detector e) : ∃ score, r = .ok score := by
  rw [embeddingScore] at run
  split at run
  · rename_i first others _ corpus
    cases run with
    | @call _ _ o rest _ tail =>
      have well := answered _ (.head _)
      cases o with
      | ok vectors =>
        obtain ⟨textEmbedding, rfl, compares⟩ := well
        obtain ⟨score, eq⟩ := bestSimilarity_ok cosineSimilarity (compares _ corpus)
        change Runs (Prog.handle (.done (bestSimilarity cosineSimilarity textEmbedding first others)) _)
          rest r at tail
        rw [eq] at tail
        exact ⟨score, (runs_done tail).2⟩
      | error exc =>
        change Runs (if isEmbeddingFailure exc then pure (some 0) else Prog.raise exc) rest r at tail
        have expected : isEmbeddingFailure exc = true := well
        rw [if_pos expected] at tail
        exact ⟨some 0, (runs_done tail).2⟩
  · exact ⟨some 0, (runs_done run).2⟩

theorem detect_returns {tables : UnicodeTables} {detector : PromptInjectionDetector V} {text : String}
    {t : List (Event EmbeddingOp (EmbeddingRet V) Exn)} {r : Except Exn InjectionVerdict}
    (run : Runs (detect cosineSimilarity tables detector text) t r)
    (answered : ∀ e ∈ t, WellAnswered cosineSimilarity detector e) : ∃ v, r = .ok v := by
  rw [detect] at run
  split at run
  · exact ⟨_, (runs_done run).2⟩
  · rcases runs_bind run with ⟨exc, raised, _⟩ | ⟨t₁, embedding, t₂, rfl, _, rest⟩
    · obtain ⟨score, eq⟩ := embeddingScore_returns cosineSimilarity raised answered
      cases eq
    · exact ⟨_, (runs_done rest).2⟩

end Detection
end AegisGateway.InjectionDetector
