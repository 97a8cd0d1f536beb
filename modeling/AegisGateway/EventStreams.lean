import AegisGateway.JsonLimits
import AegisGateway.ProviderCalls

set_option autoImplicit false

/-!
# Reading an event stream

The loop of `stream_chat_completion` over the lines of a response. The client splits the
text as `str.splitlines` does, which ends a line at more characters than the event-stream
format, and some of them may stand in the strings of a JSON text.
-/
namespace AegisGateway.EventStreams
open EffectProgram ProviderCalls JsonTokens JsonDecoder JsonLimits
open Pricing (startsWith)

section Lines

/-- The characters at which `str.splitlines` ends a line. -/
def isBreak (c : Char) : Bool := c.toNat ∈ [10, 11, 12, 13, 28, 29, 30, 133, 8232, 8233]

def addFirst (c : Char) : List (List Char) → List (List Char)
  | [] => [[c]]
  | line :: lines => (c :: line) :: lines

/-- A line feed behind a carriage return belongs to the same line end. -/
def splitChars : Bool → List Char → List (List Char)
  | _, [] => []
  | afterReturn, c :: rest =>
    if afterReturn && c = '\n' then splitChars false rest
    else if isBreak c then [] :: splitChars (c = '\r') rest
    else addFirst c (splitChars false rest)

def splitlines (s : String) : List String := (splitChars false s.toList).map String.ofList

theorem addFirst_append (c : Char) {lines : List (List Char)} (some : lines ≠ [])
    (more : List (List Char)) : addFirst c (lines ++ more) = addFirst c lines ++ more := by
  cases lines with
  | nil => exact absurd rfl some
  | cons line rest => rfl

theorem splitChars_ended (line : List Char) : splitChars false (line ++ ['\n']) ≠ [] := by
  cases line with
  | nil => simp [splitChars, isBreak]
  | cons c rest =>
    rw [List.cons_append, splitChars, Bool.false_and, if_neg (by simp)]
    split
    · simp
    · cases splitChars false (rest ++ ['\n']) <;> simp [addFirst]

theorem splitChars_append (line rest : List Char) (afterReturn : Bool) :
    splitChars afterReturn (line ++ '\n' :: rest) =
      splitChars afterReturn (line ++ ['\n']) ++ splitChars false rest := by
  induction line generalizing afterReturn with
  | nil =>
    cases afterReturn with
    | true => simp [splitChars]
    | false => simp [splitChars, isBreak]
  | cons c line ih =>
    simp only [List.cons_append, splitChars]
    split
    · exact ih false
    · split
      · rw [ih, List.cons_append]
      · rw [ih, addFirst_append c (splitChars_ended line)]

def Unbroken (text : List Char) : Prop := ∀ c ∈ text, isBreak c = false

theorem splitChars_unbroken {text : List Char} (h : Unbroken text) {c : Char} (isEnd : isBreak c = true)
    (rest : List Char) :
    splitChars false (text ++ c :: rest) = text :: splitChars (c = '\r') rest := by
  induction text with
  | nil => simp [splitChars, isEnd]
  | cons d text ih =>
    have plain : isBreak d = false := h d (.head _)
    rw [List.cons_append, splitChars, Bool.false_and, if_neg (by simp), if_neg (by simp [plain]),
      ih fun c mem => h c (.tail _ mem)]
    rfl

theorem break_split {text : List Char} (h : ¬ Unbroken text) :
    ∃ begun c missing, text = begun ++ c :: missing ∧ Unbroken begun ∧ isBreak c = true := by
  induction text with
  | nil => exact absurd (by simp [Unbroken]) h
  | cons d text ih =>
    cases ends : isBreak d with
    | true => exact ⟨[], d, text, rfl, by simp [Unbroken], ends⟩
    | false =>
      have later : ¬ Unbroken text := fun all => h (List.forall_mem_cons.mpr ⟨ends, all⟩)
      obtain ⟨begun, c, missing, rfl, unbroken, isEnd⟩ := ih later
      exact ⟨d :: begun, c, missing, rfl, List.forall_mem_cons.mpr ⟨ends, unbroken⟩, isEnd⟩

inductive Newline where
  | lf
  | crlf

def Newline.text : Newline → List Char
  | .lf => ['\n']
  | .crlf => ['\r', '\n']

theorem newline_append (line rest : List Char) (newline : Newline) :
    splitChars false (line ++ (newline.text ++ rest)) =
      splitChars false (line ++ newline.text) ++ splitChars false rest := by
  cases newline with
  | lf => exact splitChars_append line rest false
  | crlf =>
    have split := splitChars_append (line ++ ['\r']) rest false
    simpa [Newline.text] using split

theorem unbroken_line {text : List Char} (h : Unbroken text) (newline : Newline) :
    splitChars false (text ++ newline.text) = [text] := by
  cases newline with
  | lf =>
    rw [Newline.text, splitChars_unbroken h (by decide)]
    rfl
  | crlf =>
    rw [Newline.text, splitChars_unbroken h (by decide)]
    rfl

end Lines

section Reading
variable (lib : Libraries) (config : ProviderConfig)

/-- How the loop leaves a run of lines. -/
inductive Outcome where
  | goesOn
  | stops
  | fails (exc : Exn)

def Outcome.result : Outcome → Except Exn Unit
  | .goesOn | .stops => .ok ()
  | .fails exc => .error exc

/-- What the loop yields on a run of lines, and how it leaves them. -/
def readPieces : List String → List Json × Outcome
  | [] => ([], .goesOn)
  | line :: rest =>
    if startsWith line "data:" then
      match chunkOf lib config line with
      | .error exc => ([], .fails exc)
      | .ok none => ([], .stops)
      | .ok (some chunk) => (chunk :: (readPieces rest).1, (readPieces rest).2)
    else readPieces rest

def yields (chunks : List Json) : List (Event ProviderOp ProviderRet Exn) :=
  chunks.map fun chunk => ⟨.yieldChunk chunk, .ok ()⟩

/-- The chunks that a run of the provider yields. -/
def yieldedChunks (t : List (Event ProviderOp ProviderRet Exn)) : List Json :=
  t.filterMap fun
    | ⟨.yieldChunk chunk, _⟩ => some chunk
    | _ => none

/-- The client takes every chunk. -/
def TakesChunks (t : List (Event ProviderOp ProviderRet Exn)) : Prop :=
  ∀ chunk o, ⟨.yieldChunk chunk, o⟩ ∈ t → o = .ok ()

variable {lib config}

theorem yieldedChunks_yields (chunks : List Json) : yieldedChunks (yields chunks) = chunks := by
  induction chunks with
  | nil => rfl
  | cons chunk rest ih => exact congrArg (chunk :: ·) ih

/-- The loop does on the lines what `readPieces` says. -/
theorem readLines_runs {lines : List String} {t : List (Event ProviderOp ProviderRet Exn)}
    {r : Except Exn Unit} (run : Runs (readLines lib config lines none) t r) (takes : TakesChunks t) :
    t = yields (readPieces lib config lines).1 ∧ r = (readPieces lib config lines).2.result := by
  induction lines generalizing t with
  | nil =>
    obtain ⟨rfl, rfl⟩ := runs_done run
    exact ⟨rfl, rfl⟩
  | cons line rest ih =>
    rw [readLines] at run
    rw [readPieces]
    split at run
    · rename_i data
      rw [if_pos data]
      cases chunk : chunkOf lib config line with
      | error exc =>
        simp only [chunk] at run
        obtain ⟨rfl, rfl⟩ := runs_done run
        exact ⟨rfl, rfl⟩
      | ok read =>
        cases read with
        | none =>
          simp only [chunk] at run
          obtain ⟨rfl, rfl⟩ := runs_done run
          exact ⟨rfl, rfl⟩
        | some value =>
          simp only [chunk] at run
          cases run with
          | @call _ _ o later _ tail =>
            obtain rfl := takes value o (.head _)
            obtain ⟨rfl, rfl⟩ := ih tail fun c o mem => takes c o (.tail _ mem)
            exact ⟨rfl, rfl⟩
    · rename_i other
      rw [if_neg other]
      exact ih run takes

/-- The upstream's body is `body`, read to its end, and the client takes what it is sent. -/
structure Served (body : String) (t : List (Event ProviderOp ProviderRet Exn)) : Prop where
  reads : ⟨.aiterLines, .ok ⟨splitlines body, none⟩⟩ ∈ t
  once : ∀ o, ⟨.aiterLines, o⟩ ∈ t → o = .ok ⟨splitlines body, none⟩
  takes : TakesChunks t
  closes : ∀ o, ⟨.aclose, o⟩ ∈ t → o = .ok ()

/-- Opening the stream reads and yields nothing. -/
def opens : ProviderOp → Bool
  | .aiterLines | .yieldChunk _ => false
  | _ => true

theorem opening_uses (payload : JsonObject) :
    (runWithBreaker config (openStream payload)).Uses fun op => opens op = true := by
  have own (op : ProviderOp) (guard : guards op = true) : opens op = true := by
    cases op <;> first
      | rfl
      | cases guard
  refine runWithBreaker_uses own config ?_
  have asks {op : ProviderOp} (opening : opens op = true) :
      (ProviderCalls.call op).Uses fun op => opens op = true := Prog.uses_perform opening
  refine (asks rfl).bind fun statusCode => ?_
  split
  · exact (asks rfl).bind fun _ => (asks rfl).bind fun _ => trivial
  · trivial

theorem yieldedChunks_opening {t : List (Event ProviderOp ProviderRet Exn)}
    (apart : ∀ e ∈ t, opens e.1 = true) : yieldedChunks t = [] := by
  rw [yieldedChunks, List.filterMap_eq_nil_iff]
  intro e mem
  obtain ⟨op, o⟩ := e
  have opening := apart _ mem
  cases op <;> first
    | rfl
    | cases opening

/-- A run of the provider yields what the loop yields on the lines of the body, and ends as it
leaves them. -/
theorem stream_runs {request : ChatCompletionRequest} {body : String}
    {t : List (Event ProviderOp ProviderRet Exn)} {r : Except Exn Unit}
    (run : Runs (ProviderCalls.streamChatCompletion lib config request) t r) (served : Served body t) :
    yieldedChunks t = (readPieces lib config (splitlines body)).1 ∧
      r = (readPieces lib config (splitlines body)).2.result := by
  rcases runs_bind run with ⟨exc, opening, rfl⟩ | ⟨t₁, u, t₂, rfl, opening, reading⟩
  · have apart := (opening_uses _).of_runs opening _ served.reads
    cases apart
  · obtain ⟨t₃, r₃, t₄, rfl, read, closed⟩ := runs_andThen.mp reading
    obtain ⟨t₅, r₅, t₆, rfl, asked, lines⟩ := runs_andThen.mp read
    have events := runs_perform asked
    subst events
    have answered := served.once r₅ (by simp)
    subst answered
    have takes : TakesChunks t₆ := fun chunk o mem => served.takes chunk o (by simp [mem])
    obtain ⟨rfl, rfl⟩ := readLines_runs lines takes
    obtain ⟨t₇, r₇, t₈, rfl, closing, ended⟩ := runs_andThen.mp closed
    have events := runs_perform closing
    subst events
    have finished := served.closes r₇ (by simp)
    subst finished
    obtain ⟨rfl, rfl⟩ := runs_done ended
    refine ⟨?_, rfl⟩
    have before := yieldedChunks_opening ((opening_uses _).of_runs opening)
    have read := yieldedChunks_yields (readPieces lib config (splitlines body)).1
    rw [yieldedChunks] at before read
    rw [yieldedChunks, List.filterMap_append, before, List.filterMap_append, List.filterMap_append, read]
    simp

end Reading

section Stripping

/-- `strip` takes the spaces away from both ends, and keeps a text that begins with none. -/
theorem strip_split {spaces core : List Char} {c : Char} (all : ∀ d ∈ spaces, isSpace d = true)
    (first : core.head? = some c) (solid : isSpace c = false) :
    ∃ kept after, core = kept ++ after ∧ kept.head? = some c ∧ (∀ d ∈ after, isSpace d = true) ∧
      strip (String.ofList (spaces ++ core)) = String.ofList kept := by
  have after (d : Char) (mem : d ∈ (core.reverse.takeWhile isSpace).reverse) : isSpace d = true :=
    List.mem_takeWhile_imp (List.mem_reverse.mp mem)
  have split : core = (core.reverse.dropWhile isSpace).reverse ++ (core.reverse.takeWhile isSpace).reverse := by
    rw [← List.reverse_append, List.takeWhile_append_dropWhile, List.reverse_reverse]
  refine ⟨_, _, split, ?_, after, ?_⟩
  · cases kept : (core.reverse.dropWhile isSpace).reverse with
    | nil =>
      rw [kept, List.nil_append] at split
      rw [← split] at after
      have space := after c (List.mem_of_mem_head? first)
      rw [solid] at space
      cases space
    | cons d rest =>
      rw [split, kept] at first
      exact first
  · rw [strip, String.toList_ofList, dropWhile_spaces all first solid]

theorem strip_blanks (blanks : ℕ) : strip (String.ofList (List.replicate blanks ' ')) = "" := by
  have all : ∀ c ∈ List.replicate blanks ' ', isSpace c = true := fun c mem => by
    rw [List.eq_of_mem_replicate mem]
    rfl
  rw [strip, String.toList_ofList, List.dropWhile_eq_nil_iff.mpr all]
  rfl

theorem jsonSpace_isSpace {c : Char} (h : isJsonSpace c = true) : isSpace c = true := by
  simp only [isJsonSpace, Bool.or_eq_true, decide_eq_true_eq] at h
  rcases h with ((rfl | rfl) | rfl) | rfl <;> decide

end Stripping

section Bodies

/-- The library with the decoder of the standard library. -/
def withJson (limits : Limits) (py : PyTexts) (lib : Libraries) : Libraries :=
  { lib with jsonLoads := jsonLoads limits py }

/-- The library with a decoder that has no limits. -/
def withTexts (py : PyTexts) (lib : Libraries) : Libraries :=
  { lib with jsonLoads := fun s => decoded (loads py s) }

variable (py : PyTexts)

def dataField : List Char := ['d', 'a', 't', 'a', ':']

/-- A line of an upstream's body: an object stands on it with its text. -/
inductive SseLine where
  | blank
  | other (text : List Char) (oneLine : '\n' ∉ text) (field : ¬ dataField <+: text)
  | keepAlive (blanks : ℕ)
  | object (text : List Char) (members : JsonObject) (oneLine : '\n' ∉ text ∧ '\r' ∉ text)
      (reads : loads py (String.ofList text) = some (.obj members))

variable {py}

def SseLine.text : SseLine py → List Char
  | .blank => []
  | .other text _ _ => text
  | .keepAlive blanks => dataField ++ List.replicate blanks ' '
  | .object text _ _ _ => dataField ++ ' ' :: text

def SseLine.object? : SseLine py → List Json
  | .object _ members _ _ => [.obj members]
  | _ => []

abbrev SseBody (py : PyTexts) := List (SseLine py × Newline)

def objects (lines : SseBody py) : List Json := lines.flatMap fun line => line.1.object?

def doneText : List Char := dataField ++ [' ', '[', 'D', 'O', 'N', 'E', ']']

/-- The lines, then `data: [DONE]`, then whatever is sent after it. -/
def bodyText (lines : SseBody py) (newline : Newline) (after : List Char) : String :=
  String.ofList (lines.flatMap (fun line => line.1.text ++ line.2.text) ++
    (doneText ++ (newline.text ++ after)))

theorem done_unbroken : Unbroken doneText := by simp [Unbroken, doneText, dataField, isBreak]

/-- What the client makes of one line. -/
def pieces (text : List Char) (newline : Newline) : List String :=
  (splitChars false (text ++ newline.text)).map String.ofList

theorem splitlines_body (lines : SseBody py) (newline : Newline) (after : List Char) :
    splitlines (bodyText lines newline after) = lines.flatMap (fun line => pieces line.1.text line.2) ++
      String.ofList doneText :: (splitChars false after).map String.ofList := by
  rw [splitlines, bodyText, String.toList_ofList]
  induction lines with
  | nil =>
    rw [List.flatMap_nil, List.nil_append, newline_append, unbroken_line done_unbroken]
    rfl
  | cons line rest ih =>
    rw [List.flatMap_cons, List.flatMap_cons, List.append_assoc, List.append_assoc, newline_append,
      List.map_append, ih, List.append_assoc]
    rfl

theorem object_text {text : List Char} {members : JsonObject}
    (reads : loads py (String.ofList text) = some (.obj members)) :
    ∃ before used after, text = before ++ (used ++ after) ∧ Spaces before ∧ Spaces after ∧
      used.head? = some '\x7b' ∧ used.getLast? = some '\x7d' ∧
      Takes (scanOnce py) Anything used (.obj members) := by
  obtain ⟨before, used, after, split, spaces, spaces', braced, takes⟩ := loads_split reads
  rw [String.toList_ofList] at split
  obtain ⟨first, last⟩ := braced members rfl
  exact ⟨before, used, after, split, spaces, spaces', first, last, takes⟩

theorem blank_spaces {before : List Char} (spaces : Spaces before) :
    ∀ c ∈ ' ' :: before, isSpace c = true :=
  List.forall_mem_cons.mpr ⟨rfl, fun c mem => jsonSpace_isSpace (spaces c mem)⟩

theorem ofList_ne {kept : List Char} {s : String} (first : kept.head? = some '\x7b')
    (other : s.toList.head? ≠ some '\x7b') : String.ofList kept ≠ s := by
  rintro rfl
  rw [String.toList_ofList] at other
  exact other first

theorem payload_text (text : List Char) :
    payload (String.ofList (dataField ++ text)) = strip (String.ofList text) := by
  rw [payload, String.toList_ofList]
  rfl

theorem chunkOf_loaded {lib : Libraries} {line : String} {chunk : Json} (config : ProviderConfig)
    (data : ¬ (payload line = "" ∨ payload line = "[DONE]"))
    (loaded : lib.jsonLoads (payload line) = .ok chunk) : chunkOf lib config line = .ok (some chunk) := by
  rw [chunkOf_payload, if_neg data, loaded]

theorem chunkOf_refused {lib : Libraries} {line : String} {e : LoadError} (config : ProviderConfig)
    (data : ¬ (payload line = "" ∨ payload line = "[DONE]"))
    (refused : lib.jsonLoads (payload line) = .error e) : ∃ exc, chunkOf lib config line = .error exc := by
  rw [chunkOf_payload, if_neg data, refused]
  cases e <;> exact ⟨_, rfl⟩

theorem strip_space (text : List Char) : strip (String.ofList (' ' :: text)) = strip (String.ofList text) := by
  rw [strip, strip, String.toList_ofList, String.toList_ofList, List.dropWhile_cons_of_pos (by decide)]

theorem object_data {text : List Char} {members : JsonObject}
    (reads : loads py (String.ofList text) = some (.obj members)) :
    ¬ (strip (String.ofList text) = "" ∨ strip (String.ofList text) = "[DONE]") ∧
      loads py (strip (String.ofList text)) = some (.obj members) := by
  obtain ⟨before, used, after, rfl, spaces, spaces', first, last, takes⟩ := object_text reads
  have stripped : strip (String.ofList (before ++ (used ++ after))) = String.ofList used :=
    strip_between (fun c mem => jsonSpace_isSpace (spaces c mem)) first (by decide) last (by decide)
      fun c mem => jsonSpace_isSpace (spaces' c mem)
  rw [stripped]
  constructor
  · rintro (empty | done)
    · exact ofList_ne first (by simp) empty
    · exact ofList_ne first (by simp) done
  · have value := @loads_value py [] used [] (.obj members) (by simp [Spaces]) takes (by simp [Spaces])
    rwa [List.nil_append, List.append_nil] at value

theorem object_payload (text : List Char) :
    payload (String.ofList (dataField ++ ' ' :: text)) = strip (String.ofList text) := by
  rw [payload_text, strip_space]

theorem break_notSpace {c : Char} (oneLine : c ≠ '\n' ∧ c ≠ '\r') (isEnd : isBreak c = true) :
    isJsonSpace c = false := by
  have plain : c ≠ ' ' ∧ c ≠ '\t' := by
    constructor
    · rintro rfl
      revert isEnd
      decide
    · rintro rfl
      revert isEnd
      decide
  simp [isJsonSpace, oneLine, plain]

theorem cut_begun {before used after begun missing : List Char} {c : Char} (spaces : Spaces before)
    (spaces' : Spaces after) (first : used.head? = some '\x7b') (isEnd : isBreak c = true)
    (notSpace : isJsonSpace c = false) (split : before ++ (used ++ after) = begun ++ c :: missing) :
    ∃ start rest, begun = before ++ start ∧ used = start ++ rest ∧ start ≠ [] ∧ rest ≠ [] := by
  have inAfter (front : List Char) (same : after = front ++ c :: missing) : False := by
    have space := spaces' c (by rw [same]; simp)
    rw [notSpace] at space
    cases space
  have fresh (rest : List Char) (same : c :: missing = rest ++ after) (begins : rest.head? = some '\x7b') :
      False := by
    cases rest with
    | nil => cases begins
    | cons d rest =>
      cases begins
      obtain ⟨rfl, _⟩ := List.cons.inj same
      revert isEnd
      decide
  rcases List.append_eq_append_iff.mp split with ⟨start, rfl, same⟩ | ⟨start, rfl, same⟩
  · rcases List.append_eq_append_iff.mp same with ⟨tail, rfl, same'⟩ | ⟨rest, rfl, same'⟩
    · exact (inAfter tail same').elim
    · refine ⟨start, rest, rfl, rfl, ?_, ?_⟩
      · rintro rfl
        exact fresh rest same' first
      · rintro rfl
        exact inAfter [] same'.symm
  · cases start with
    | nil => exact (fresh used same first).elim
    | cons d tail =>
      obtain ⟨rfl, _⟩ := List.cons.inj same
      have space := spaces c (by simp)
      rw [notSpace] at space
      cases space

theorem chunkOf_cut (limits : Limits) (lib : Libraries) (config : ProviderConfig) {begun missing : List Char} {c : Char}
    {members : JsonObject} (oneLine : c ≠ '\n' ∧ c ≠ '\r') (isEnd : isBreak c = true)
    (reads : loads py (String.ofList (begun ++ c :: missing)) = some (.obj members)) :
    ∃ exc, chunkOf (withJson limits py lib) config (String.ofList (dataField ++ ' ' :: begun)) =
      .error exc := by
  have notSpace := break_notSpace oneLine isEnd
  obtain ⟨before, used, after, split, spaces, spaces', first, last, takes⟩ := object_text reads
  obtain ⟨start, rest, rfl, rfl, nonempty, more⟩ :=
    cut_begun spaces spaces' first isEnd notSpace split.symm
  have begins : start.head? = some '\x7b' := by
    cases start with
    | nil => exact absurd rfl nonempty
    | cons d tail => exact first
  obtain ⟨kept, trimmed, rfl, head, _, stripped⟩ :=
    strip_split (blank_spaces spaces) begins (by decide)
  have braced : Braced (.obj members) (kept ++ (trimmed ++ rest)) := by
    intro _ _
    rw [← List.append_assoc]
    exact ⟨first, last⟩
  have kept_ne : kept ≠ [] := by
    rintro rfl
    cases head
  have refused : loads py (String.ofList kept) = none := by
    rw [List.append_assoc] at takes
    refine loads_unfinished takes braced kept_ne ?_
    intro none
    exact more (List.append_eq_nil_iff.mp none).2
  have data_ne : ¬ (String.ofList kept = "" ∨ String.ofList kept = "[DONE]") := by
    rintro (empty | done)
    · exact ofList_ne head (by simp) empty
    · exact ofList_ne head (by simp) done
  have malformed : ∃ e, (withJson limits py lib).jsonLoads (String.ofList kept) = .error e := by
    cases loaded : jsonLoads limits py (String.ofList kept) with
    | error e => exact ⟨e, loaded⟩
    | ok v =>
      have value := (jsonLoads_agrees _).ok v loaded
      rw [refused] at value
      cases value
  obtain ⟨e, raised⟩ := malformed
  have data : payload (String.ofList (dataField ++ ' ' :: (before ++ (kept ++ trimmed)))) =
      String.ofList kept := by
    rw [payload_text, ← List.cons_append, stripped]
  rw [← data] at data_ne raised
  exact chunkOf_refused config data_ne raised

end Bodies

section Delivery
variable {lib : Libraries} {config : ProviderConfig} {line : String} {rest : List String}
  {ahead expected : List Json}

/-- With these chunks yielded already, the lines bring what is expected. -/
def Brings (lib : Libraries) (config : ProviderConfig) (lines : List String)
    (ahead expected : List Json) : Prop :=
  ahead ++ (readPieces lib config lines).1 = expected ∧
    (readPieces lib config lines).2.result = .ok ()

theorem brings_skip (other : startsWith line "data:" = false) :
    Brings lib config (line :: rest) ahead expected ↔ Brings lib config rest ahead expected := by
  rw [Brings, readPieces, if_neg (by simp [other])]
  exact Iff.rfl

theorem brings_stop (data : startsWith line "data:" = true) (stop : chunkOf lib config line = .ok none) :
    Brings lib config (line :: rest) ahead expected ↔ ahead = expected := by
  rw [Brings, readPieces, if_pos data, stop]
  simp [Outcome.result]

theorem brings_chunk (data : startsWith line "data:" = true) {chunk : Json}
    (read : chunkOf lib config line = .ok (some chunk)) :
    Brings lib config (line :: rest) ahead expected ↔
      Brings lib config rest (ahead ++ [chunk]) expected := by
  rw [Brings, readPieces, if_pos data, read, Brings, List.append_assoc]
  exact Iff.rfl

theorem brings_failure (data : startsWith line "data:" = true) {exc : Exn}
    (failed : chunkOf lib config line = .error exc) :
    ¬ Brings lib config (line :: rest) ahead expected := by
  rw [Brings, readPieces, if_pos data, failed]
  simp [Outcome.result]

theorem brings_cons {first : Json} :
    Brings lib config rest (first :: ahead) (first :: expected) ↔
      Brings lib config rest ahead expected := by
  rw [Brings, Brings, List.cons_append, List.cons.injEq]
  simp

end Delivery

section Conditions
variable {py : PyTexts}

/-- The `data:` pieces of a line, each without its field name. -/
def hidden (text : List Char) (newline : Newline) : List String :=
  ((pieces text newline).filter fun piece => startsWith piece "data:").map payload

/-- The decoder takes the object within its limits. -/
def Loads (limits : Limits) (py : PyTexts) (text : List Char) : Prop :=
  (jsonLoads limits py (strip (String.ofList text))).isOk = true

/-- Pieces hidden in a line that carries no object: `ahead` are chunks that no object line has
brought yet. A piece that stops the reader must find that these are just the objects left. -/
def Harmless (limits : Limits) (py : PyTexts) (left : List Json) (later : List Json → Prop) :
    List String → List Json → Prop
  | [], ahead => later ahead
  | data :: rest, ahead =>
    if data = "" ∨ data = "[DONE]" then ahead = left
    else match jsonLoads limits py data with
      | .ok chunk => Harmless limits py left later rest (ahead ++ [chunk])
      | .error _ => False

/-- No object is cut or over the limits, none comes after an empty `data:`, and no other line hides
a `data:` piece that does harm. -/
def Readable (limits : Limits) : List Json → SseBody py → Prop
  | ahead, [] => ahead = []
  | ahead, (.blank, _) :: rest => Readable limits ahead rest
  | ahead, (.other text _ _, newline) :: rest =>
    Harmless limits py (objects rest) (fun ahead' => Readable limits ahead' rest) (hidden text newline) ahead
  | ahead, (.keepAlive _, _) :: rest => ahead = objects rest
  | ahead, (.object text members _ _, _) :: rest =>
    Unbroken text ∧ Loads limits py text ∧
      ∃ ahead', ahead ++ [.obj members] = .obj members :: ahead' ∧ Readable limits ahead' rest

variable {limits : Limits} (lib : Libraries) (config : ProviderConfig)

theorem startsWith_data (text : List Char) : startsWith (String.ofList (dataField ++ text)) "data:" = true := by
  have letters : (String.ofList (dataField ++ text)).toList = dataField ++ text := String.toList_ofList
  rw [startsWith, List.isPrefixOf_iff_prefix, letters]
  exact List.prefix_append dataField text

theorem done_stops : chunkOf lib config (String.ofList doneText) = .ok none := by
  rw [chunkOf_payload, doneText, payload_text]
  exact if_pos (.inr (by decide))

theorem unbroken_data {text : List Char} (unbroken : Unbroken text) : Unbroken (dataField ++ text) := by
  have name : Unbroken dataField := by simp [Unbroken, dataField, isBreak]
  intro c mem
  rcases List.mem_append.mp mem with field | inside
  · exact name c field
  · exact unbroken c inside

theorem harmless_iff {left : List Json} {later : List Json → Prop} {tail : List String}
    (rest : ∀ ahead, Brings (withJson limits py lib) config tail ahead left ↔ later ahead)
    (lines : List String) (ahead : List Json) :
    Brings (withJson limits py lib) config (lines ++ tail) ahead left ↔
      Harmless limits py left later ((lines.filter fun piece => startsWith piece "data:").map payload)
        ahead := by
  induction lines generalizing ahead with
  | nil => exact rest ahead
  | cons line lines ih =>
    rw [List.cons_append]
    cases data : startsWith line "data:" with
    | false =>
      rw [brings_skip data, List.filter_cons_of_neg (by simp [data])]
      exact ih ahead
    | true =>
      have read := chunkOf_payload (withJson limits py lib) config line
      rw [List.filter_cons_of_pos (by simp [data]), List.map_cons, Harmless]
      split
      · rename_i stop
        rw [if_pos stop] at read
        exact brings_stop data read
      · rename_i goesOn
        have loading (s : String) : (withJson limits py lib).jsonLoads s = jsonLoads limits py s := rfl
        cases value : jsonLoads limits py (payload line) with
        | error e =>
          rw [← loading] at value
          obtain ⟨exc, failed⟩ := chunkOf_refused config goesOn value
          exact iff_of_false (brings_failure data failed) id
        | ok chunk =>
          rw [← loading] at value
          exact (brings_chunk data (chunkOf_loaded config goesOn value)).trans (ih _)

variable (limits) in
theorem object_loaded {text : List Char} {members : JsonObject}
    (reads : loads py (String.ofList text) = some (.obj members)) :
    jsonLoads limits py (strip (String.ofList text)) = .ok (.obj members) ∨
      ∃ e, jsonLoads limits py (strip (String.ofList text)) = .error e := by
  cases loaded : jsonLoads limits py (strip (String.ofList text)) with
  | error e => exact .inr ⟨e, rfl⟩
  | ok v =>
    have value := (jsonLoads_agrees _).ok v loaded
    rw [(object_data reads).2] at value
    cases value
    exact .inl rfl

theorem chunkOf_object {text : List Char} {members : JsonObject} (loaded : Loads limits py text)
    (reads : loads py (String.ofList text) = some (.obj members)) :
    chunkOf (withJson limits py lib) config (String.ofList (dataField ++ ' ' :: text)) =
      .ok (some (.obj members)) := by
  have data := (object_data reads).1
  rw [← object_payload] at data
  refine chunkOf_loaded config data ?_
  rw [object_payload]
  rcases object_loaded limits reads with value | ⟨e, refused⟩
  · exact value
  · rw [Loads, refused] at loaded
    cases loaded

theorem brings_over {text : List Char} {members : JsonObject} (unbroken : Unbroken text)
    (beyond : ¬ Loads limits py text) (reads : loads py (String.ofList text) = some (.obj members))
    (newline : Newline) (tail : List String) (ahead expected : List Json) :
    ¬ Brings (withJson limits py lib) config (pieces (dataField ++ ' ' :: text) newline ++ tail) ahead
        expected := by
  have whole : Unbroken (dataField ++ ' ' :: text) :=
    unbroken_data (List.forall_mem_cons.mpr ⟨rfl, unbroken⟩)
  have data := (object_data reads).1
  rw [← object_payload] at data
  have refused : ∃ e, (withJson limits py lib).jsonLoads
      (payload (String.ofList (dataField ++ ' ' :: text))) = .error e := by
    rw [object_payload]
    rcases object_loaded limits reads with value | refused
    · rw [Loads, value] at beyond
      exact absurd rfl beyond
    · exact refused
  obtain ⟨e, raised⟩ := refused
  obtain ⟨exc, failed⟩ := chunkOf_refused config data raised
  rw [pieces, unbroken_line whole, List.map_singleton, List.singleton_append]
  exact brings_failure (startsWith_data _) failed

theorem brings_unbroken {text : List Char} {members : JsonObject} (unbroken : Unbroken text)
    (loaded : Loads limits py text) (reads : loads py (String.ofList text) = some (.obj members)) (newline : Newline)
    (tail : List String) (ahead expected : List Json) :
    Brings (withJson limits py lib) config (pieces (dataField ++ ' ' :: text) newline ++ tail) ahead
        (.obj members :: expected) ↔
      ∃ ahead', ahead ++ [.obj members] = .obj members :: ahead' ∧
        Brings (withJson limits py lib) config tail ahead' expected := by
  have whole : Unbroken (dataField ++ ' ' :: text) :=
    unbroken_data (List.forall_mem_cons.mpr ⟨rfl, unbroken⟩)
  have read := chunkOf_object lib config loaded reads
  rw [pieces, unbroken_line whole, List.map_cons, List.map_nil, List.cons_append, List.nil_append,
    brings_chunk (startsWith_data _) read]
  constructor
  · rintro ⟨same, ended⟩
    have begins : ∃ ahead', ahead ++ [.obj members] = .obj members :: ahead' := by
      cases ahead with
      | nil => exact ⟨[], rfl⟩
      | cons first others =>
        obtain ⟨rfl, _⟩ := List.cons.inj same
        exact ⟨_, rfl⟩
    obtain ⟨ahead', moved⟩ := begins
    have delivered : Brings (withJson limits py lib) config tail (.obj members :: ahead')
        (.obj members :: expected) := by
      rw [← moved]
      exact ⟨same, ended⟩
    exact ⟨ahead', moved, brings_cons.mp delivered⟩
  · rintro ⟨ahead', moved, delivers⟩
    rw [moved]
    exact brings_cons.mpr delivers

theorem brings_cut {text : List Char} {members : JsonObject} (oneLine : '\n' ∉ text ∧ '\r' ∉ text)
    (cut : ¬ Unbroken text) (reads : loads py (String.ofList text) = some (.obj members))
    (newline : Newline) (tail : List String) (ahead expected : List Json) :
    ¬ Brings (withJson limits py lib) config (pieces (dataField ++ ' ' :: text) newline ++ tail) ahead
        expected := by
  obtain ⟨begun, c, missing, rfl, before, isEnd⟩ := break_split cut
  have plain : c ≠ '\n' ∧ c ≠ '\r' := by
    constructor
    · rintro rfl
      exact oneLine.1 (by simp)
    · rintro rfl
      exact oneLine.2 (by simp)
  have whole : Unbroken (dataField ++ ' ' :: begun) :=
    unbroken_data (List.forall_mem_cons.mpr ⟨rfl, before⟩)
  obtain ⟨exc, failed⟩ := chunkOf_cut limits lib config plain isEnd reads
  have split := splitChars_unbroken whole isEnd (missing ++ newline.text)
  have same : dataField ++ ' ' :: (begun ++ c :: missing) ++ newline.text =
      dataField ++ ' ' :: begun ++ c :: (missing ++ newline.text) := by simp
  rw [pieces, same, split, List.map_cons, List.cons_append]
  exact brings_failure (startsWith_data _) failed

theorem brings_object {text : List Char} {members : JsonObject} (oneLine : '\n' ∉ text ∧ '\r' ∉ text)
    (reads : loads py (String.ofList text) = some (.obj members)) (newline : Newline)
    (tail : List String) (ahead expected : List Json) :
    Brings (withJson limits py lib) config (pieces (dataField ++ ' ' :: text) newline ++ tail) ahead
        (.obj members :: expected) ↔
      Unbroken text ∧ Loads limits py text ∧
        ∃ ahead', ahead ++ [.obj members] = .obj members :: ahead' ∧
          Brings (withJson limits py lib) config tail ahead' expected := by
  by_cases unbroken : Unbroken text
  · by_cases loaded : Loads limits py text
    · rw [brings_unbroken lib config unbroken loaded reads]
      exact ((and_iff_right unbroken).trans (and_iff_right loaded)).symm
    · exact iff_of_false (brings_over lib config unbroken loaded reads newline tail ahead _)
        fun both => loaded both.2.1
  · exact iff_of_false (brings_cut lib config oneLine unbroken reads newline tail ahead _)
      fun both => unbroken both.1

theorem brings_iff (after : List String) (lines : SseBody py) (ahead : List Json) :
    Brings (withJson limits py lib) config (lines.flatMap (fun line => pieces line.1.text line.2) ++
        String.ofList doneText :: after) ahead (objects lines) ↔ Readable limits ahead lines := by
  induction lines generalizing ahead with
  | nil => exact brings_stop (startsWith_data _) (done_stops (withJson limits py lib) config)
  | cons line rest ih =>
    obtain ⟨line, newline⟩ := line
    rw [List.flatMap_cons, List.append_assoc]
    cases line with
    | blank =>
      have empty : Unbroken [] := by simp [Unbroken]
      rw [SseLine.text, pieces, unbroken_line empty]
      exact (brings_skip (by decide)).trans (ih ahead)
    | other text oneLine field => exact harmless_iff lib config ih _ ahead
    | keepAlive blanks =>
      have unbroken : Unbroken (dataField ++ List.replicate blanks ' ') :=
        unbroken_data fun c mem => by
          rw [List.eq_of_mem_replicate mem]
          rfl
      have stop : chunkOf (withJson limits py lib) config
          (String.ofList (dataField ++ List.replicate blanks ' ')) = .ok none := by
        rw [chunkOf_payload, payload_text]
        exact if_pos (.inl (strip_blanks blanks))
      rw [SseLine.text, pieces, unbroken_line unbroken]
      exact brings_stop (startsWith_data _) stop
    | object text members oneLine reads =>
      refine (brings_object lib config oneLine reads newline _ ahead (objects rest)).trans ?_
      rw [Readable]
      refine and_congr_right fun _ => and_congr_right fun _ => ?_
      exact exists_congr fun ahead' => and_congr_right fun _ => ih ahead'

end Conditions

section Bodies
variable {py : PyTexts} {limits : Limits} (lib : Libraries) (config : ProviderConfig)
  (request : ChatCompletionRequest)

variable (limits) in
theorem body_delivers (lines : SseBody py) (newline : Newline) (after : List Char) :
    Brings (withJson limits py lib) config (splitlines (bodyText lines newline after)) []
        (objects lines) ↔ Readable limits [] lines := by
  rw [splitlines_body]
  exact brings_iff lib config _ lines []

theorem other_harmless {text : List Char} (unbroken : Unbroken text) (field : ¬ dataField <+: text)
    (newline : Newline) : hidden text newline = [] := by
  have letters : (String.ofList text).toList = text := String.toList_ofList
  have apart : startsWith (String.ofList text) "data:" = false := by
    rw [startsWith, letters, Bool.eq_false_iff]
    exact fun data => field (List.isPrefixOf_iff_prefix.mp data)
  rw [hidden, pieces, unbroken_line unbroken, List.map_singleton,
    List.filter_cons_of_neg (by simp [apart]), List.filter_nil, List.map_nil]

/-- A body with one line for each of its lines, objects within the limits, and none behind an empty
`data:`. -/
theorem readable_unbroken {lines : SseBody py} (unbroken : ∀ line ∈ lines, Unbroken line.1.text)
    (loaded : ∀ text members oneLine reads newline,
      (SseLine.object text members oneLine reads, newline) ∈ lines → Loads limits py text)
    (order : ∀ before blanks newline rest, lines = before ++ (.keepAlive blanks, newline) :: rest →
      objects rest = []) :
    Readable limits [] lines := by
  induction lines with
  | nil => rfl
  | cons line rest ih =>
    have later : Readable limits [] rest := by
      refine ih (fun line mem => unbroken line (.tail _ mem))
        (fun _ _ _ _ _ mem => loaded _ _ _ _ _ (.tail _ mem)) fun before blanks newline after split => ?_
      exact order (line :: before) blanks newline after (by rw [split, List.cons_append])
    obtain ⟨line, newline⟩ := line
    have whole : Unbroken line.text := unbroken _ (.head _)
    cases line with
    | blank => exact later
    | other text oneLine field =>
      have silent : hidden text newline = [] := other_harmless whole field newline
      rw [Readable, silent]
      exact later
    | keepAlive blanks => exact (order [] blanks newline rest rfl).symm
    | object text members oneLine reads =>
      have inside : Unbroken text := fun c mem =>
        whole c (List.mem_append_right _ (List.mem_cons_of_mem _ mem))
      exact ⟨inside, loaded _ _ _ _ _ (.head _), [], rfl, later⟩

/-- The provider loses nothing of a body exactly if the body is readable. -/
theorem reader_loses_nothing_iff (lines : SseBody py) (newline : Newline) (after : List Char)
    {t : List (Event ProviderOp ProviderRet Exn)} {r : Except Exn Unit}
    (run : Runs (ProviderCalls.streamChatCompletion (withJson limits py lib) config request) t r)
    (served : Served (bodyText lines newline after) t) :
    (yieldedChunks t = objects lines ∧ r = .ok ()) ↔ Readable limits [] lines := by
  obtain ⟨yielded, result⟩ := stream_runs run served
  have delivers := body_delivers limits lib config lines newline after
  rw [Brings, List.nil_append] at delivers
  rw [yielded, result]
  exact delivers

theorem readLines_yields (lines : List String) :
    Runs (readLines lib config lines none) (yields (readPieces lib config lines).1)
      (readPieces lib config lines).2.result := by
  induction lines with
  | nil => exact .done _
  | cons line rest ih =>
    rw [readLines, readPieces]
    split
    · cases chunkOf lib config line with
      | error exc => exact .done _
      | ok read =>
        cases read with
        | none => exact .done _
        | some chunk => exact .call ih
    · exact ih

theorem served_run (attempts : 1 ≤ config.maxAttempts) (body : String) :
    ∃ t r, Runs (ProviderCalls.streamChatCompletion lib config request) t r ∧ Served body t := by
  have opening : Runs (runWithBreaker config
      (openStream (Json.set "stream" (.bool true) request.modelDump)))
      [⟨.beforeCall, .ok ()⟩, ⟨.send (Json.set "stream" (.bool true) request.modelDump), .ok 200⟩,
        ⟨.recordSuccess, .ok ()⟩, ⟨.setCircuitBreakerState, .ok ()⟩] (.ok ()) := by
    have sent : Runs (callWithRetry (openStream (Json.set "stream" (.bool true) request.modelDump))
        isRetryable config.maxAttempts)
        [⟨.send (Json.set "stream" (.bool true) request.modelDump), .ok 200⟩] (.ok ()) := by
      obtain ⟨left, count⟩ : ∃ left, config.maxAttempts.toNat = left + 1 :=
        ⟨config.maxAttempts.toNat - 1, by omega⟩
      rw [callWithRetry, count, retryLoop]
      have answered : Runs (openStream (Json.set "stream" (.bool true) request.modelDump))
          [⟨.send (Json.set "stream" (.bool true) request.modelDump), .ok 200⟩] (.ok ()) :=
        .call (.done _)
      exact answered.handle _
    exact .call ((sent.handle onFailure).bind (.call (.call (.done _))))
  have reading := readLines_yields lib config (splitlines body)
  have closing : Runs ((readStream lib config).ensure (ProviderCalls.call .aclose))
      (⟨.aiterLines, .ok ⟨splitlines body, none⟩⟩ ::
        (yields (readPieces lib config (splitlines body)).1 ++ [⟨.aclose, .ok ()⟩]))
      (readPieces lib config (splitlines body)).2.result := by
    refine .call (runs_andThen.mpr ⟨_, _, _, rfl, ?_, .call (.done _)⟩)
    exact reading
  refine ⟨_, _, opening.bind closing, ?_, ?_, ?_, ?_⟩
  · simp
  · intro o mem
    simpa [yields] using mem
  · intro chunk o mem
    have yielded : chunk ∈ (readPieces lib config (splitlines body)).1 ∧ o = .ok () := by
      simpa [yields, eq_comm] using mem
    exact yielded.2
  · intro o mem
    simpa [yields] using mem

end Bodies

section Samples

def oneProvider : ProviderConfig := ⟨"openai", 1⟩

def greeting : ChatCompletionRequest := ⟨"gpt-4o", [], true, []⟩

/-- The interpreter's own setting, and the depth that its C stack is at least good for. -/
def usualLimits : Limits := ⟨4300, 1000⟩

theorem empty_object_reads : loads plainTexts (String.ofList ['\x7b', '\x7d']) = some (.obj []) := rfl

theorem empty_object_loads : Loads usualLimits plainTexts ['\x7b', '\x7d'] := rfl

def objectLine : SseLine plainTexts :=
  .object ['\x7b', '\x7d'] [] (by simp) empty_object_reads

theorem reader_loses_nothing_iff_once : ∃ t r,
    Runs (ProviderCalls.streamChatCompletion (withJson usualLimits plainTexts silentLibraries)
        oneProvider greeting) t r ∧
      yieldedChunks t = [.obj []] ∧ r = .ok () := by
  obtain ⟨t, r, run, served⟩ := served_run (withJson usualLimits plainTexts silentLibraries) oneProvider
    greeting (by decide) (bodyText [(objectLine, .lf), (.blank, .lf), (.keepAlive 0, .crlf)] .lf [])
  have unbroken : Unbroken ['\x7b', '\x7d'] := by simp [Unbroken, isBreak]
  exact ⟨t, r, run, (reader_loses_nothing_iff silentLibraries oneProvider greeting _ .lf [] run served).mpr
    ⟨unbroken, empty_object_loads, [], rfl, rfl⟩⟩

/-- An empty `data:` line ends the answer before its object. -/
theorem keep_alive_ends_answer : ¬ ∀ (limits : Limits) (py : PyTexts) (lib : Libraries)
    (config : ProviderConfig) (request : ChatCompletionRequest) (lines : SseBody py)
    (newline : Newline) (after : List Char) (t : List (Event ProviderOp ProviderRet Exn))
    (r : Except Exn Unit),
    Runs (ProviderCalls.streamChatCompletion (withJson limits py lib) config request) t r →
    Served (bodyText lines newline after) t → yieldedChunks t = objects lines ∧ r = .ok () := by
  intro claim
  obtain ⟨t, r, run, served⟩ := served_run (withJson usualLimits plainTexts silentLibraries) oneProvider
    greeting (by decide) (bodyText [(.keepAlive 0, .lf), (objectLine, .lf)] .lf [])
  have complete := claim usualLimits plainTexts silentLibraries oneProvider greeting _ .lf [] t r run served
  obtain ⟨yielded, result⟩ := stream_runs run served
  rw [yielded, result] at complete
  have readable := (body_delivers usualLimits silentLibraries oneProvider
    [(.keepAlive 0, .lf), (objectLine, .lf)] .lf []).mp complete
  cases readable

end Samples

end AegisGateway.EventStreams
