import AegisGateway.InjectionDetector
import AegisGateway.ProviderCalls
import Mathlib.Algebra.Order.Ring.Abs
import Mathlib.Tactic.Linarith
import Mathlib.Tactic.Ring

set_option autoImplicit false

/-!
# Embeddings from a remote service

`services/embeddings.py` on whatever the service answers. A response body is any JSON value, and
so is each of its embeddings: what Python does with it, subscripts, iteration, comparison and
arithmetic, returns or raises. The arithmetic of floats is a parameter.
-/
namespace AegisGateway.Embeddings
open EffectProgram
open ProviderCalls (HttpResponse)

section Numbers

/-- A number of Python: an `int`, or a `float`. -/
inductive Number (F : Type) where
  | int (n : ℤ)
  | float (x : F)

/-- Floats. `add` is a step of `sum`, `sqrt` is for the numbers that are not negative, `value` is
`none` for what is not finite, `less` and `same` are `<` and `==`. -/
structure FloatArith (F : Type) where
  ofText : String → F
  ofInt : ℤ → F
  add : F → F → F
  mul : F → F → F
  div : F → F → F
  sqrt : F → F
  isZero : F → Bool
  value : F → Option ℚ
  less : Number F → Number F → Bool
  same : Json → Json → Bool
  /-- The root of the smallest float is 2 ** -537, and its square is that float. -/
  norms : ∀ x y, isZero (sqrt x) = false → isZero (sqrt y) = false →
    isZero (mul (sqrt x) (sqrt y)) = false

def typeError : Exn := .other "TypeError"
def overflowError : Exn := .other "OverflowError"
def zeroDivisionError : Exn := .other "ZeroDivisionError"

/-- From here on an `int` rounds to 2 ** 1024, which is no `float`. -/
def floatLimit : ℤ := 2 ^ 1024 - 2 ^ 970

variable {F : Type} (py : FloatArith F)

/-- `float(n)`, as arithmetic with a float and `math.sqrt` make it. -/
def asFloat : Number F → Except Exn F
  | .int n => if |n| < floatLimit then .ok (py.ofInt n) else .error overflowError
  | .float x => .ok x

def addNumbers : Number F → Number F → Except Exn (Number F)
  | .int a, .int b => .ok (.int (a + b))
  | a, b => do return .float (py.add (← asFloat py a) (← asFloat py b))

def mulNumbers : Number F → Number F → Except Exn (Number F)
  | .int a, .int b => .ok (.int (a * b))
  | a, b => do return .float (py.mul (← asFloat py a) (← asFloat py b))

def numberOf : Json → Option (Number F)
  | .int n => some (.int n)
  | .bool b => some (.int (if b then 1 else 0))
  | .float text => some (.float (py.ofText text))
  | _ => none

/-- A factor of a product that is added to a number. -/
def factor (x : Json) : Except Exn (Number F) :=
  match numberOf py x with
  | some n => .ok n
  | none => .error typeError

end Numbers

section Values

/-- What a `for` clause iterates over. -/
def elements : Json → Except Exn (List Json)
  | .arr items => .ok items
  | .obj members => .ok (members.map fun member => .str member.1)
  | .str s => .ok (s.toList.map fun c => .str (String.singleton c))
  | _ => .error typeError

/-- `value[key]`. -/
def subscript (key : String) : Json → Except Exn Json
  | .obj members =>
    match members.lookup key with
    | some value => .ok value
    | none => .error .keyError
  | _ => .error typeError

variable {F : Type} (py : FloatArith F)

mutual

/-- `x < y`. -/
def less : Json → Json → Except Exn Bool
  | .arr xs, .arr ys => lessItems xs ys
  | .str s, .str t => .ok (s < t)
  | x, y =>
    match numberOf py x, numberOf py y with
    | some a, some b => .ok (py.less a b)
    | _, _ => .error typeError

def lessItems : List Json → List Json → Except Exn Bool
  | [], ys => .ok (!ys.isEmpty)
  | _ :: _, [] => .ok false
  | x :: xs, y :: ys => if py.same x y then lessItems xs ys else less x y

end

/-- An item goes behind those that are not greater. -/
def insertByIndex (item : Json × Json) : List (Json × Json) → Except Exn (List (Json × Json))
  | [] => .ok [item]
  | head :: rest => do
    if ← less py item.1 head.1 then return item :: head :: rest
    else return head :: (← insertByIndex item rest)

/-- `sorted`: stable, on the keys. -/
def sortByIndex (items : List (Json × Json)) : Except Exn (List (Json × Json)) :=
  items.foldlM (fun done item => insertByIndex py item done) []

end Values

section Similarity
variable {F : Type} (py : FloatArith F)

/-- `sum(x * y for x, y in zip(a, b, strict=True))`, from a first part of the sum on. -/
def sumProducts (total : Number F) : List Json → List Json → Except Exn (Number F)
  | [], [] => .ok total
  | x :: xs, y :: ys => do
    let product ← mulNumbers py (← factor py x) (← factor py y)
    sumProducts (← addNumbers py total product) xs ys
  | _, _ => .error valueError

/-- `math.sqrt(sum(x * x for x in a))`. -/
def norm (items : List Json) : Except Exn F := do
  let squares ← sumProducts py (.int 0) items items
  return py.sqrt (← asFloat py squares)

def cosineSimilarity (a b : Json) : Except Exn (Option ℚ) := do
  let xs ← elements a
  let ys ← elements b
  let dot ← sumProducts py (.int 0) xs ys
  let normA ← norm py xs
  let normB ← norm py ys
  if py.isZero normA || py.isZero normB then return some 0
  else if py.isZero (py.mul normA normB) then .error zeroDivisionError
  else return py.value (py.div (← asFloat py dot) (py.mul normA normB))

end Similarity

section Vectors
variable {F : Type}

/-- The squares can be summed up as `norm` does it, from a first part of the sum on. Once a float
has come, each square of an `int` has to be a float by itself. -/
def SquaresFit : ℤ → List (Number F) → Prop
  | total, [] => total < floatLimit
  | total, .int n :: rest => SquaresFit (total + n * n) rest
  | total, .float _ :: rest =>
    total < floatLimit ∧ ∀ m, Number.int m ∈ rest → m * m < floatLimit

theorem SquaresFit.lt {total : ℤ} {numbers : List (Number F)} (fits : SquaresFit total numbers) :
    total < floatLimit := by
  induction numbers generalizing total with
  | nil => exact fits
  | cons number rest ih =>
    cases number with
    | int n =>
      have later : total + n * n < floatLimit := ih fits
      linarith [mul_self_nonneg n]
    | float x => exact fits.1

theorem SquaresFit.square_lt {total : ℤ} {numbers : List (Number F)}
    (fits : SquaresFit total numbers) (start : 0 ≤ total) {m : ℤ} (mem : Number.int m ∈ numbers) :
    m * m < floatLimit := by
  induction numbers generalizing total with
  | nil => cases mem
  | cons number rest ih =>
    cases number with
    | int n =>
      rcases List.mem_cons.mp mem with same | mem
      · cases same
        have later : total + m * m < floatLimit := SquaresFit.lt fits
        linarith
      · exact ih fits (by linarith [mul_self_nonneg n]) mem
    | float x =>
      rcases List.mem_cons.mp mem with same | mem
      · cases same
      · exact fits.2 m mem

theorem abs_lt_of_square {n : ℤ} (small : n * n < floatLimit) : |n| < floatLimit := by
  refine lt_of_le_of_lt ?_ small
  rcases eq_or_ne n 0 with rfl | nonzero
  · simp
  · have one : 1 ≤ |n| := Int.one_le_abs nonzero
    calc |n| ≤ |n| * |n| := le_mul_of_one_le_left (abs_nonneg n) one
      _ = n * n := abs_mul_abs_self n

theorem abs_mul_lt_of_squares {x y : ℤ} (smallX : x * x < floatLimit) (smallY : y * y < floatLimit) :
    |x * y| < floatLimit := by
  rw [abs_lt]
  constructor
  · nlinarith [mul_self_nonneg (x + y)]
  · nlinarith [mul_self_nonneg (x - y)]

theorem dot_step {d s t x y : ℤ} (startS : 0 ≤ s) (startT : 0 ≤ t) (bound : d * d ≤ s * t) :
    (d + x * y) * (d + x * y) ≤ (s + x * x) * (t + y * y) := by
  have nonneg : 0 ≤ s * (y * y) + t * (x * x) :=
    add_nonneg (mul_nonneg startS (mul_self_nonneg y)) (mul_nonneg startT (mul_self_nonneg x))
  have square : (2 * (d * (x * y))) ^ 2 ≤ (s * (y * y) + t * (x * x)) ^ 2 :=
    calc (2 * (d * (x * y))) ^ 2 = 4 * ((d * d) * ((x * y) * (x * y))) := by ring
      _ ≤ 4 * ((s * t) * ((x * y) * (x * y))) := by
        have scaled := mul_le_mul_of_nonneg_right bound (mul_self_nonneg (x * y))
        linarith
      _ ≤ (s * (y * y) + t * (x * x)) ^ 2 := by
        linarith [sq_nonneg (s * (y * y) - t * (x * x))]
  have mixed : 2 * (d * (x * y)) ≤ s * (y * y) + t * (x * x) :=
    le_of_abs_le (abs_le_of_sq_le_sq square nonneg)
  linarith

theorem abs_lt_of_dot {d s t : ℤ} (startS : 0 ≤ s) (startT : 0 ≤ t) (bound : d * d ≤ s * t)
    (fitS : s < floatLimit) (fitT : t < floatLimit) : |d| < floatLimit := by
  have limit : 0 ≤ floatLimit := le_trans startS (le_of_lt fitS)
  refine abs_lt_of_sq_lt_sq ?_ limit
  calc d ^ 2 = d * d := sq d
    _ ≤ s * t := bound
    _ < floatLimit * floatLimit := mul_lt_mul'' fitS fitT startS startT
    _ = floatLimit ^ 2 := (sq floatLimit).symm

end Vectors

section Cosine
variable {F : Type} {py : FloatArith F}

/-- The items are numbers. -/
def Reads (py : FloatArith F) (items : List Json) (numbers : List (Number F)) : Prop :=
  items.map (numberOf py) = numbers.map some

theorem reads_cons {items : List Json} {number : Number F} {rest : List (Number F)}
    (reads : Reads py items (number :: rest)) :
    ∃ item others, items = item :: others ∧ factor py item = .ok number ∧ Reads py others rest := by
  obtain ⟨item, others, rfl, first, later⟩ := List.map_eq_cons_iff.mp reads
  exact ⟨item, others, rfl, by rw [factor, first], later⟩

theorem reads_nil {items : List Json} (reads : Reads py items []) : items = [] :=
  List.map_eq_nil_iff.mp reads

/-- A number that arithmetic with a float takes. -/
def IsFinite (py : FloatArith F) (x : Number F) : Prop := ∃ f, asFloat py x = .ok f

theorem isFinite_int {n : ℤ} (small : |n| < floatLimit) : IsFinite py (.int n) :=
  ⟨py.ofInt n, by rw [asFloat, if_pos small]⟩

theorem isFinite_float (x : F) : IsFinite py (.float x) := ⟨x, rfl⟩

/-- The product is made of floats, unless both factors are ints. -/
theorem mulNumbers_float {x y : Number F} (finiteX : IsFinite py x) (finiteY : IsFinite py y) :
    (∃ m n, x = .int m ∧ y = .int n) ∨ ∃ product, mulNumbers py x y = .ok (.float product) := by
  obtain ⟨f, hf⟩ := finiteX
  obtain ⟨g, hg⟩ := finiteY
  cases x with
  | int m =>
    cases y with
    | int n => exact .inl ⟨m, n, rfl, rfl⟩
    | float y =>
      right
      exact ⟨py.mul f g, by simp only [mulNumbers, hf, hg]; rfl⟩
  | float x =>
    right
    exact ⟨py.mul f g, by simp only [mulNumbers, hf, hg]; rfl⟩

theorem addNumbers_float {total : F} {x : Number F} (finite : IsFinite py x) :
    ∃ sum, addNumbers py (.float total) x = .ok (.float sum) := by
  obtain ⟨f, hf⟩ := finite
  exact ⟨py.add total f, by simp only [addNumbers, hf]; rfl⟩

theorem addNumbers_to_float {total : ℤ} {x : F} (finite : IsFinite py (.int total)) :
    ∃ sum, addNumbers py (.int total) (.float x) = .ok (.float sum) := by
  obtain ⟨f, hf⟩ := finite
  exact ⟨py.add f x, by simp only [addNumbers, hf]; rfl⟩

theorem sumProducts_cons {total product sum x y : Number F} {item item' : Json}
    {items items' : List Json} (hx : factor py item = .ok x) (hy : factor py item' = .ok y)
    (multiplied : mulNumbers py x y = .ok product) (added : addNumbers py total product = .ok sum) :
    sumProducts py total (item :: items) (item' :: items') = sumProducts py sum items items' := by
  simp only [sumProducts, hx, hy]
  change (mulNumbers py x y >>= _) = _
  rw [multiplied]
  change (addNumbers py total product >>= _) = _
  rw [added]
  rfl

theorem finite_of_square {x : Number F} {rest : List (Number F)}
    (small : ∀ m, Number.int m ∈ x :: rest → m * m < floatLimit) : IsFinite py x := by
  cases x with
  | int n => exact isFinite_int (abs_lt_of_square (small n (.head _)))
  | float x => exact isFinite_float x

theorem sumProducts_float {as bs : List (Number F)} {items items' : List Json}
    (reads : Reads py items as) (reads' : Reads py items' bs) (same : as.length = bs.length)
    (smallA : ∀ m, Number.int m ∈ as → m * m < floatLimit)
    (smallB : ∀ m, Number.int m ∈ bs → m * m < floatLimit) (total : F) :
    ∃ sum, sumProducts py (.float total) items items' = .ok (.float sum) := by
  induction as generalizing bs items items' total with
  | nil =>
    obtain rfl : bs = [] := List.length_eq_zero_iff.mp same.symm
    rw [reads_nil reads, reads_nil reads']
    exact ⟨total, rfl⟩
  | cons x as ih =>
    cases bs with
    | nil => cases same
    | cons y bs =>
      obtain ⟨item, items, rfl, hx, reads⟩ := reads_cons reads
      obtain ⟨item', items', rfl, hy, reads'⟩ := reads_cons reads'
      have product : ∃ product, mulNumbers py x y = .ok product ∧ IsFinite py product := by
        rcases mulNumbers_float (finite_of_square smallA) (finite_of_square smallB) with
          ⟨m, n, rfl, rfl⟩ | ⟨product, multiplied⟩
        · exact ⟨_, rfl, isFinite_int (abs_mul_lt_of_squares (smallA m (.head _)) (smallB n (.head _)))⟩
        · exact ⟨_, multiplied, isFinite_float product⟩
      obtain ⟨product, multiplied, finite⟩ := product
      obtain ⟨sum, added⟩ := addNumbers_float finite
      rw [sumProducts_cons hx hy multiplied added]
      exact ih reads reads' (Nat.succ.inj same) (fun m mem => smallA m (.tail _ mem))
        (fun m mem => smallB m (.tail _ mem)) sum

/-- The sum of the products of two vectors whose squares can be summed up. The sums `s` and `t` of
the squares so far bound the sum `d` of the products so far. -/
theorem sumProducts_fit {as bs : List (Number F)} {items items' : List Json}
    (reads : Reads py items as) (reads' : Reads py items' bs) (same : as.length = bs.length)
    {d s t : ℤ} (startS : 0 ≤ s) (startT : 0 ≤ t) (bound : d * d ≤ s * t)
    (fitsA : SquaresFit s as) (fitsB : SquaresFit t bs) :
    ∃ sum, sumProducts py (.int d) items items' = .ok sum ∧ IsFinite py sum := by
  have finite : IsFinite py (.int d) :=
    isFinite_int (abs_lt_of_dot startS startT bound fitsA.lt fitsB.lt)
  induction as generalizing bs items items' d s t with
  | nil =>
    obtain rfl : bs = [] := List.length_eq_zero_iff.mp same.symm
    rw [reads_nil reads, reads_nil reads']
    exact ⟨.int d, rfl, finite⟩
  | cons x as ih =>
    cases bs with
    | nil => cases same
    | cons y bs =>
      obtain ⟨item, items, rfl, hx, readsRest⟩ := reads_cons reads
      obtain ⟨item', items', rfl, hy, readsRest'⟩ := reads_cons reads'
      have sameRest : as.length = bs.length := Nat.succ.inj same
      have smallA : ∀ m, Number.int m ∈ x :: as → m * m < floatLimit :=
        fun m mem => fitsA.square_lt startS mem
      have smallB : ∀ m, Number.int m ∈ y :: bs → m * m < floatLimit :=
        fun m mem => fitsB.square_lt startT mem
      rcases mulNumbers_float (finite_of_square smallA) (finite_of_square smallB) with
        ⟨m, n, rfl, rfl⟩ | ⟨product, multiplied⟩
      · -- both are ints, and so is the sum
        rw [sumProducts_cons hx hy rfl rfl]
        have startS' : 0 ≤ s + m * m := add_nonneg startS (mul_self_nonneg m)
        have startT' : 0 ≤ t + n * n := add_nonneg startT (mul_self_nonneg n)
        have fitsRest : SquaresFit (s + m * m) as := fitsA
        have fitsRest' : SquaresFit (t + n * n) bs := fitsB
        have bound' := dot_step (x := m) (y := n) startS startT bound
        refine ih readsRest readsRest' sameRest startS' startT' bound' fitsRest fitsRest' ?_
        exact isFinite_int (abs_lt_of_dot startS' startT' bound' fitsRest.lt fitsRest'.lt)
      · obtain ⟨sum, added⟩ := addNumbers_to_float (x := product) finite
        rw [sumProducts_cons hx hy multiplied added]
        obtain ⟨total, summed⟩ := sumProducts_float readsRest readsRest' sameRest
          (fun m mem => smallA m (.tail _ mem)) (fun m mem => smallB m (.tail _ mem)) sum
        exact ⟨.float total, summed, isFinite_float total⟩

/-- An embedding of so many numbers, whose squares can be summed up. -/
def IsVector (py : FloatArith F) (length : ℕ) (embedding : Json) : Prop :=
  ∃ items numbers, elements embedding = .ok items ∧ Reads py items numbers ∧
    numbers.length = length ∧ SquaresFit 0 numbers

theorem norm_ok {items : List Json} {numbers : List (Number F)} (reads : Reads py items numbers)
    (fits : SquaresFit 0 numbers) : ∃ x, norm py items = .ok (py.sqrt x) := by
  obtain ⟨squares, summed, x, finite⟩ :=
    sumProducts_fit reads reads rfl (le_refl 0) (le_refl 0) (le_refl _) fits fits
  refine ⟨x, ?_⟩
  rw [norm, summed]
  change (asFloat py squares >>= _) = _
  rw [finite]
  rfl

theorem cosineSimilarity_ok {length : ℕ} {a b : Json} (vectorA : IsVector py length a)
    (vectorB : IsVector py length b) : ∃ similarity, cosineSimilarity py a b = .ok similarity := by
  obtain ⟨xs, as, elementsA, readsA, lengthA, fitsA⟩ := vectorA
  obtain ⟨ys, bs, elementsB, readsB, lengthB, fitsB⟩ := vectorB
  obtain ⟨dot, summed, x, finite⟩ := sumProducts_fit readsA readsB (lengthA.trans lengthB.symm)
    (le_refl 0) (le_refl 0) (le_refl _) fitsA fitsB
  obtain ⟨squareA, normA⟩ := norm_ok readsA fitsA
  obtain ⟨squareB, normB⟩ := norm_ok readsB fitsB
  have ends : cosineSimilarity py a b =
      if py.isZero (py.sqrt squareA) || py.isZero (py.sqrt squareB) then .ok (some 0)
      else if py.isZero (py.mul (py.sqrt squareA) (py.sqrt squareB)) then .error zeroDivisionError
      else .ok (py.value (py.div x (py.mul (py.sqrt squareA) (py.sqrt squareB)))) := by
    simp only [cosineSimilarity, elementsA, elementsB, bind, Except.bind, summed, normA, normB, finite]
    rfl
  rw [ends]
  split
  · exact ⟨_, rfl⟩
  · rename_i nonzero
    rw [Bool.or_eq_true, not_or, Bool.not_eq_true, Bool.not_eq_true] at nonzero
    rw [py.norms _ _ nonzero.1 nonzero.2]
    exact ⟨_, rfl⟩

end Cosine

section Service

inductive HttpOp where
  | post (payload : JsonObject)

abbrev HttpRet : HttpOp → Type
  | .post _ => HttpResponse

def embeddingModel : String := "text-embedding-3-small"

def embeddingRequest (texts : List String) : JsonObject :=
  [("model", .str embeddingModel), ("input", .arr (texts.map .str))]

/-- `raise_for_status` passes the 2xx codes only. -/
def isSuccess (response : HttpResponse) : Bool :=
  200 ≤ response.statusCode && response.statusCode < 300

variable {F : Type} (py : FloatArith F)

/-- The embeddings of a response body, in the order of their `index`. -/
def vectorsOf (payload : Json) : Except Exn (List Json) := do
  let data ← subscript "data" payload
  let items ← elements data
  let keyed ← items.mapM fun item => do return (← subscript "index" item, item)
  let ordered ← sortByIndex py keyed
  ordered.mapM fun item => subscript "embedding" item.2

/-- `embed_texts` from the answer on. -/
def readAnswer (lib : Libraries) (response : HttpResponse) : Except Exn (List Json) :=
  if isSuccess response then
    match lib.jsonLoads response.text with
    | .ok payload => vectorsOf py payload
    | .error e => .error e.exn
  else .error (.other "HTTPStatusError")

def embedTexts (lib : Libraries) (apiKey : String) (texts : List String) :
    Prog HttpOp HttpRet Exn (List Json) :=
  if apiKey = "" then Prog.raise (.other "EmbeddingUnavailableError")
  else do
    let response ← Prog.perform (.post (embeddingRequest texts))
    .done (readAnswer py lib response)

theorem readAnswer_success {lib : Libraries} {response : HttpResponse} {payload : Json}
    (success : isSuccess response = true) (loaded : lib.jsonLoads response.text = .ok payload) :
    readAnswer py lib response = vectorsOf py payload := by
  rw [readAnswer, if_pos success, loaded]

theorem readAnswer_status {lib : Libraries} {response : HttpResponse}
    (refused : isSuccess response ≠ true) :
    readAnswer py lib response = .error (.other "HTTPStatusError") := by
  rw [readAnswer, if_neg refused]

/-- Both keys can be asked which is less. -/
def Comparable (i j : Json) : Prop :=
  (∃ b, less py i j = .ok b) ∧ ∃ b, less py j i = .ok b

variable {py}

theorem insertByIndex_ok {item : Json × Json} {items : List (Json × Json)}
    (comparable : ∀ other ∈ items, Comparable py other.1 item.1) :
    ∃ inserted, insertByIndex py item items = .ok inserted ∧ inserted.Perm (item :: items) := by
  induction items with
  | nil => exact ⟨[item], rfl, .refl _⟩
  | cons head rest ih =>
    obtain ⟨-, isLess, compared⟩ := comparable head (.head _)
    obtain ⟨inserted, eq, perm⟩ := ih fun other mem => comparable other (.tail _ mem)
    cases isLess with
    | true =>
      refine ⟨item :: head :: rest, ?_, .refl _⟩
      simp only [insertByIndex, compared]
      rfl
    | false =>
      refine ⟨head :: inserted, ?_, (perm.cons head).trans (.swap item head rest)⟩
      simp only [insertByIndex, compared, eq]
      rfl

theorem sortByIndex_ok {items : List (Json × Json)}
    (comparable : items.Pairwise fun a b => Comparable py a.1 b.1) :
    ∃ ordered, sortByIndex py items = .ok ordered ∧ ordered.Perm items := by
  -- the items that are sorted already can be compared with those that are not
  have sorts (done : List (Json × Json)) (outside : ∀ a ∈ done, ∀ b ∈ items, Comparable py a.1 b.1) :
      ∃ ordered, items.foldlM (fun done item => insertByIndex py item done) done = .ok ordered ∧
        ordered.Perm (items ++ done) := by
    induction items generalizing done with
    | nil => exact ⟨done, rfl, .refl _⟩
    | cons item items ih =>
      obtain ⟨first, later⟩ := List.pairwise_cons.mp comparable
      obtain ⟨inserted, eq, perm⟩ := insertByIndex_ok fun a mem => outside a mem item (.head _)
      obtain ⟨ordered, sorted, perm'⟩ := ih later inserted fun a mem b memB => by
        rcases List.mem_cons.mp (perm.mem_iff.mp mem) with rfl | mem
        · exact first b memB
        · exact outside a mem b (.tail _ memB)
      refine ⟨ordered, ?_, ?_⟩
      · simp only [List.foldlM_cons, eq]
        exact sorted
      · exact perm'.trans ((perm.append_left items).trans List.perm_middle)
  obtain ⟨ordered, eq, perm⟩ := sorts [] (by simp)
  exact ⟨ordered, eq, by simpa using perm⟩

/-- An object with an index and an embedding. -/
def Embedded (item index embedding : Json) : Prop :=
  subscript "index" item = .ok index ∧ subscript "embedding" item = .ok embedding

variable (py)

/-- The items of a response body: objects with an index and an embedding, that can be sorted. -/
structure ItemsOf (payload : Json) (items : List Json) : Prop where
  data : ∃ data, subscript "data" payload = .ok data ∧ elements data = .ok items
  embedded : ∀ item ∈ items, ∃ index embedding, Embedded item index embedding
  comparable : items.Pairwise fun a b => ∀ i j e f, Embedded a i e → Embedded b j f → Comparable py i j

variable {py}

theorem mapM_ok {α β : Type} {f : α → Except Exn β} {items : List α}
    (each : ∀ item ∈ items, ∃ b, f item = .ok b) : ∃ results, items.mapM f = .ok results := by
  induction items with
  | nil => exact ⟨[], rfl⟩
  | cons item items ih =>
    obtain ⟨b, eq⟩ := each item (.head _)
    obtain ⟨results, mapped⟩ := ih fun item mem => each item (.tail _ mem)
    refine ⟨b :: results, ?_⟩
    simp only [List.mapM_cons, eq, mapped]
    rfl

theorem keyed_ok {items : List Json}
    (embedded : ∀ item ∈ items, ∃ index embedding, Embedded item index embedding)
    (comparable : items.Pairwise fun a b =>
      ∀ i j e f, Embedded a i e → Embedded b j f → Comparable py i j) :
    ∃ keyed, (items.mapM fun item => do return (← subscript "index" item, item)) = .ok keyed ∧
      (∀ pair ∈ keyed, pair.2 ∈ items ∧ ∃ embedding, Embedded pair.2 pair.1 embedding) ∧
      keyed.Pairwise fun a b => Comparable py a.1 b.1 := by
  induction items with
  | nil => exact ⟨[], rfl, by simp, .nil⟩
  | cons item items ih =>
    obtain ⟨first, later⟩ := List.pairwise_cons.mp comparable
    obtain ⟨index, embedding, found⟩ := embedded item (.head _)
    obtain ⟨keyed, mapped, among, pairwise⟩ := ih (fun item mem => embedded item (.tail _ mem)) later
    refine ⟨(index, item) :: keyed, ?_, ?_, List.pairwise_cons.mpr ⟨?_, pairwise⟩⟩
    · simp only [List.mapM_cons, found.1, mapped]
      rfl
    · intro pair mem
      rcases List.mem_cons.mp mem with rfl | mem
      · exact ⟨.head _, embedding, found⟩
      · exact ⟨.tail _ (among pair mem).1, (among pair mem).2⟩
    · intro pair mem
      obtain ⟨inItems, embedding', found'⟩ := among pair mem
      exact first pair.2 inItems _ _ _ _ found found'

theorem vectorsOf_ok {payload : Json} {items : List Json} (readable : ItemsOf py payload items) :
    ∃ vectors, vectorsOf py payload = .ok vectors := by
  obtain ⟨data, hasData, iterated⟩ := readable.data
  obtain ⟨keyed, mapped, among, pairwise⟩ := keyed_ok readable.embedded readable.comparable
  obtain ⟨ordered, sorted, perm⟩ := sortByIndex_ok pairwise
  have fields : ∀ pair ∈ ordered, ∃ embedding, subscript "embedding" pair.2 = .ok embedding := by
    intro pair mem
    obtain ⟨_, embedding, found⟩ := among pair (perm.mem_iff.mp mem)
    exact ⟨embedding, found.2⟩
  obtain ⟨vectors, read⟩ := mapM_ok fields
  refine ⟨vectors, ?_⟩
  simp only [bind, Except.bind] at mapped
  simp only [vectorsOf, hasData, iterated, bind, Except.bind, mapped, sorted, read]

theorem vectorsOf_single {payload item index embedding : Json} (readable : ItemsOf py payload [item])
    (embedded : Embedded item index embedding) : vectorsOf py payload = .ok [embedding] := by
  obtain ⟨data, hasData, iterated⟩ := readable.data
  simp only [vectorsOf, hasData, iterated, bind, Except.bind, List.mapM_cons, embedded.1]
  change (subscript "embedding" item >>= fun vector => .ok [vector]) = _
  rw [embedded.2]
  rfl

end Service
end AegisGateway.Embeddings
