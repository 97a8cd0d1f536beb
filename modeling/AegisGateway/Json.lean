import Mathlib.Data.List.Sort
import Mathlib.Data.String.Basic

set_option autoImplicit false

/-!
# JSON values and `json.dumps`

An object lists its members in insertion order. A float is kept as the text
`float.__repr__` gives it.
-/
namespace AegisGateway

inductive Json where
  | null
  | bool (b : Bool)
  | int (n : ℤ)
  | float (text : String)
  | str (s : String)
  | arr (items : List Json)
  | obj (members : List (String × Json))
  deriving Repr

abbrev JsonObject := List (String × Json)

namespace Json

/-- `dict.get` with the default `None`. -/
def get (members : JsonObject) (key : String) : Json :=
  match members.lookup key with
  | none => .null
  | some value => value

/-- `dict[key] = value`: an existing key keeps its place. -/
def set (key : String) (value : Json) : JsonObject → JsonObject
  | [] => [(key, value)]
  | (k, v) :: rest => if k = key then (key, value) :: rest else (k, v) :: set key value rest

/-- Python's truth value. -/
def truthy : Json → Bool
  | .null => false
  | .bool b => b
  | .int n => n ≠ 0
  | .float text => text ∉ ["0.0", "-0.0"]
  | .str s => s ≠ ""
  | .arr items => !items.isEmpty
  | .obj members => !members.isEmpty

def hexDigit (n : ℕ) : Char :=
  if n < 10 then Char.ofNat (48 + n) else Char.ofNat (87 + n)

def unicodeEscape (n : ℕ) : List Char :=
  ['\\', 'u', hexDigit (n / 4096 % 16), hexDigit (n / 256 % 16), hexDigit (n / 16 % 16),
    hexDigit (n % 16)]

/-- `ensure_ascii`: what is not printable ASCII is escaped, as a surrogate pair
beyond the basic plane. -/
def escapeChar (c : Char) : List Char :=
  if c = '"' then ['\\', '"']
  else if c = '\\' then ['\\', '\\']
  else if c = '\n' then ['\\', 'n']
  else if c = '\r' then ['\\', 'r']
  else if c = '\t' then ['\\', 't']
  else if c.toNat = 8 then ['\\', 'b']
  else if c.toNat = 12 then ['\\', 'f']
  else if 32 ≤ c.toNat ∧ c.toNat ≤ 126 then [c]
  else if c.toNat < 65536 then unicodeEscape c.toNat
  else unicodeEscape (55296 + (c.toNat - 65536) / 1024) ++
    unicodeEscape (56320 + (c.toNat - 65536) % 1024)

def quoted (s : String) : String :=
  String.ofList ('"' :: s.toList.flatMap escapeChar ++ ['"'])

structure DumpOptions where
  itemSeparator : String
  keySeparator : String
  sortKeys : Bool

/-- The defaults of `json.dumps`. -/
def plainDump : DumpOptions := ⟨", ", ": ", false⟩

/-- `sort_keys=True, separators=(",", ":")`. -/
def canonicalDump : DumpOptions := ⟨",", ":", true⟩

def sortedMembers (options : DumpOptions) (members : List (String × String)) :
    List (String × String) :=
  if options.sortKeys then members.insertionSort (fun a b => a.1 ≤ b.1) else members

mutual

def dumps (options : DumpOptions) : Json → String
  | .null => "null"
  | .bool true => "true"
  | .bool false => "false"
  | .int n => toString n
  | .float text => text
  | .str s => quoted s
  | .arr items => "[" ++ options.itemSeparator.intercalate (dumpsItems options items) ++ "]"
  | .obj members =>
    let dumped := sortedMembers options (dumpsMembers options members)
    "\x7b" ++ options.itemSeparator.intercalate
      (dumped.map fun m => quoted m.1 ++ options.keySeparator ++ m.2) ++ "\x7d"

def dumpsItems (options : DumpOptions) : List Json → List String
  | [] => []
  | item :: rest => dumps options item :: dumpsItems options rest

def dumpsMembers (options : DumpOptions) : JsonObject → List (String × String)
  | [] => []
  | (key, value) :: rest => (key, dumps options value) :: dumpsMembers options rest

end

end Json
end AegisGateway
