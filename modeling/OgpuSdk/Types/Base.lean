import Mathlib.Data.Rat.Floor
import Mathlib.Data.NNRat.Defs

/-!
# Values the SDK passes around

Addresses are their 20 bytes: `to_checksum_address` maps every spelling of an
address to one string, so the checksummed string is the address itself.
Seconds are rationals, on the two clocks the code reads: `time.monotonic()`
never goes back, `time.time()` may be set to anything. `TxHash` keeps the
shapes web3 hands a transaction hash over in, `Json` a parsed JSON value.
-/

namespace OgpuSdk

abbrev Address := BitVec 160

abbrev Url := String

/-- A chain identifier: a member of the enum, or some other value a caller passes. -/
inductive ChainId where
  | OGPU_MAINNET
  | OGPU_TESTNET
  | other (repr : String)
  deriving DecidableEq, Repr

/-- `str(chain_id)`. -/
def ChainId.str : ChainId → String
  | .OGPU_MAINNET => "ChainId.OGPU_MAINNET"
  | .OGPU_TESTNET => "ChainId.OGPU_TESTNET"
  | .other repr => repr

def ChainId.name : ChainId → String
  | .OGPU_MAINNET => "OGPU_MAINNET"
  | .OGPU_TESTNET => "OGPU_TESTNET"
  | .other repr => repr

/-- Readings of `time.monotonic()` and `time.time()`. -/
structure Clock where
  mono : ℚ
  wall : ℚ
  deriving DecidableEq

/-- How far the two clocks move during an interaction. -/
structure Elapsed where
  mono : ℚ≥0
  wall : ℚ
  deriving DecidableEq

def Clock.advance (c : Clock) (e : Elapsed) : Clock := ⟨c.mono + e.mono, c.wall + e.wall⟩

@[simp] theorem Clock.advance_mono (c : Clock) (e : Elapsed) :
    (c.advance e).mono = c.mono + e.mono := rfl

@[simp] theorem Clock.advance_wall (c : Clock) (e : Elapsed) :
    (c.advance e).wall = c.wall + e.wall := rfl

theorem Clock.le_advance (c : Clock) (e : Elapsed) : c.mono ≤ (c.advance e).mono := by
  simp

/-- `int()` of a number of seconds: rounds towards zero. -/
def truncate (q : ℚ) : ℤ := if 0 ≤ q then ⌊q⌋ else ⌈q⌉

def Clock.second (c : Clock) : ℤ := truncate c.wall

/-! ## Transaction hashes -/

inductive TxHash where
  | bytes (b : List UInt8)
  /-- `HexBytes`, whose `hex()` has the `0x` prefix in some versions. -/
  | hexBytes (b : List UInt8) (prefixed : Bool)
  | str (s : String)
  deriving DecidableEq

def hexDigit (n : Nat) : Char := "0123456789abcdef".toList.getD n '0'

def hexOf (b : List UInt8) : String :=
  String.ofList (b.flatMap fun x => [hexDigit (x.toNat / 16), hexDigit (x.toNat % 16)])

/-- What `tx_hash.hex()` returns, and the string itself where there is no such method. -/
def TxHash.text : TxHash → String
  | .bytes b => hexOf b
  | .hexBytes b true => "0x" ++ hexOf b
  | .hexBytes b false => hexOf b
  | .str s => s

/-! ## JSON -/

/-- A parsed JSON value; a float carries the text Python writes for it. -/
inductive Json where
  | null
  | bool (b : Bool)
  | int (n : ℤ)
  | float (text : String)
  | str (s : String)
  | arr (xs : List Json)
  | obj (fields : List (String × Json))

namespace Json

/-- `d[key]` of a parsed object: the last of several equal keys wins. -/
def field? (fields : List (String × Json)) (key : String) : Option Json :=
  (fields.reverse.find? (·.1 == key)).map (·.2)

/-- `d.update(more)`: a key that is there keeps its place. -/
def update (fields more : List (String × Json)) : List (String × Json) :=
  more.foldl (fun fields entry =>
    if fields.any (·.1 == entry.1) then
      fields.map fun field => if field.1 == entry.1 then entry else field
    else fields ++ [entry]) fields

/-- Name of the Python type a value parses to. -/
def typeName : Json → String
  | .null => "NoneType"
  | .bool _ => "bool"
  | .int _ => "int"
  | .float _ => "float"
  | .str _ => "str"
  | .arr _ => "list"
  | .obj _ => "dict"

/-- A character as `repr` of a string quoted with `quote` writes it; beyond the first 256 every
character is taken for printable. -/
def reprChar (quote c : Char) : List Char :=
  if c = quote ∨ c = '\\' then ['\\', c]
  else if c = '\n' then ['\\', 'n']
  else if c = '\r' then ['\\', 'r']
  else if c = '\t' then ['\\', 't']
  else if c.toNat < 32 ∨ 127 ≤ c.toNat ∧ c.toNat ≤ 160 ∨ c.toNat = 173 then
    ['\\', 'x', hexDigit (c.toNat / 16), hexDigit (c.toNat % 16)]
  else [c]

/-- `repr` of a string: single quotes unless it has some and no double ones. -/
def reprStr (s : String) : String :=
  let quote := if s.toList.contains '\'' && !s.toList.contains '"' then '"' else '\''
  String.ofList (quote :: s.toList.flatMap (reprChar quote) ++ [quote])

mutual

/-- `repr` of a parsed value. -/
def repr : Json → String
  | .null => "None"
  | .bool true => "True"
  | .bool false => "False"
  | .int n => toString n
  | .float text => text
  | .str s => reprStr s
  | .arr xs => "[" ++ ", ".intercalate (reprList xs) ++ "]"
  | .obj fields => "\x7b" ++ ", ".intercalate (reprFields fields) ++ "\x7d"

def reprList : List Json → List String
  | [] => []
  | x :: xs => x.repr :: reprList xs

def reprFields : List (String × Json) → List String
  | [] => []
  | (key, x) :: fields => (reprStr key ++ ": " ++ x.repr) :: reprFields fields

end

/-- `str()` of a parsed value. -/
def pyStr : Json → String
  | .str s => s
  | x => x.repr

end Json

end OgpuSdk
