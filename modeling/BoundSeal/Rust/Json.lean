import BoundSeal.Rust.Text

/-!
# Compact JSON, as `serde_json` writes it

Serialising a structure writes an object with its fields in order of declaration
and no white space. Texts are escaped as `serde_json` escapes them: the quotation
mark, the backslash and the control characters below `0x20`.
-/

namespace BoundSeal.Rust

/-- The JSON values the modelled structures serialise to. -/
inductive Json where
  | null
  | bool (b : Bool)
  | number (n : ℕ)
  | integer (n : ℤ)
  | text (s : String)
  | array (items : List Json)
  | object (fields : List (String × Json))

namespace Json

/-- The lowercase hexadecimal digit of a number below 16. -/
def hexDigit (n : ℕ) : Char := "0123456789abcdef".toList.getD n '0'

def escapeChar (c : Char) : List Char :=
  if c = '"' then ['\\', '"']
  else if c = '\\' then ['\\', '\\']
  else if c = '\x08' then ['\\', 'b']
  else if c = '\x0c' then ['\\', 'f']
  else if c = '\n' then ['\\', 'n']
  else if c = '\x0d' then ['\\', 'r']
  else if c = '\t' then ['\\', 't']
  else if c.toNat < 0x20 then
    ['\\', 'u', '0', '0', hexDigit (c.toNat / 16), hexDigit (c.toNat % 16)]
  else [c]

def quote (s : String) : List Char := '"' :: s.toList.flatMap escapeChar ++ ['"']

mutual

/-- The characters of a value. -/
def chars : Json → List Char
  | .null => "null".toList
  | .bool true => "true".toList
  | .bool false => "false".toList
  | .number n => Nat.toDigits 10 n
  | .integer n => if n < 0 then '-' :: Nat.toDigits 10 n.natAbs else Nat.toDigits 10 n.natAbs
  | .text s => quote s
  | .array items => '[' :: [','].intercalate (itemChars items) ++ [']']
  | .object fields => '\x7b' :: [','].intercalate (fieldChars fields) ++ ['\x7d']

def itemChars : List Json → List (List Char)
  | [] => []
  | item :: items => chars item :: itemChars items

def fieldChars : List (String × Json) → List (List Char)
  | [] => []
  | (name, value) :: fields => (quote name ++ ':' :: chars value) :: fieldChars fields

end

/-- `serde_json::to_vec`: the characters in UTF-8. -/
def toVec (value : Json) : Bytes := value.chars.flatMap String.utf8EncodeChar

/-- A field that may be absent serialises to `null`. -/
def option (f : α → Json) : Option α → Json
  | some a => f a
  | none => .null

def texts (items : List String) : Json := .array (items.map .text)

end Json

example : (Json.object [("a", .number 1), ("b", .texts ["x\"y"])]).chars =
    "\x7b\"a\":1,\"b\":[\"x\\\"y\"]\x7d".toList := by decide

end BoundSeal.Rust
