/-!
# UTF-8, read strictly or forgivingly

Bytes are read once, by `Utf8.scan`, into characters and marks for ill-formed pieces. An ill-formed piece is as long as
it could still have begun a character, so a byte that ends one begins the next. `Utf8.decode?` refuses any such piece;
`Utf8.decodeLossy` puts the replacement character in its place.
-/

namespace GateRunner.Utf8

/-- A character begun: the bits so far, the bytes still owed, and the range of the next one. -/
structure Begun where
  bits : Nat
  owed : Nat
  low : Nat
  high : Nat

/-- What a byte begins, standing where a character may start. -/
inductive Start
  | whole (c : Char)
  | part (p : Begun)
  | stray

/-- The meaning of a first byte. The narrowed ranges keep out overlong forms, surrogates and numbers past the last
code point. -/
def start (byte : UInt8) : Start :=
  let b := byte.toNat
  if b < 0x80 then .whole (Char.ofNat b)
  else if b < 0xC2 then .stray
  else if b < 0xE0 then .part ⟨b - 0xC0, 1, 0x80, 0xBF⟩
  else if b < 0xF0 then
    .part ⟨b - 0xE0, 2, if b = 0xE0 then 0xA0 else 0x80, if b = 0xED then 0x9F else 0xBF⟩
  else if b < 0xF5 then
    .part ⟨b - 0xF0, 3, if b = 0xF0 then 0x90 else 0x80, if b = 0xF4 then 0x8F else 0xBF⟩
  else .stray

/-- Reads the bytes in one pass. The result is in reverse order; `none` marks an ill-formed piece. -/
def scanOnto (seen : List (Option Char)) : Option Begun → List UInt8 → List (Option Char)
  | none, [] => seen
  | some _, [] => none :: seen
  | none, byte :: rest =>
    match start byte with
    | .whole c => scanOnto (some c :: seen) none rest
    | .part p => scanOnto seen (some p) rest
    | .stray => scanOnto (none :: seen) none rest
  | some p, byte :: rest =>
    let b := byte.toNat
    if p.low ≤ b ∧ b ≤ p.high then
      let bits := p.bits * 64 + (b - 0x80)
      if p.owed ≤ 1 then scanOnto (some (Char.ofNat bits) :: seen) none rest
      else scanOnto seen (some ⟨bits, p.owed - 1, 0x80, 0xBF⟩) rest
    else
      match start byte with
      | .whole c => scanOnto (some c :: none :: seen) none rest
      | .part q => scanOnto (none :: seen) (some q) rest
      | .stray => scanOnto (none :: none :: seen) none rest

/-- The characters of a byte string in order, with `none` for each ill-formed piece. -/
def scan (bytes : List UInt8) : List (Option Char) := (scanOnto [] none bytes).reverse

/-- The text of well-formed bytes. -/
def decode? (bytes : List UInt8) : Option (List Char) := (scan bytes).mapM id

/-- The text of any bytes, each ill-formed piece read as the replacement character. -/
def decodeLossy (bytes : List UInt8) : String := String.ofList ((scan bytes).map (·.getD '\uFFFD'))

/-- The bytes of a text. -/
def encode (text : String) : List UInt8 := text.toUTF8.toList

end GateRunner.Utf8
