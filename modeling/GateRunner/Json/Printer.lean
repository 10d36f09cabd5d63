import GateRunner.Json.Value

/-!
# JSON texts

Writing a value on one line. In a text the quotation mark, the backslash and the control characters are escaped, and
every other character stands for itself. What is unreadable is written `null`.
-/

namespace GateRunner.Json

/-- Four hexadecimal digits. -/
def hex4 (n : Nat) : String :=
  let digits := Nat.toDigits 16 n
  String.ofList (List.replicate (4 - digits.length) '0' ++ digits)

/-- A character inside quotation marks. -/
def escaped (c : Char) : String :=
  if c = '"' then "\\\""
  else if c = '\\' then "\\\\"
  else if c.toNat < 0x20 then "\\u" ++ hex4 c.toNat
  else String.singleton c

/-- A text in quotation marks. -/
def quoted (text : String) : String := text.foldl (fun acc c => acc ++ escaped c) "\"" ++ "\""

mutual

/-- The value appended to a text. -/
def writeTo (acc : String) : Json → String
  | .null => acc ++ "null"
  | .unreadable => acc ++ "null"
  | .bool true => acc ++ "true"
  | .bool false => acc ++ "false"
  | .num n => acc ++ n.text
  | .str s => acc ++ quoted s
  | .arr items => writeItems (acc ++ "[") false items ++ "]"
  | .obj fields => writeFields (acc ++ "\x7b") false fields ++ "\x7d"

/-- The items of an array appended to a text, with a comma before each but the first. -/
def writeItems (acc : String) (comma : Bool) : List Json → String
  | [] => acc
  | item :: rest => writeItems (writeTo (if comma then acc ++ "," else acc) item) true rest

/-- The fields of an object appended to a text, with a comma before each but the first. -/
def writeFields (acc : String) (comma : Bool) : List (String × Json) → String
  | [] => acc
  | (name, value) :: rest =>
    writeFields (writeTo ((if comma then acc ++ "," else acc) ++ quoted name ++ ":") value) true rest

end

/-- The value on one line. -/
def render (value : Json) : String := writeTo "" value

end GateRunner.Json
