import GateRunner.Text.Utf8

/-!
# Texts of bytes

Programs work on bytes and mostly mean characters by them. A text of bytes is a text in which each character stands for
one byte, that of its number; so lengths, places and order in it are those of bytes, and what is plain ASCII looks as
it always does. `Bytes.ofText` and `Bytes.toText` go over from texts proper and back.
-/

namespace GateRunner.Bytes

/-- The text of a list of bytes. -/
def ofList (bytes : List UInt8) : String := String.ofList (bytes.map fun b => Char.ofNat b.toNat)

/-- The bytes of a text of bytes. -/
def toList (text : String) : List UInt8 := text.toList.map fun c => UInt8.ofNat c.toNat

/-- The bytes that encode a text. -/
def ofText (text : String) : String :=
  if text.toList.all (·.toNat < 128) then text else ofList (Utf8.encode text)

/-- The text that bytes encode. -/
def toText (bytes : String) : String :=
  if bytes.toList.all (·.toNat < 128) then bytes else Utf8.decodeLossy (toList bytes)

end GateRunner.Bytes
