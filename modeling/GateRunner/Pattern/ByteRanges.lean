import GateRunner.Number.Power
import GateRunner.Pattern.Set

/-!
# Sets of characters as rows of bytes

The bytes of a character are a first byte and up to three that follow it, which hold six bits each. The characters of a
range are covered by rows of ranges of bytes: wherever a row has a range that is not a single byte, all ranges after it
are full.
-/

namespace GateRunner.Pattern

/-- A row of ranges of bytes, for the texts with a byte of each range. -/
abbrev ByteRow := List (Nat × Nat)

/-- The bytes that can follow a first byte. -/
def followingBytes : Nat × Nat := (0x80, 0xBF)

/-- The rows for the numbers from `low` to `high`, in order: a byte counted from `base`, and as many after it as are
given. Numbers that begin with the same byte make rows of their own unless all numbers are there that begin so. -/
def byteRows (base : Nat) : Nat → Nat → Nat → List ByteRow
  | 0, low, high => [[(base + low, base + high)]]
  | following + 1, low, high =>
    let block := twoTo (6 * (following + 1))
    let under (byte low high : Nat) : List ByteRow :=
      (byteRows followingBytes.1 following low high).map ((base + byte, base + byte) :: ·)
    let first := low / block
    let last := high / block
    if first = last then under first (low % block) (high % block)
    else
      let partFirst := low % block ≠ 0
      let partLast := high % block ≠ block - 1
      let from_ := if partFirst then first + 1 else first
      let to_ := if partLast then last else last + 1
      (if partFirst then under first (low % block) (block - 1) else [])
        ++ (if from_ < to_ then [(base + from_, base + to_ - 1) :: List.replicate (following + 1) followingBytes] else [])
        ++ (if partLast then under last 0 (high % block) else [])

/-- The code points by the number of bytes: the first and the last of each kind, what their first byte is counted from,
and how many follow it. Between the two kinds with three bytes there are no characters. -/
def byteKinds : List (Nat × Nat × Nat × Nat) :=
  [(0, 0x7F, 0, 0), (0x80, 0x7FF, 0xC0, 1), (0x800, 0xD7FF, 0xE0, 2), (0xE000, 0xFFFF, 0xE0, 2),
    (0x10000, 0x10FFFF, 0xF0, 3)]

/-- The rows of bytes for the characters of a set, in order. -/
def CharSet.byteRows (s : CharSet) : List ByteRow :=
  List.flatMap (fun (low, high) =>
    byteKinds.flatMap fun (least, most, base, following) =>
      let low := max low least
      let high := min high most
      if low ≤ high then Pattern.byteRows base following low high else []) s

/-- Whether all characters of a set have one byte. -/
def CharSet.isAscii (s : CharSet) : Bool := List.all s (fun range => range.2 < 0x80)

end GateRunner.Pattern
