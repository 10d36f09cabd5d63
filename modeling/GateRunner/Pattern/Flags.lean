import GateRunner.Pattern.CaseFolding
import GateRunner.Pattern.Classes
import GateRunner.Pattern.Set

/-!
# Flags of patterns

A pattern can say within its text how the text after it is to be read: whether case matters, where lines end, whether
characters are those of all scripts or of ASCII alone, and whether blanks and remarks may be left in it.
-/

namespace GateRunner.Pattern

/-- The flags in force. -/
structure Flags where
  anyCase : Bool
  multiLine : Bool
  dotNewline : Bool
  unicode : Bool
  verbose : Bool
  shortFirst : Bool
  carriage : Bool
deriving DecidableEq, Repr

/-- The flags at the beginning. -/
def Flags.initial : Flags := ⟨false, false, false, true, false, false, false⟩

/-- Sets or clears the flag of a letter. -/
def Flags.put (f : Flags) (letter : Char) (on : Bool) : Option Flags :=
  match letter with
  | 'i' => some { f with anyCase := on }
  | 'm' => some { f with multiLine := on }
  | 's' => some { f with dotNewline := on }
  | 'u' => some { f with unicode := on }
  | 'x' => some { f with verbose := on }
  | 'U' => some { f with shortFirst := on }
  | 'R' => some { f with carriage := on }
  | _ => none

/-- The text after what the verbose flag lets one leave: blanks, and remarks to the end of their line. -/
def skipRemarks (f : Flags) : Bool → List Char → List Char
  | _, [] => []
  | remark, c :: rest =>
    if !f.verbose then c :: rest
    else if remark then skipRemarks f (c ≠ '\n') rest
    else if CharSet.has whiteSpace c.toNat then skipRemarks f false rest
    else if c = '#' then skipRemarks f true rest
    else c :: rest

/-- The text after what may be left. -/
def skip (f : Flags) (text : List Char) : List Char := skipRemarks f false text

/-- A set with the flag for case worked in. -/
def underCase (f : Flags) (s : CharSet) : CharSet :=
  if !f.anyCase then s else if f.unicode then s.anyCase else s.anyCaseAscii

end GateRunner.Pattern
