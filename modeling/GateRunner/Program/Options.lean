import GateRunner.Program.Action

/-!
# Options of programs

Options stand among the arguments of a program: letters after one hyphen, several together, or a word after two. Some
take a value, in the same argument or in the next. Two hyphens end the options, and what is no option is an operand.
-/

namespace GateRunner

/-- An option: the letter it goes by, the long name, and whether it takes a value. An option without a letter goes by
one that nobody can type. -/
structure OptionSpec where
  letter : Char
  long : String
  takesValue : Bool
  /-- Whether the value may be left out, and then does not stand in the next argument. -/
  mayOmit : Bool

/-- An option without a value. -/
def flag (letter : Char) (long : String) : OptionSpec := ⟨letter, long, false, false⟩

/-- An option with a value. -/
def valued (letter : Char) (long : String) : OptionSpec := ⟨letter, long, true, false⟩

/-- What is wrong with options. -/
inductive OptionError
  | unknownLetter (c : Char)
  | unknownWord (word : String)
  | ambiguousWord (word : String) (candidates : List String)
  | missingValue (c : Char)
  | missingLongValue (word : String)
  | valueRefused (word : String)

/-- The wording of an error. -/
def OptionError.message : OptionError → String
  | .unknownLetter c => "invalid option -- '" ++ String.singleton c ++ "'"
  | .unknownWord word => "unrecognized option '--" ++ word ++ "'"
  | .ambiguousWord word candidates =>
    "option '--" ++ word ++ "' is ambiguous; possibilities:" ++ String.join (candidates.map fun c => " '--" ++ c ++ "'")
  | .missingValue c => "option requires an argument -- '" ++ String.singleton c ++ "'"
  | .missingLongValue word => "option '--" ++ word ++ "' requires an argument"
  | .valueRefused word => "option '--" ++ word ++ "' doesn't allow an argument"

/-- The options and the operands of a call. -/
structure Options where
  given : List (Char × String)
  operands : List String

namespace Options

/-- Whether an option is given. -/
def has (o : Options) (letter : Char) : Bool := o.given.any (·.1 = letter)

/-- The value of an option as given last. -/
def value? (o : Options) (letter : Char) : Option String :=
  (o.given.reverse.find? (·.1 = letter)).map (·.2)

/-- All the values of an option. -/
def values (o : Options) (letter : Char) : List String := (o.given.filter (·.1 = letter)).map (·.2)

/-- The one of some options that is given last. -/
def last? (o : Options) (letters : List Char) : Option Char :=
  (o.given.reverse.find? (fun g => letters.contains g.1)).map (·.1)

end Options

/-- The option a long name means, which may be cut short as long as it is clear. -/
def longOption? (specs : List OptionSpec) (word : String) : Except OptionError OptionSpec :=
  match specs.find? (fun s => s.long = word && s.long ≠ "") with
  | some s => .ok s
  | none =>
    match specs.filter (fun s => s.long ≠ "" && s.long.startsWith word) with
    | [s] => .ok s
    | [] => .error (.unknownWord word)
    | several =>
      match several with
      | s :: rest => if rest.all (·.letter = s.letter) then .ok s else .error (.ambiguousWord word (several.map (·.long)))
      | [] => .error (.unknownWord word)

/-- The letters of one argument. Gives the options, and the letter that waits for a value in the next argument. -/
def readLetters (specs : List OptionSpec) : List Char → Except OptionError (List (Char × String) × Option Char)
  | [] => .ok ([], none)
  | c :: rest =>
    match specs.find? (·.letter = c) with
    | none => .error (.unknownLetter c)
    | some s =>
      if s.takesValue then
        if rest.isEmpty && !s.mayOmit then .ok ([], some c) else .ok ([(c, String.ofList rest)], none)
      else do
        let (more, waiting) ← readLetters specs rest
        return ((c, "") :: more, waiting)

/-- Reads arguments one after the other. A letter or a word may be waiting for a value. Programs that stop at the first
operand take all after it as operands. -/
def readOptionsFrom (specs : List OptionSpec) (stopEarly : Bool) : Option (Char × OptionError) → List String →
    Except OptionError Options
  | some (_, e), [] => .error e
  | none, [] => .ok ⟨[], []⟩
  | some (letter, _), arg :: rest => do
    let more ← readOptionsFrom specs stopEarly none rest
    return { more with given := (letter, arg) :: more.given }
  | none, arg :: rest => do
    if arg = "--" then return ⟨[], rest⟩
    if arg.startsWith "--" then
      let body := String.ofList (arg.toList.drop 2)
      let word := String.ofList (body.toList.takeWhile (· ≠ '='))
      let s ← longOption? specs word
      if body.toList.contains '=' then
        let value := String.ofList ((body.toList.dropWhile (· ≠ '=')).drop 1)
        if !s.takesValue then throw (.valueRefused s.long)
        let more ← readOptionsFrom specs stopEarly none rest
        return { more with given := (s.letter, value) :: more.given }
      else if s.takesValue && !s.mayOmit then
        readOptionsFrom specs stopEarly (some (s.letter, .missingLongValue s.long)) rest
      else
        let more ← readOptionsFrom specs stopEarly none rest
        return { more with given := (s.letter, "") :: more.given }
    else if arg.startsWith "-" && arg ≠ "-" then
      let (found, waiting) ← readLetters specs (arg.toList.drop 1)
      let more ← readOptionsFrom specs stopEarly (waiting.map fun c => (c, .missingValue c)) rest
      return { more with given := found ++ more.given }
    else if stopEarly then return ⟨[], arg :: rest⟩
    else
      let more ← readOptionsFrom specs stopEarly none rest
      return { more with operands := arg :: more.operands }

/-- The options and operands of arguments. -/
def readOptions (specs : List OptionSpec) (args : List String) : Except OptionError Options :=
  readOptionsFrom specs false none args

/-- A program by what it does with its options; wrong options end it with a status. -/
def withOptions (specs : List OptionSpec) (status : Nat) (body : Call → Options → Action Nat) : Tool := fun c =>
  match readOptions specs c.args with
  | .ok o => body c o
  | .error e => c.refuseWithHint e.message status

end GateRunner
