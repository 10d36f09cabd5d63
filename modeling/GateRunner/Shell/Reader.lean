import GateRunner.Shell.Token

/-!
# Reading scripts

A script is read one complete command at a time, since what comes before a mistake is still carried out. Words are read
in one of several contexts: bare, between double quotes, between braces, in arithmetic, and in a text within the
script; contexts nest, and so do commands within words.

All readers take fuel, one unit for each step down or onward. `Reader.fuel` is enough for any text, since every step
but a bounded number in a row reads a character.
-/

namespace GateRunner.Shell

open Reading

/-- Where in a script double quotes are in force. -/
inductive Quoting
  /-- Between double quotes. -/
  | quotes
  /-- Between braces, with double quotes around; further quotes inside may be open. -/
  | braces (inner : Bool)
  /-- In a text within the script. -/
  | document
deriving DecidableEq

/-- A character added to the text read last, if it is quoted alike. Parts are in reverse order. -/
def addChar (quoted : Bool) (c : Char) : Word → Word
  | .text q value :: rest => if q = quoted then .text q (value.push c) :: rest else .text quoted (.singleton c) :: .text q value :: rest
  | parts => .text quoted (.singleton c) :: parts

/-- The text up to the next single quote; gives nothing if there is none. -/
def upToQuote : List Char → Option (List Char × List Char)
  | [] => none
  | '\'' :: rest => some ([], rest)
  | c :: rest => (upToQuote rest).map fun (text, rest) => (c :: text, rest)

/-- The number of line feeds in a text. -/
def countLines (text : List Char) : Nat := text.count '\n'

/-- Text between single quotes, after the first one. -/
def readSingleQuoted : Reading String := do
  let r ← get
  match upToQuote r.rest with
  | some (text, rest) =>
    set { r with rest, line := r.line + countLines text }
    return String.ofList text
  | none =>
    set { r with rest := [], line := r.line + countLines r.rest }
    refuse "Unterminated quoted string"

/-- The text between back quotes, after the first one. Within double quotes a backslash also takes the meaning from
them. -/
def upToBackQuote (dquoted : Bool) : List Char → Option (List Char × List Char)
  | [] => none
  | '`' :: rest => some ([], rest)
  | '\\' :: c :: rest =>
    if c = '\n' then upToBackQuote dquoted rest
    else
      let kept := if c = '\\' || c = '`' || c = '$' || (dquoted && c = '"') then [c] else ['\\', c]
      (upToBackQuote dquoted rest).map fun (text, rest) => (kept ++ text, rest)
  | c :: rest => (upToBackQuote dquoted rest).map fun (text, rest) => (c :: text, rest)

/-- The parameters that go by a sign. -/
def isSpecialParameter (c : Char) : Bool := c.isDigit || c ∈ ['#', '?', '$', '!', '-', '*', '@']

/-- The kind of a fallback by its sign. -/
def fallbackOf? : Char → Option Fallback
  | '-' => some .useDefault
  | '=' => some .assignDefault
  | '+' => some .useAlternative
  | '?' => some .complain
  | _ => none

/-- The operators that a character begins, with the tokens they are; longer ones first. -/
def operatorsOf : Char → List (Option Char × Token)
  | '&' => [(some '&', .and), (none, .background)]
  | '|' => [(some '|', .or), (none, .pipe)]
  | ';' => [(some ';', .endOfCase), (none, .semicolon)]
  | '(' => [(none, .open)]
  | ')' => [(none, .close)]
  | _ => []

/-- Characters that end a bare word. -/
def endsWord (c : Char) : Bool := c ∈ [' ', '\t', '\n', '<', '>', '(', ')', ';', '&', '|']

/-- The logical lines of a text up to a mark, joined ones counting as one, with the text after it. -/
def upToMark (p : PendingDocument) : Nat → List Char → List Char → List Char → List Char × List Char
  | 0, _, done, rest => (done.reverse, rest)
  | _, _, done, [] => (done.reverse, [])
  | fuel + 1, [], done, rest =>
    let shifted := if p.strip then rest.dropWhile (· = '\t') else rest
    let line := shifted.takeWhile (· ≠ '\n')
    let after := (shifted.dropWhile (· ≠ '\n')).drop 1
    if String.ofList line = p.mark then (done.reverse, after)
    else
      let ended := !(shifted.dropWhile (· ≠ '\n')).isEmpty
      let joined := p.expands && (line.reverse.takeWhile (· = '\\')).length % 2 = 1
      let done := (if ended then ['\n'] else []) ++ line.reverse ++ done
      upToMark p fuel (if joined then ['+'] else []) done after
  | fuel + 1, _ :: _, done, rest =>
    let line := rest.takeWhile (· ≠ '\n')
    let after := (rest.dropWhile (· ≠ '\n')).drop 1
    let ended := !(rest.dropWhile (· ≠ '\n')).isEmpty
    let joined := (line.reverse.takeWhile (· = '\\')).length % 2 = 1
    upToMark p fuel (if joined then ['+'] else []) ((if ended then ['\n'] else []) ++ line.reverse ++ done) after

/-- The names at the front of a text. -/
def takeName : Nat → Reading (List Char)
  | 0 => return []
  | fuel + 1 => do
    match ← next with
    | some c => if isInName c then return c :: (← takeName fuel) else
        back (some c)
        return []
    | none => return []

/-- The digits at the front of a text. -/
def takeDigits : Nat → Reading (List Char)
  | 0 => return []
  | fuel + 1 => do
    match ← next with
    | some c => if c.isDigit then return c :: (← takeDigits fuel) else
        back (some c)
        return []
    | none => return []

/-- The name of a parameter between braces, and whether its length is meant; the name is empty if there is none. -/
def readParameterName (fuel : Nat) : Reading (String × Bool) := do
  match ← next with
  | none => return ("", false)
  | some c =>
    if beginsName c then
      back (some c)
      return (String.ofList (← takeName fuel), false)
    else if c.isDigit then
      back (some c)
      return (String.ofList (← takeDigits fuel), false)
    else if c = '#' then
      match ← next with
      | none => return ("#", false)
      | some d =>
        if beginsName d then
          back (some d)
          return (String.ofList (← takeName fuel), true)
        else if d.isDigit then
          back (some d)
          return (String.ofList (← takeDigits fuel), true)
        else
          let after ← next
          back after
          if d ≠ '\x7d' && after = some '\x7d' && isSpecialParameter d then return (.singleton d, true)
          back (some d)
          return ("#", false)
    else if isSpecialParameter c then return (.singleton c, false)
    else
      back (some c)
      return ("", false)

/-- What was read in double quotes, which begins with an empty text so that it makes a field in any case. The arguments
by themselves make none if there are none. -/
def withoutMark (inner : Word) : Word :=
  match inner with
  | [.text true "", .parameter true "@" .value] => inner.tail
  | _ => inner

mutual

/-- A bare word, or the word between the braces of an expansion, from where it goes on. Parts read already are given
in reverse order. -/
def readBare : Nat → Bool → Word → Reading Word
  | 0, _, parts => return parts.reverse
  | fuel + 1, inBraces, parts => do
    match ← next with
    | none => if inBraces then refuse "Missing '\x7d'" else return parts.reverse
    | some c =>
      if c = '\x7d' && inBraces then return parts.reverse
      if !inBraces && endsWord c then
        back (some c)
        return parts.reverse
      match c with
      | '\n' =>
        countLine
        readBare fuel inBraces (addChar false c parts)
      | '\\' =>
        match ← nextRaw with
        | none => readBare fuel inBraces (addChar true '\\' parts)
        | some d => readBare fuel inBraces (addChar true d parts)
      | '\'' =>
        let text ← readSingleQuoted
        readBare fuel inBraces (.text true text :: parts)
      | '"' =>
        let inner ← readQuoted fuel .quotes [.text true ""]
        readBare fuel inBraces ((withoutMark inner).reverse ++ parts)
      | '`' => readBare fuel inBraces ((← readBackQuotes fuel false) :: parts)
      | '$' => readBare fuel inBraces ((← readDollar fuel false) ++ parts)
      | c => readBare fuel inBraces (addChar false c parts)

/-- Text in double quotes or what is like it, from where it goes on. -/
def readQuoted : Nat → Quoting → Word → Reading Word
  | 0, _, parts => return parts.reverse
  | fuel + 1, quoting, parts => do
    match ← next with
    | none =>
      match quoting with
      | .quotes => refuse "Unterminated quoted string"
      | .braces _ => refuse "Unterminated quoted string"
      | .document => return parts.reverse
    | some c =>
      match c with
      | '\n' =>
        countLine
        readQuoted fuel quoting (addChar true c parts)
      | '\\' =>
        match ← nextRaw with
        | none => readQuoted fuel quoting (addChar true '\\' parts)
        | some d =>
          let bare := d = '\\' || d = '`' || d = '$' || (d = '"' && quoting ≠ .document) ||
            (d = '\x7d' && quoting = .braces false)
          let parts := if bare then parts else addChar true '\\' parts
          if d = '\n' then countLine
          readQuoted fuel quoting (addChar true d parts)
      | '"' =>
        match quoting with
        | .quotes => return parts.reverse
        | .braces inner => readQuoted fuel (.braces (!inner)) parts
        | .document => readQuoted fuel quoting (addChar true c parts)
      | '`' => readQuoted fuel quoting ((← readBackQuotes fuel true) :: parts)
      | '$' => readQuoted fuel quoting ((← readDollar fuel true) ++ parts)
      | c =>
        if c = '\x7d' && quoting = .braces false then return parts.reverse
        readQuoted fuel quoting (addChar true c parts)

/-- The text of an arithmetic expression, with the depth of brackets. -/
def readArithmetic : Nat → Nat → Word → Reading Word
  | 0, _, parts => return parts.reverse
  | fuel + 1, depth, parts => do
    match ← next with
    | none => refuse "Missing '))'"
    | some c =>
      match c with
      | '\n' =>
        countLine
        readArithmetic fuel depth (addChar true c parts)
      | '\\' =>
        match ← nextRaw with
        | none => readArithmetic fuel depth parts
        | some d => readArithmetic fuel depth (addChar true d parts)
      | '(' => readArithmetic fuel (depth + 1) (addChar true c parts)
      | ')' =>
        match depth with
        | depth + 1 => readArithmetic fuel depth (addChar true c parts)
        | 0 =>
          match ← next with
          | some ')' => return parts.reverse
          | d =>
            back d
            readArithmetic fuel 0 (addChar true c parts)
      | '`' => readArithmetic fuel depth ((← readBackQuotes fuel true) :: parts)
      | '$' => readArithmetic fuel depth ((← readDollar fuel true) ++ parts)
      | c => readArithmetic fuel depth (addChar true c parts)

/-- A command between back quotes. Its lines are counted from one. -/
def readBackQuotes : Nat → Bool → Reading Part
  | 0, quoted => return .command quoted none
  | fuel + 1, quoted => do
    let r ← get
    match upToBackQuote quoted r.rest with
    | none =>
      set { r with line := r.line + countLines r.rest, rest := [] }
      refuse "EOF in backquote substitution"
    | some (text, rest) =>
      let consumed := r.rest.length - rest.length
      let inner := { Reader.begin text 1 r.nextDocument r.aliases with documents := r.documents }
      let (body, inner) ← (readList fuel false true).run inner
      set { r with
              rest, line := r.line + countLines (r.rest.take consumed), documents := inner.documents,
              nextDocument := inner.nextDocument }
      return .command quoted body

/-- What a dollar sign begins. The answer is in reverse order. -/
def readDollar : Nat → Bool → Reading Word
  | 0, quoted => return [.text quoted "$"]
  | fuel + 1, quoted => do
    match ← next with
    | none => return [.text quoted "$"]
    | some '(' =>
      match ← next with
      | some '(' => return [.arithmetic quoted (← readArithmetic fuel 0 [])]
      | c =>
        back c
        let outer ← get
        set { outer with expected := .nothing, pushed := false, pending := [] }
        let body ← readList fuel false true
        if !((← readToken fuel) matches .close) then expecting .close
        modify fun r => { r with expected := outer.expected, pushed := false, pending := outer.pending }
        return [.command quoted body]
    | some '\x7b' =>
      let (name, wantsLength) ← readParameterName fuel
      if name = "" then
        let _ ← readBracesRest fuel quoted
        return [.parameter quoted "" .unknown]
      else
        match ← next with
        | some '\x7d' => return [.parameter quoted name (if wantsLength then .length else .value)]
        | c =>
          if wantsLength then
            back c
            let _ ← readBracesRest fuel quoted
            return [.parameter quoted name .unknown]
          else
            let (colon, sign) ← match c with
              | some ':' => do
                  let d ← next
                  pure (true, d)
              | c => pure (false, c)
            match sign.bind fallbackOf? with
            | some kind =>
              let word ← readBracesRest fuel quoted
              return [.parameter quoted name (.fallback colon kind word)]
            | none =>
              if !colon && (sign = some '#' || sign = some '%') then
                let again ← next
                let long := again = sign
                if !long then back again
                let pattern ← readBare fuel true []
                let kind : Trim := if sign = some '#' then if long then .longFront else .shortFront
                  else if long then .longBack else .shortBack
                return [.parameter quoted name (.trim kind pattern)]
              else
                back sign
                let _ ← readBracesRest fuel quoted
                return [.parameter quoted name .unknown]
    | some c =>
      if beginsName c then
        back (some c)
        return [.parameter quoted (String.ofList (← takeName fuel)) .value]
      else if isSpecialParameter c then return [.parameter quoted (.singleton c) .value]
      else
        back (some c)
        return [.text quoted "$"]

/-- The word up to the brace that ends an expansion. -/
def readBracesRest : Nat → Bool → Reading Word
  | 0, _ => return []
  | fuel + 1, quoted => if quoted then readQuoted fuel (.braces false) [] else readBare fuel true []

/-- The text that ends a text within the script: nothing in it is expanded. -/
def readEndMark : Nat → Word → Reading Word
  | 0, parts => return parts.reverse
  | fuel + 1, parts => do
    match ← next with
    | none => return parts.reverse
    | some c =>
      if endsWord c then
        back (some c)
        return parts.reverse
      match c with
      | '\\' =>
        match ← nextRaw with
        | none => readEndMark fuel (addChar true '\\' parts)
        | some d => readEndMark fuel (addChar true d parts)
      | '\'' =>
        let text ← readSingleQuoted
        readEndMark fuel (.text true text :: parts)
      | '"' =>
        let r ← get
        let text := r.rest.takeWhile (· ≠ '"')
        if text.length = r.rest.length then refuse "Unterminated quoted string"
        set { r with rest := r.rest.drop (text.length + 1), line := r.line + countLines text }
        readEndMark fuel (.text true (String.ofList text) :: parts)
      | c => readEndMark fuel (addChar false c parts)

/-- The next token as the characters give it. -/
def readPlainToken : Nat → Reading Token
  | 0 => return .endOfFile
  | fuel + 1 => do
    match ← next with
    | none => return .endOfFile
    | some c =>
      if c = ' ' || c = '\t' then readPlainToken fuel
      else if c = '#' then
        modify fun r => { r with rest := r.rest.dropWhile (· ≠ '\n') }
        readPlainToken fuel
      else if c = '\n' then
        countLine
        return .newline
      else
        match operatorsOf c with
        | [(some second, long), (_, short)] =>
          let d ← next
          if d = some second then return long
          back d
          return short
        | [(_, token)] => return token
        | _ =>
          if c = '<' || c = '>' then readRedirect fuel c none
          else
            back (some c)
            let parts ← if (← get).expected.endMark then readEndMark fuel [] else readBare fuel false []
            let follows ← next
            match follows, plainWord? parts with
            | some '<', some text | some '>', some text =>
              if text.length = 1 && text.toList.all Char.isDigit then
                readRedirect fuel (follows.getD '<') (text.toList.head?.map fun c => c.toNat - 48)
              else
                back follows
                return .word parts
            | _, _ =>
              back follows
              return .word parts

/-- A redirection after its first sign. -/
def readRedirect : Nat → Char → Option Nat → Reading Token
  | 0, _, _ => return .endOfFile
  | _ + 1, first, channel => do
    let second ← next
    if first = '>' then
      let out := channel.getD 1
      match second with
      | some '>' => return .redirect out .append false
      | some '|' => return .redirect out .overwrite false
      | some '&' => return .redirect out .duplicate false
      | c =>
        back c
        return .redirect out .write false
    else
      let input := channel.getD 0
      match second with
      | some '<' =>
        let third ← next
        let strip := third = some '-'
        if !strip then back third
        return .redirect input (.here 0) strip
      | some '&' => return .redirect input .duplicate false
      | some '>' => return .redirect input .readWrite false
      | c =>
        back c
        return .redirect input .read false

/-- Reads the texts within the script that are still to come, at the end of a line. -/
def readDocuments : Nat → Reading Unit
  | 0 => return ()
  | fuel + 1 => do
    let r ← get
    match r.pending with
    | [] => return ()
    | p :: pending =>
      let (text, rest) := upToMark p (r.rest.length + 1) [] [] r.rest
      let lines := countLines (r.rest.take (r.rest.length - rest.length))
      if p.expands then
        let inner := { Reader.begin text r.line r.nextDocument r.aliases with documents := r.documents }
        let (parts, inner) ← match (readQuoted fuel .document []).run inner with
          | .ok result => pure result
          | .error e => throw <| match e.reason with
            | "Unterminated quoted string" => ⟨r.line + lines, "Missing '\x7d'"⟩
            | "Missing '))'" => ⟨r.line + lines, e.reason⟩
            | _ => e
        set { r with
                rest, line := r.line + lines, pending, documents := (p.number, parts) :: inner.documents,
                nextDocument := inner.nextDocument }
      else
        set { r with
                rest, line := r.line + lines, pending,
                documents := (p.number, [.text true (String.ofList text)]) :: r.documents }
      readDocuments fuel

/-- The next token as it is looked for: past ends of lines, as a keyword, with an alias written out. -/
def readToken : Nat → Reading Token
  | 0 => return .endOfFile
  | fuel + 1 => do
    let e := (← get).expected
    let r ← get
    let token ← if r.pushed then do
        set { r with pushed := false }
        pure r.last
      else readPlainToken fuel
    if token.isNewline && e.newlines then
      readDocuments fuel
      readToken fuel
    else
      modify fun r => { r with expected := .nothing }
      let token ← match token with
        | .word parts =>
          match plainWord? parts with
          | none => pure token
          | some text =>
            match if e.keywords then Keyword.table.lookup text else none with
            | some k => pure (.keyword k)
            | none =>
              let r ← get
              let busy := r.busy.filter fun b => b.2 < r.rest.length
              match if e.aliases && !(busy.any (·.1 = text)) then r.aliases.lookup text else none with
              | some meaning =>
                set { r with
                        rest := meaning.toList ++ r.rest, busy := (text, r.rest.length) :: busy, expected := e }
                readToken fuel
              | none => pure token
        | token => pure token
      modify fun r => { r with last := token }
      return token

/-- The file or the text of a redirection. -/
def readTarget : Nat → Nat → RedirectKind → Bool → Reading Redirect
  | 0, channel, kind, _ => return .mk channel kind []
  | fuel + 1, channel, kind, strip => do
    match kind with
    | .here _ =>
      expect { Expectation.nothing with endMark := true }
      match ← readToken fuel with
      | .word parts =>
        let r ← get
        let p : PendingDocument := ⟨r.nextDocument, !holdsQuotes parts, strip, unquotedText parts⟩
        set { r with pending := r.pending ++ [p], nextDocument := r.nextDocument + 1 }
        return .mk channel (.here p.number) []
      | _ => unexpected
    | kind =>
      match ← readToken fuel with
      | .word parts => return .mk channel kind parts
      | _ => unexpected

/-- Redirections as long as there are any. -/
def readRedirects : Nat → Reading (List Redirect)
  | 0 => return []
  | fuel + 1 => do
    expect ⟨false, true, true, false⟩
    match ← readToken fuel with
    | .redirect channel kind strip =>
      let first ← readTarget fuel channel kind strip
      return first :: (← readRedirects fuel)
    | _ =>
      pushBack
      return []

/-- A list of commands. At the top level it ends with the line; within a substitution or a branch it may be empty. -/
def readList : Nat → Bool → Bool → Reading (Option Command)
  | 0, _, _ => return none
  | fuel + 1, onLine, mayEnd => readListFrom fuel onLine mayEnd none

/-- A list of commands from where it goes on. -/
def readListFrom : Nat → Bool → Bool → Option Command → Reading (Option Command)
  | 0, _, _, sofar => return sofar
  | fuel + 1, onLine, mayEnd, sofar => do
    expect ⟨!onLine, true, true, false⟩
    let token ← readToken fuel
    match token with
    | .newline =>
      readDocuments fuel
      return sofar
    | .endOfFile =>
      readDocuments fuel
      modify fun r => { r with pushed := true, last := .endOfFile }
      return sofar
    | token =>
      pushBack
      if !onLine && mayEnd && token.endsList then return sofar
      let command ← readAndOr fuel
      let separator ← readToken fuel
      let line := (← get).line
      let command := match separator, command with
        | .background, .pipeline stages _ => Command.pipeline stages true
        | .background, .redirected _ body redirects => .background line (some body) redirects
        | .background, .subshell line body redirects => .background line (some (.subshell line body redirects)) []
        | .background, body => .background line (some body) []
        | _, command => command
      let sofar := some (match sofar with
        | some before => .sequence before command
        | none => command)
      match separator with
      | .endOfFile =>
        readDocuments fuel
        modify fun r => { r with pushed := true, last := .endOfFile }
        return sofar
      | .newline =>
        pushBack
        readListFrom fuel onLine true sofar
      | .background | .semicolon => readListFrom fuel onLine true sofar
      | _ =>
        if onLine then unexpected
        pushBack
        return sofar

/-- Pipelines joined by `&&` and `||`. -/
def readAndOr : Nat → Reading Command
  | 0 => return default
  | fuel + 1 => do
    let first ← readPipeline fuel
    readAndOrFrom fuel first

/-- Pipelines joined by `&&` and `||`, after the first. -/
def readAndOrFrom : Nat → Command → Reading Command
  | 0, first => return first
  | fuel + 1, first => do
    match ← readToken fuel with
    | .and =>
      expect .command
      let second ← readPipeline fuel
      readAndOrFrom fuel (.both first second)
    | .or =>
      expect .command
      let second ← readPipeline fuel
      readAndOrFrom fuel (.either first second)
    | _ =>
      pushBack
      return first

/-- A pipeline, which may be negated. -/
def readPipeline : Nat → Reading Command
  | 0 => return default
  | fuel + 1 => do
    let negated := (← readToken fuel).isKeyword .not
    if negated then expect .commandHere else pushBack
    let first ← readCommand fuel
    let stages ← readStages fuel
    let body := if stages.isEmpty then first else .pipeline (first :: stages) false
    return if negated then .negated body else body

/-- The further stages of a pipeline. -/
def readStages : Nat → Reading (List Command)
  | 0 => return []
  | fuel + 1 => do
    match ← readToken fuel with
    | .pipe =>
      expect .command
      let stage ← readCommand fuel
      return stage :: (← readStages fuel)
    | _ =>
      pushBack
      return []

/-- A keyword that has to come. -/
def readKeyword : Nat → Keyword → Reading Unit
  | 0, _ => return ()
  | fuel + 1, k => do
    if !(← readToken fuel).isKeyword k then expecting (.keyword k)

/-- A command. -/
def readCommand : Nat → Reading Command
  | 0 => return default
  | fuel + 1 => do
    let token ← readToken fuel
    let line := (← get).line
    match token with
    | .keyword .if =>
      let body ← readConditional fuel
      readKeyword fuel .fi
      return withRedirects line body (← readRedirects fuel)
    | .keyword .while | .keyword .until =>
      let test ← readList fuel false false
      readKeyword fuel .do
      let body ← readList fuel false false
      readKeyword fuel .done
      return withRedirects line (.loop (token.isKeyword .while) test body) (← readRedirects fuel)
    | .keyword .for =>
      let name ← match ← readToken fuel with
        | .word parts =>
          match plainWord? parts with
          | some text => if isName text then pure text else refuse "Bad for loop variable"
          | none => refuse "Bad for loop variable"
        | _ => refuse "Bad for loop variable"
      expect .command
      let words ← if (← readToken fuel).isKeyword .in then do
          let words ← readWords fuel
          match (← get).last with
          | .newline | .semicolon => pure words
          | _ => unexpected
        else do
          if !((← get).last matches .semicolon) then pushBack
          pure [[.parameter true "@" .value]]
      expect .command
      readKeyword fuel .do
      let body ← readList fuel false false
      readKeyword fuel .done
      return withRedirects line (.forEach line name words body) (← readRedirects fuel)
    | .keyword .case =>
      let subject ← match ← readToken fuel with
        | .word parts => pure parts
        | _ => expecting (.word [])
      expect .command
      readKeyword fuel .in
      let branches ← readBranches fuel
      return withRedirects line (.select line subject branches) (← readRedirects fuel)
    | .open =>
      let body ← readList fuel false false
      if !((← readToken fuel) matches .close) then expecting .close
      return .subshell line body (← readRedirects fuel)
    | .keyword .begin =>
      let body ← readList fuel false false
      readKeyword fuel .close
      return withRedirects line (body.getD default) (← readRedirects fuel)
    | .word _ | .redirect _ _ _ =>
      pushBack
      readSimple fuel line [] [] []
    | _ => unexpected

/-- The parts of a conditional after its first keyword. -/
def readConditional : Nat → Reading Command
  | 0 => return default
  | fuel + 1 => do
    let test ← readList fuel false false
    readKeyword fuel .then
    let yes ← readList fuel false false
    match ← readToken fuel with
    | .keyword .elif => return .conditional test yes (some (← readConditional fuel))
    | .keyword .else => return .conditional test yes (← readList fuel false false)
    | _ =>
      pushBack
      return .conditional test yes none

/-- Words as long as there are any; the token after them counts as read. -/
def readWords : Nat → Reading (List Word)
  | 0 => return []
  | fuel + 1 => do
    match ← readToken fuel with
    | .word parts => return parts :: (← readWords fuel)
    | _ => return []

/-- The branches of a selection, with the keyword that ends it. -/
def readBranches : Nat → Reading (List (List Word × Option Command))
  | 0 => return []
  | fuel + 1 => do
    expect ⟨true, true, false, false⟩
    let token ← readToken fuel
    if token.isKeyword .esac then return []
    let token ← if token matches .open then readToken fuel else pure token
    let patterns ← readPatterns fuel token
    if !((← get).last matches .close) then expecting .close
    let body ← readList fuel false true
    expect ⟨true, true, false, false⟩
    let token ← readToken fuel
    if token.isKeyword .esac then return [(patterns, body)]
    if !(token matches .endOfCase) then expecting .endOfCase
    return (patterns, body) :: (← readBranches fuel)

/-- The patterns of a branch from its first token on; the token after them counts as read. -/
def readPatterns : Nat → Token → Reading (List Word)
  | 0, _ => return []
  | fuel + 1, first => do
    let pattern ← match first with
      | .word parts => pure parts
      | .keyword k => pure [.text false k.spelling]
      | _ => pure []
    match ← readToken fuel with
    | .pipe => return pattern :: (← readPatterns fuel (← readToken fuel))
    | _ => return [pattern]

/-- A simple command, or the definition of a function. What has been read already is in reverse order. -/
def readSimple : Nat → Nat → List (String × Word) → List Word → List Redirect → Reading Command
  | 0, line, assignments, words, redirects =>
    return .simple line assignments.reverse words.reverse redirects.reverse
  | fuel + 1, line, assignments, words, redirects => do
    expect { Expectation.nothing with aliases := words.isEmpty }
    match ← readToken fuel with
    | .word parts =>
      match if words.isEmpty then assignment? parts else none with
      | some assignment => readSimple fuel line (assignment :: assignments) words redirects
      | none => readSimple fuel line assignments (parts :: words) redirects
    | .redirect channel kind strip =>
      let redirect ← readTarget fuel channel kind strip
      readSimple fuel line assignments words (redirect :: redirects)
    | .open =>
      match words, assignments, redirects with
      | [name], [], [] =>
        if !((← readToken fuel) matches .close) then expecting .close
        let text := (plainWord? name).getD ""
        if !isName text || text ∈ specialBuiltins then refuse "Bad function name"
        expect .command
        let line := (← get).line
        return .define line text (← readCommand fuel)
      | _, _, _ =>
        pushBack
        return .simple line assignments.reverse words.reverse redirects.reverse
    | _ =>
      pushBack
      return .simple line assignments.reverse words.reverse redirects.reverse

end

/-- Fuel for reading a text. -/
def Reader.fuel (text : List Char) : Nat := 8 * text.length + 64

/-- What comes next in a script. -/
inductive NextCommand
  | command (body : Option Command) (after : Reader)
  | finished
  | wrong (e : ScriptError)

/-- The next complete command of a script, an empty line being one too. -/
def Reader.nextCommand (r : Reader) : NextCommand :=
  match (readList (Reader.fuel r.rest) true false).run
      { r with pushed := false, expected := .nothing, pending := [] } with
  | .ok (none, after) => if after.pushed then .finished else .command none after
  | .ok (some body, after) => .command (some body) after
  | .error e => .wrong e

end GateRunner.Shell
