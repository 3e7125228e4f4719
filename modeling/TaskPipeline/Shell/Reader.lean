import TaskPipeline.Shell.Token

/-!
Reading scripts: words with their quotes and expansions, simple and compound commands, and lists of
commands. `Reader.next` reads the next line of a script with all that belongs to it, or says why it
is none. Every step takes some fuel; there is always enough of it for the text that is left.
-/

namespace TaskPipeline.Shell

open Reading

/-- The operators of redirections that begin with a certain character, behind that character. -/
def redirectTail : Char → Reading String
  | '>' => do
    if ← skipIf '>' then return ">>"
    else if ← skipIf '|' then return ">|"
    else if ← skipIf '&' then return ">&"
    else return ">"
  | _ => do
    if ← skipIf '<' then
      if ← skipIf '-' then return "<<-" else return "<<"
    else if ← skipIf '&' then return "<&"
    else if ← skipIf '>' then return "<>"
    else return "<"

/-- The redirection that the last operator and the last word make. -/
def redirectOf : Reading Redirect := do
  let r ← get
  let (stream, op) := r.redirect
  match op with
  | "<<" | "<<-" =>
    let awaited : Awaited := ⟨r.nextKey, written r.word, op = "<<-", !r.quoted⟩
    set { r with nextKey := r.nextKey + 1, awaited := r.awaited ++ [awaited] }
    return .document stream r.nextKey
  | "<&" | ">&" => return .join stream r.word
  | "<" => return .file stream .reading r.word
  | "<>" => return .file stream .both r.word
  | ">>" => return .file stream .appending r.word
  | ">|" => return .file stream .forcing r.word
  | _ => return .file stream .writing r.word

/-- The text between backquotes. A backslash there protects dollar signs, backquotes, backslashes
and, inside double quotes, double quotes. -/
def backquoted (doubled : Bool) : Nat → List Char → Reading (List Char)
  | 0, _ => fail .openBackquote
  | fuel + 1, done => do
    match ← ahead with
    | none => fail .openBackquote
    | some c =>
      skip
      if c = '\u0060' then return done.reverse
      else if c = '\\' then
        match ← bareAhead with
        | none => fail .openBackquote
        | some e =>
          skip
          let hides := e = '\\' ∨ e = '\u0060' ∨ e = '$' ∨ (doubled ∧ e = '"')
          backquoted doubled fuel (if hides then e :: done else e :: c :: done)
      else backquoted doubled fuel (c :: done)

/-- A character behind a backslash in double quotes or in a document. -/
def hiddenChar (braced inDocument : Bool) (done : Word) : Reading Word := do
  match ← bareAhead with
  | none => return putChar '\\' true done
  | some c =>
    skip
    noteQuoted
    let hides := c = '\\' ∨ c = '\u0060' ∨ c = '$' ∨ (c = '"' ∧ (!inDocument ∨ braced)) ∨
      (c = '}' ∧ braced)
    return putChar c true (if hides then done else putChar '\\' true done)

/-- The text in single quotes, up to the closing one. -/
def singleQuoted : Reading Word := do
  let r ← get
  let inner := r.rest.takeWhile (· != '\'')
  match r.rest.drop inner.length with
  | _ :: left =>
    set { r with rest := left, line := r.line + inner.count '\n', quoted := true }
    return [.text (String.ofList inner) true]
  | [] =>
    set { r with line := r.line + inner.count '\n' }
    fail .openQuote

/-- The lines of a document in which nothing is expanded. -/
def bareLines (a : Awaited) : Nat → List Char → Reading String
  | 0, done => return String.ofList done.reverse
  | fuel + 1, done => do
    let r ← get
    let cs := if a.stripTabs then r.rest.dropWhile (· == '\t') else r.rest
    let line := cs.takeWhile (· != '\n')
    set { r with rest := cs.drop (line.length + 1), line := r.line + 1 }
    if cs.isEmpty ∨ line = a.mark.toList then return String.ofList done.reverse
    else
      let ended := if cs.length = line.length then [] else ['\n']
      bareLines a fuel (ended ++ line.reverse ++ done)

mutual

/-- Unquoted text: a word, or what stands in braces up to the closing one. -/
def plainParts : Nat → Bool → Word → Reading Word
  | 0, _, _ => fail .openQuote
  | fuel + 1, braced, done => do
    match ← ahead with
    | none => if braced then fail .openBrace else return done
    | some c =>
      if isMeta c ∧ !braced then return done
      skip
      match c with
      | '}' => if braced then return done else plainParts fuel braced (putChar c false done)
      | '\'' => plainParts fuel braced (putQuoted (← singleQuoted) done)
      | '"' => plainParts fuel braced (putQuoted (← quotedParts fuel braced []) done)
      | '\\' =>
        match ← bareAhead with
        | none => return putChar c true done
        | some e =>
          skip
          noteQuoted
          plainParts fuel braced (putChar e true done)
      | '$' => plainParts fuel braced (← expansion fuel false done)
      | '\u0060' => plainParts fuel braced (← backquote fuel false done)
      | _ => plainParts fuel braced (putChar c false done)

/-- The text in double quotes, up to the closing one. -/
def quotedParts : Nat → Bool → Word → Reading Word
  | 0, _, _ => fail .openQuote
  | fuel + 1, braced, done => do
    match ← ahead with
    | none => fail .openQuote
    | some c =>
      skip
      match c with
      | '"' =>
        noteQuoted
        return done
      | '\\' => quotedParts fuel braced (← hiddenChar braced false done)
      | '$' => quotedParts fuel braced (← expansion fuel true done)
      | '\u0060' => quotedParts fuel braced (← backquote fuel true done)
      | _ => quotedParts fuel braced (putChar c true done)

/-- What stands in braces inside double quotes, up to the closing brace. -/
def bracedParts : Nat → Word → Reading Word
  | 0, _ => fail .openQuote
  | fuel + 1, done => do
    match ← ahead with
    | none => fail .openQuote
    | some c =>
      skip
      match c with
      | '}' => return done
      | '"' => bracedParts fuel ((← quotedParts fuel true []) ++ done)
      | '\\' => bracedParts fuel (← hiddenChar true false done)
      | '$' => bracedParts fuel (← expansion fuel true done)
      | '\u0060' => bracedParts fuel (← backquote fuel true done)
      | _ => bracedParts fuel (putChar c true done)

/-- An arithmetic term, up to the two closing parentheses. -/
def termParts : Nat → Nat → Word → Reading Word
  | 0, _, _ => fail .openTerm
  | fuel + 1, depth, done => do
    match ← ahead with
    | none => fail .openTerm
    | some c =>
      skip
      match c with
      | '(' => termParts fuel (depth + 1) (putChar c true done)
      | ')' =>
        match depth with
        | d + 1 => termParts fuel d (putChar c true done)
        | 0 => if ← skipIf ')' then return done else termParts fuel 0 (putChar c true done)
      | '\\' => termParts fuel depth (← hiddenChar false false done)
      | '$' => termParts fuel depth (← expansion fuel true done)
      | '\u0060' => termParts fuel depth (← backquote fuel true done)
      | _ => termParts fuel depth (putChar c true done)

/-- The expansion behind a dollar sign, which stands for itself where there is none. -/
def expansion : Nat → Bool → Word → Reading Word
  | 0, _, _ => fail .openQuote
  | fuel + 1, doubled, done => do
    let c := (← ahead).getD ' '
    if (← get).marking ∨ !(c = '(' ∨ c = '{' ∨ isNameStart c ∨ isSpecialName c) then
      return putChar '$' doubled done
    if c = '(' then
      skip
      if ← skipIf '(' then
        let term ← termParts fuel 0 []
        return .arithmetic term.reverse doubled :: done
      else
        let awaited := (← get).awaited
        modify fun r => { r with awaited := [] }
        let body ← list fuel false true .nothing
        expect fuel (.operator ")")
        modify fun r => { r with awaited := awaited }
        return .output body doubled :: done
    else if c = '{' then
      skip
      let head := parameterHead (← get).rest
      modify fun r => { r with rest := head.left }
      if head.closed then return .parameter head.name head.use [] doubled :: done
      let plain := !doubled || match head.use with
        | .trim .. => true
        | _ => false
      let word ← if plain then plainParts fuel true [] else bracedParts fuel []
      return .parameter head.name head.use word.reverse doubled :: done
    else
      let r ← get
      let name := if isNameStart c then r.rest.takeWhile isNameChar else [c]
      set { r with rest := r.rest.drop name.length }
      return .parameter (String.ofList name) .plain [] doubled :: done

/-- The command between backquotes. -/
def backquote : Nat → Bool → Word → Reading Word
  | 0, _, _ => fail .openBackquote
  | fuel + 1, doubled, done => do
    if (← get).marking then return putChar '\u0060' doubled done
    let first := (← get).line
    let inner ← backquoted doubled ((← get).rest.length + 1) []
    let outer ← get
    set { outer with rest := inner, line := first, awaited := [] }
    let body ← list fuel false true .nothing
    modify fun r => { r with
      rest := outer.rest
      line := outer.line
      awaited := outer.awaited
      again := false }
    return .output body doubled :: done

/-- The lines of a document in which expansions count. -/
def documentLines : Nat → Awaited → Word → Reading Word
  | 0, _, done => return done
  | fuel + 1, a, done => do
    let r ← get
    let cs := if a.stripTabs then r.rest.dropWhile (· == '\t') else r.rest
    let line := cs.takeWhile (· != '\n')
    if cs.isEmpty ∨ line = a.mark.toList then
      set { r with rest := cs.drop (line.length + 1), line := r.line + 1 }
      return done
    else
      set { r with rest := cs }
      documentLine fuel a done

/-- The rest of a line of a document, and the lines behind it. -/
def documentLine : Nat → Awaited → Word → Reading Word
  | 0, _, done => return done
  | fuel + 1, a, done => do
    match ← ahead with
    | none => return done
    | some c =>
      skip
      match c with
      | '\n' => documentLines fuel a (putChar c true done)
      | '\\' => documentLine fuel a (← hiddenChar false true done)
      | '$' => documentLine fuel a (← expansion fuel true done)
      | '\u0060' => documentLine fuel a (← backquote fuel true done)
      | _ => documentLine fuel a (putChar c true done)

/-- Reads the documents that are awaited. -/
def documents : Nat → List Awaited → Reading Unit
  | 0, _ => fail .openQuote
  | _, [] => pure ()
  | fuel + 1, a :: more => do
    modify fun r => { r with awaited := [] }
    let body : Word ←
      if a.expands then pure (← documentLines fuel a []).reverse
      else pure [.text (← bareLines a ((← get).rest.length + 1) []) true]
    modify fun r => { r with documents := (a.key, body) :: r.documents }
    documents fuel more

/-- Reads a token as it stands there. -/
def bareToken : Nat → Reading Token
  | 0 => fail .openQuote
  | fuel + 1 => do
    modify fun r =>
      let (rest, line) := behindBlanks false r.line r.rest
      { r with rest := rest, line := line }
    match ← bareAhead with
    | none => return .endOfFile
    | some '\n' =>
      skip
      return .lineEnd
    | some '&' =>
      skip
      return .operator (if ← skipIf '&' then "&&" else "&")
    | some '|' =>
      skip
      return .operator (if ← skipIf '|' then "||" else "|")
    | some ';' =>
      skip
      return .operator (if ← skipIf ';' then ";;" else ";")
    | some '(' =>
      skip
      return .operator "("
    | some ')' =>
      skip
      return .operator ")"
    | some _ =>
      modify fun r => { r with quoted := false }
      let parts ← plainParts fuel false []
      let stream? : Option (Option Char) := match parts with
        | [] => some none
        | [.text s false] => match s.toList with
          | [d] => if d.isDigit then some (some d) else none
          | _ => none
        | _ => none
      match stream?, ← ahead, (← get).quoted with
      | some digit, some c, false =>
        if c = '<' ∨ c = '>' then
          skip
          let op ← redirectTail c
          let usual := if c = '<' then 0 else 1
          let stream := (digit.map fun d => d.toNat - '0'.toNat).getD usual
          modify fun r => { r with redirect := (stream, op) }
          return .redirection
        else
          modify fun r => { r with word := parts.reverse }
          return .word
      | _, _, _ =>
        modify fun r => { r with word := parts.reverse }
        return .word

/-- Reads a token, or once more the last one. Ends of lines may be passed, and reserved words may
count. -/
def token : Nat → Bool → Bool → Reading Token
  | 0, _, _ => fail .openQuote
  | fuel + 1, lines, reserved => do
    let r ← get
    let t ← if r.again then pure r.token else bareToken fuel
    modify fun r => { r with again := false, token := t }
    match t with
    | .lineEnd =>
      if lines then
        documents fuel (← get).awaited
        token fuel lines reserved
      else return t
    | .word =>
      let r ← get
      match bare? r.word with
      | some s =>
        if reserved ∧ !r.quoted ∧ reservedWords.contains s then
          set { r with token := .reserved s }
          return .reserved s
        else return t
      | none => return t
    | _ => return t

/-- Reads a certain token. -/
def expect : Nat → Token → Reading Unit
  | 0, _ => fail .openQuote
  | fuel + 1, expected => do
    let t ← token fuel false false
    if t ≠ expected then fail (.unexpected t (some expected))

/-- A list of commands: of one line only, or up to a token that ends it, which may stand at its
front only if it may be empty. -/
def list : Nat → Bool → Bool → Command → Reading Command
  | 0, _, _, _ => fail .openQuote
  | fuel + 1, single, mayEnd, done => do
    let t ← token fuel (!single) true
    match t with
    | .lineEnd =>
      documents fuel (← get).awaited
      return done
    | .endOfFile =>
      documents fuel (← get).awaited
      putBack
      return done
    | _ =>
      putBack
      if mayEnd ∧ !single ∧ t.ends then return done
      let c ← conditional fuel (← pipeline fuel false)
      let t ← token fuel false false
      let c := if t = .operator "&" then .background c else c
      let done := match done with
        | .nothing => c
        | _ => .sequence done c
      match t with
      | .lineEnd | .endOfFile =>
        putBack
        list fuel single true done
      | .operator "&" | .operator ";" => list fuel single true done
      | _ =>
        if single then fail (.unexpected t none)
        putBack
        return done

/-- Goes on with pipelines that hang on the outcome of those before. -/
def conditional : Nat → Command → Reading Command
  | 0, _ => fail .openQuote
  | fuel + 1, first => do
    match ← token fuel false false with
    | .operator "&&" => conditional fuel (.both first (← pipeline fuel true))
    | .operator "||" => conditional fuel (.either first (← pipeline fuel true))
    | _ =>
      putBack
      return first

/-- Commands that are piped into each other, perhaps negated. -/
def pipeline : Nat → Bool → Reading Command
  | 0, _ => fail .openQuote
  | fuel + 1, fresh => do
    if (← token fuel fresh fresh) = .reserved "!" then
      return .negation (← piped fuel (← command fuel false true))
    else
      putBack
      piped fuel (← command fuel false false)

/-- Goes on with commands that read what the one before writes. -/
def piped : Nat → Command → Reading Command
  | 0, _ => fail .openQuote
  | fuel + 1, source => do
    if (← token fuel false false) = .operator "|" then
      return .pipe source (← piped fuel (← command fuel true true))
    else
      putBack
      return source

/-- Reads one command. -/
def command : Nat → Bool → Bool → Reading Command
  | 0, _, _ => fail .openQuote
  | fuel + 1, lines, reserved => do
    let line := (← get).line
    match ← token fuel lines reserved with
    | .reserved "if" => withRedirects fuel line (← branch fuel)
    | .reserved "while" => withRedirects fuel line (← loop fuel false)
    | .reserved "until" => withRedirects fuel line (← loop fuel true)
    | .reserved "for" => withRedirects fuel line (← each fuel line)
    | .reserved "case" => withRedirects fuel line (← choice fuel line)
    | .operator "(" =>
      let body ← list fuel false false .nothing
      expect fuel (.operator ")")
      withRedirects fuel line (.subshell line body)
    | .reserved "\x7b" =>
      let body ← list fuel false false .nothing
      expect fuel (.reserved "\x7d")
      withRedirects fuel line body
    | .word | .redirection =>
      putBack
      simple fuel (← get).line [] [] []
    | t => fail (.unexpected t none)

/-- The redirections behind a compound command. -/
def withRedirects : Nat → Nat → Command → Reading Command
  | 0, _, _ => fail .openQuote
  | fuel + 1, line, c => do
    let rs ← redirects fuel
    return if rs.isEmpty then c else .redirected line c rs

def redirects : Nat → Reading (List Redirect)
  | 0 => fail .openQuote
  | fuel + 1 => do
    if (← token fuel false true) = .redirection then
      let r ← redirect fuel
      return r :: (← redirects fuel)
    else
      putBack
      return []

/-- The redirection whose operator was read last. -/
def redirect : Nat → Reading Redirect
  | 0 => fail .openQuote
  | fuel + 1 => do
    let r ← get
    set { r with marking := r.redirect.2.startsWith "<<" }
    let t ← token fuel false false
    modify fun r => { r with marking := false }
    if t ≠ .word then fail (.unexpected t none)
    redirectOf

/-- A simple command, or the definition of a function. The parts come in reverse. -/
def simple : Nat → Nat → List (String × Word) → List Word → List Redirect → Reading Command
  | 0, _, _, _, _ => fail .openQuote
  | fuel + 1, line, assigned, words, rs => do
    match ← token fuel false false with
    | .word =>
      let w := (← get).word
      match words, assignment? w with
      | [], some a => simple fuel line (a :: assigned) words rs
      | _, _ => simple fuel line assigned (w :: words) rs
    | .redirection => simple fuel line assigned words ((← redirect fuel) :: rs)
    | t =>
      match t, assigned, words, rs with
      | .operator "(", [], [name], [] =>
        expect fuel (.operator ")")
        match (bare? name).filter fun s => isName s && !specialNames.contains s with
        | some name => return .define name (← command fuel true true)
        | none => fail .badFunctionName
      | _, _, _, _ =>
        putBack
        return .simple line assigned.reverse words.reverse rs.reverse

/-- A branch behind its first word. -/
def branch : Nat → Reading Command
  | 0 => fail .openQuote
  | fuel + 1 => do
    let condition ← list fuel false false .nothing
    expect fuel (.reserved "then")
    let yes ← list fuel false false .nothing
    match ← token fuel false false with
    | .reserved "elif" => return .branch condition yes (← branch fuel)
    | .reserved "else" =>
      let no ← list fuel false false .nothing
      expect fuel (.reserved "fi")
      return .branch condition yes no
    | _ =>
      putBack
      expect fuel (.reserved "fi")
      return .branch condition yes .nothing

/-- A loop behind its first word. -/
def loop : Nat → Bool → Reading Command
  | 0, _ => fail .openQuote
  | fuel + 1, untilSuccess => do
    let condition ← list fuel false false .nothing
    expect fuel (.reserved "do")
    let body ← list fuel false false .nothing
    expect fuel (.reserved "done")
    return .loop untilSuccess condition body

/-- A loop over words behind its first word. -/
def each : Nat → Nat → Reading Command
  | 0, _ => fail .openQuote
  | fuel + 1, line => do
    let t ← token fuel false false
    let r ← get
    match if t = .word ∧ !r.quoted then (bare? r.word).filter isName else none with
    | none => fail .badLoopName
    | some name =>
      let words ←
        if (← token fuel true true) = .reserved "in" then words fuel
        else
          if (← get).token ≠ .operator ";" then putBack
          pure [[.parameter "@" .plain [] true]]
      let t ← token fuel true true
      if t ≠ .reserved "do" then fail (.unexpected t (some (.reserved "do")))
      let body ← list fuel false false .nothing
      expect fuel (.reserved "done")
      return .each line name words body

/-- The words that a loop goes through. -/
def words : Nat → Reading (List Word)
  | 0 => fail .openQuote
  | fuel + 1 => do
    match ← token fuel false false with
    | .word =>
      let w := (← get).word
      return w :: (← words fuel)
    | .lineEnd | .operator ";" => return []
    | t => fail (.unexpected t none)

/-- A choice behind its first word. -/
def choice : Nat → Nat → Reading Command
  | 0, _ => fail .openQuote
  | fuel + 1, line => do
    let t ← token fuel false false
    if t ≠ .word then fail (.unexpected t (some .word))
    let subject := (← get).word
    let t ← token fuel true true
    if t ≠ .reserved "in" then fail (.unexpected t (some (.reserved "in")))
    return .choose line subject (← bodies fuel)

/-- The bodies of a choice with their patterns. -/
def bodies : Nat → Reading (List (List Word × Command))
  | 0 => fail .openQuote
  | fuel + 1 => do
    let t ← token fuel true true
    if t = .reserved "esac" then return []
    if t = .operator "(" then let _ ← token fuel false false
    let patterns ← patterns fuel
    let t := (← get).token
    if t ≠ .operator ")" then fail (.unexpected t (some (.operator ")")))
    let body ← list fuel false true .nothing
    match ← token fuel true true with
    | .reserved "esac" => return [(patterns, body)]
    | .operator ";;" => return (patterns, body) :: (← bodies fuel)
    | t => fail (.unexpected t (some (.operator ";;")))

/-- Patterns with bars between them, of which the first was just read. -/
def patterns : Nat → Reading (List Word)
  | 0 => fail .openQuote
  | fuel + 1 => do
    let w := (← get).word
    if (← token fuel false false) = .operator "|" then
      let _ ← token fuel false false
      return w :: (← patterns fuel)
    else return [w]

end

/-! ## Whole scripts -/

/-- A reader of a script. The keys of its documents are counted from a number. -/
def Reader.ofText (script : String) (nextKey : Nat) : Reader :=
  { rest := script.toList, nextKey := nextKey }

/-- The last command of the script has been read. -/
def Reader.atEnd (r : Reader) : Bool := r.again && r.token == .endOfFile

/-- Reads the commands of the next line; none if the script is over. -/
def Reader.next (r : Reader) : Except Misread (Option Command × Reader) := do
  let fuel := 20 * (r.rest.length + 10)
  let (c, r) ← (list fuel true false .nothing).run { r with again := false, word := [] }
  match c with
  | .nothing => return (if r.atEnd then none else some c, r)
  | _ => return (some c, r)

end TaskPipeline.Shell
