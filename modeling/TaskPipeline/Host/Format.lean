import TaskPipeline.Host.Quoting
import TaskPipeline.Host.Raw
import TaskPipeline.Text.Places

/-!
Texts with escapes, as they are printed: escapes stand for bytes, and a format takes arguments, as
often as there are arguments left. Scripts and tools differ in the escapes they know and in what
they say about arguments that are no numbers.
-/

namespace TaskPipeline.Host

/-! ## Escapes -/

/-- Who reads the escapes. -/
inductive Writer where
  | scriptFormat
  | scriptText
  | toolFormat
  | toolText
  | toolEcho
  deriving DecidableEq, Repr

def Writer.isTool : Writer → Bool
  | scriptFormat | scriptText => false
  | _ => true

/-- An octal number may have a zero in front of its three digits. -/
def Writer.allowsZero : Writer → Bool
  | scriptFormat | toolFormat => false
  | _ => true

/-- What an escape stands for. -/
inductive Escape where
  | byte (c : Char)
  /-- A character that cannot be shown, in digits. -/
  | spelled (cs : List Char)
  /-- Nothing more is to be printed. -/
  | stop
  | broken (message : String)
  deriving DecidableEq, Repr

/-- The character of an escape of one letter. -/
def letterEscape? : Char → Option Char
  | 'a' => some '\x07'
  | 'b' => some '\x08'
  | 'e' => some '\x1b'
  | 'f' => some '\x0c'
  | 'n' => some '\n'
  | 'r' => some '\r'
  | 't' => some '\t'
  | 'v' => some '\x0b'
  | '\\' => some '\\'
  | _ => none

def byteChar (n : Nat) : Char := Char.ofNat (n % 256)

def missingDigits : Escape := .broken "missing hexadecimal number in escape"

/-- The escape of a character by its number, which has as many digits as its letter asks for. Only
plain characters can be shown; the number stands for the others. -/
def numberedEscape (letter : Char) (rest : List Char) : Escape × List Char :=
  let size := if letter = 'u' then 4 else 8
  let ds := (rest.take size).takeWhile fun c => (Text.digitTo? 16 c).isSome
  let n := (Text.frontDigits 16 0 ds).1
  if ds.length < size then (missingDigits, [])
  else if 0xd800 ≤ n ∧ n ≤ 0xdfff then
    (.broken (String.ofList ("invalid universal character name \\".toList ++ letter :: ds)), [])
  else if n < 0x80 then (.byte (Char.ofNat n), rest.drop size)
  else if n < 0x10000 then
    (.spelled ('\\' :: 'u' :: (ds.drop (size - 4)).map Char.toUpper), rest.drop size)
  else (.spelled ('\\' :: letter :: ds.map Char.toUpper), rest.drop size)

/-- The escape behind a backslash, and what follows it. An unknown one is a backslash. -/
def escape (w : Writer) (cs : List Char) : Escape × List Char :=
  let octal (ds : List Char) : Escape × List Char :=
    let own := (ds.take 3).takeWhile fun c => (Text.digitTo? 8 c).isSome
    (.byte (byteChar (Text.frontDigits 8 0 own).1), ds.drop own.length)
  match cs with
  | [] => (.byte '\\', [])
  | c :: rest =>
    match letterEscape? c with
    | some e => (.byte e, rest)
    | none =>
      if c = '0' ∧ w.allowsZero then octal rest
      else if (Text.digitTo? 8 c).isSome then octal cs
      else if c = 'c' ∧ w ≠ .scriptFormat then (.stop, rest)
      else if w.isTool ∧ w ≠ .toolEcho ∧ c = '"' then (.byte '"', rest)
      else if w.isTool ∧ w ≠ .toolEcho ∧ (c = 'u' ∨ c = 'U') then numberedEscape c rest
      else if w.isTool ∧ c = 'x' then
        let ds := (rest.take 2).takeWhile fun c => (Text.digitTo? 16 c).isSome
        if ds.isEmpty then (if w = .toolEcho then (.byte '\\', cs) else (missingDigits, rest))
        else (.byte (byteChar (Text.frontDigits 16 0 ds).1), rest.drop ds.length)
      else (.byte '\\', cs)

/-- A text with its escapes replaced, and whether printing stops there. -/
def unescape (w : Writer) : Nat → List Char → List Char × Bool
  | 0, _ | _, [] => ([], false)
  | fuel + 1, '\\' :: rest =>
    match escape w rest with
    | (.byte c, left) =>
      let (cs, stop) := unescape w fuel left
      (c :: cs, stop)
    | (.spelled e, left) =>
      let (cs, stop) := unescape w fuel left
      (e ++ cs, stop)
    | (.stop, _) | (.broken _, _) => ([], true)
  | fuel + 1, c :: rest =>
    let (cs, stop) := unescape w fuel rest
    (c :: cs, stop)

def unescaped (w : Writer) (s : String) : List Char × Bool := unescape w (s.length + 1) s.toList

/-! ## Conversions -/

/-- How a conversion is laid out. -/
structure Layout where
  atLeft : Bool := false
  plus : Bool := false
  gap : Bool := false
  zeros : Bool := false
  other : Bool := false
  width : Nat := 0
  precision : Option Nat := none

/-- Fills up to the width. A sign stays in front of the zeros that fill. -/
def Layout.fill (l : Layout) (zeros : Bool) (sign body : List Char) : List Char :=
  let room := l.width - (sign.length + body.length)
  if l.atLeft then sign ++ body ++ List.replicate room ' '
  else if zeros then sign ++ List.replicate room '0' ++ body
  else List.replicate room ' ' ++ sign ++ body

def Layout.text (l : Layout) (s : List Char) : List Char :=
  l.fill false [] ((l.precision.map s.take).getD s)

def Layout.sign (l : Layout) (negative : Bool) : List Char :=
  if negative then ['-'] else if l.plus then ['+'] else if l.gap then [' '] else []

/-- The digits of a whole number, as many as the precision asks for. -/
def Layout.digits (l : Layout) (base n : Nat) : List Char :=
  let ds := if n = 0 ∧ l.precision = some 0 then [] else Nat.toDigits base n
  List.replicate (l.precision.getD 1 - ds.length) '0' ++ ds

def Layout.signed (l : Layout) (n : Int) : List Char :=
  l.fill (l.zeros && l.precision.isNone) (l.sign (n < 0)) (l.digits 10 n.natAbs)

def Layout.unsigned (l : Layout) (letter : Char) (n : Nat) : List Char :=
  let base := if letter = 'o' then 8 else if letter = 'u' then 10 else 16
  let ds := l.digits base n
  let ds := if letter = 'X' then ds.map Char.toUpper else ds
  let ds := if letter = 'o' ∧ l.other ∧ ds.head? ≠ some '0' then '0' :: ds else ds
  let mark := if l.other ∧ n ≠ 0 ∧ base = 16 then ['0', letter] else []
  l.fill (l.zeros && l.precision.isNone) mark ds

def Layout.measure (l : Layout) (letter : Char) (m : Text.Measure) : List Char :=
  let cased (cs : List Char) := if letter.isUpper then cs.map Char.toUpper else cs
  match m with
  | .infinite negative => l.fill false (l.sign negative) (cased "inf".toList)
  | .noNumber negative => l.fill false (l.sign negative) (cased "nan".toList)
  | .finite negative size =>
    let places := l.precision.getD 6
    let body := match letter.toLower with
      | 'f' => size.fixed places l.other
      | 'e' => size.exponential places l.other
      | _ => size.general places l.other
    l.fill l.zeros (l.sign negative) (cased body)

/-! ## Formats -/

/-- Why a format is not gone through to its end. -/
inductive FormatEnd where
  | stop
  | failed (message : String)

/-- A format that is being gone through. -/
structure Formatting where
  /-- What was printed, the last first. -/
  out : List (List Char) := []
  args : List String
  /-- What there is to say about arguments that are no numbers. -/
  notes : List String := []
  bad : Bool := false

abbrev FormatStep := ExceptT FormatEnd (StateM Formatting)

namespace FormatStep

def emit (cs : List Char) : FormatStep Unit := modify fun f => { f with out := cs :: f.out }

def note (message : String) (counts : Bool) : FormatStep Unit :=
  modify fun f => { f with notes := f.notes ++ [message], bad := f.bad || counts }

/-- The next argument, if there is one. -/
def argument? : FormatStep (Option String) :=
  modifyGet fun f => (f.args.head?, { f with args := f.args.drop 1 })

/-- Says that an argument is no number, or only begins with one. -/
def noteRest (w : Writer) (arg : String) (isFront : Bool) : FormatStep Unit :=
  let (plain, quoted) :=
    if isFront then (": not completely converted", ": value not completely converted")
    else (": expected numeric value", ": expected a numeric value")
  note (if w.isTool then inQuotes arg ++ quoted else arg ++ plain) true

def noteRange (w : Writer) (arg : String) : FormatStep Unit :=
  note ((if w.isTool then inQuotes arg else arg) ++ ": Numerical result out of range") true

/-- The code of the character behind a quote. -/
def quotedCode? (w : Writer) (arg : String) : FormatStep (Option Nat) := do
  match arg.toList with
  | q :: rest =>
    if q ≠ '"' ∧ q ≠ '\'' then return none
    match rest with
    | [] => if w.isTool then return none else return some 0
    | c :: more =>
      if w.isTool ∧ !more.isEmpty then
        note ("warning: " ++ String.ofList more ++
          ": character(s) following character constant have been ignored") false
      return some c.toNat
  | [] => return none

/-- The whole number that the next argument spells. -/
def integer (w : Writer) (low high : Int) : FormatStep Int := do
  match ← argument? with
  | none => return 0
  | some arg =>
    match ← quotedCode? w arg with
    | some n => return n
    | none =>
      match Text.frontInteger? arg.toList with
      | none =>
        if !arg.isEmpty then noteRest w arg false
        return 0
      | some (n, rest) =>
        if !rest.isEmpty then noteRest w arg true
        else if n < low ∨ high < n then noteRange w arg
        return max low (min n high)

/-- The number without a sign that the next argument spells; a negative one counts from the end. -/
def natural (w : Writer) : FormatStep Nat := do
  let size : Int := UInt64.size
  let n ← integer w (1 - size) (size - 1)
  return (n % size).toNat

/-- The measure that the next argument spells. -/
def measure (w : Writer) : FormatStep Text.Measure := do
  let (digits, finest, highest) : Nat × Int × Nat :=
    if w.isTool then (64, -16445, 16384) else (53, -1074, 1024)
  match ← argument? with
  | none => return .finite false ⟨0, 1⟩
  | some arg =>
    match ← quotedCode? w arg with
    | some n => return .finite false ⟨n, 1⟩
    | none =>
      match Text.frontMeasure? arg.toList with
      | none =>
        if !arg.isEmpty then noteRest w arg false
        return .finite false ⟨0, 1⟩
      | some (m, rest) =>
        if !rest.isEmpty then noteRest w arg true
        match m with
        | .finite negative size =>
          let size := size.toBinary digits finest
          if size.upper ≥ size.lower * Nat.pow 2 highest then
            noteRange w arg
            return .infinite negative
          else return .finite negative size
        | _ => return m

/-- A width or a precision: digits, or a star for the next argument. -/
def count (w : Writer) (cs : List Char) : FormatStep (Int × List Char) := do
  match cs with
  | '*' :: rest => return (← integer w (-2147483648) 2147483647, rest)
  | _ => return (Text.digitsValue (cs.takeWhile Char.isDigit), cs.dropWhile Char.isDigit)

/-- The layout in front of a conversion, and what follows it. -/
def layout (w : Writer) (cs : List Char) : FormatStep (Layout × List Char) := do
  let flags := cs.takeWhile fun c => "#-+ 0".toList.contains c
  let (width, rest) ← count w (cs.drop flags.length)
  let (precision, rest) : Option Int × List Char ← match rest with
    | '.' :: more => do
      let (n, rest) ← count w more
      pure (some n, rest)
    | _ => pure (none, rest)
  let rest := if w.isTool then rest.dropWhile fun c => "hjlLtz".toList.contains c else rest
  return ({
    atLeft := flags.contains '-' || width < 0
    plus := flags.contains '+'
    gap := flags.contains ' '
    zeros := flags.contains '0'
    other := flags.contains '#'
    width := width.natAbs
    precision := (precision.filter (0 ≤ ·)).map Int.toNat }, rest)

/-- Prints one argument under a conversion; false if there is no such conversion. -/
def convert (w : Writer) (l : Layout) (letter : Char) : FormatStep Bool := do
  match letter with
  | 's' => emit (l.text ((← argument?).getD "").toList)
  | 'b' =>
    let inner := if w.isTool then Writer.toolText else .scriptText
    let (cs, stop) := unescaped inner ((← argument?).getD "")
    emit (l.text cs)
    if stop then throw .stop
  | 'q' =>
    if !w.isTool then return false
    emit (l.text (shellQuoted ((← argument?).getD "")).toList)
  | 'c' => emit (l.fill false [] [((← argument?).bind (·.toList.head?)).getD '\x00'])
  | 'd' | 'i' => emit (l.signed (← integer w Int64.minValue.toInt Int64.maxValue.toInt))
  | 'o' | 'u' | 'x' | 'X' => emit (l.unsigned letter (← natural w))
  | 'e' | 'E' | 'f' | 'F' | 'g' | 'G' => emit (l.measure letter (← measure w))
  | _ => return false
  return true

/-- Goes through a format once. -/
def once (w : Writer) : Nat → List Char → FormatStep Unit
  | 0, _ | _, [] => pure ()
  | fuel + 1, '%' :: '%' :: rest => do
    emit ['%']
    once w fuel rest
  | fuel + 1, '%' :: rest => do
    let (l, left) ← layout w rest
    match left with
    | [] =>
      if w.isTool then throw (.failed ("%" ++ String.ofList rest ++
        ": invalid conversion specification"))
      else throw (.failed "missing format character")
    | letter :: left =>
      if ← convert w l letter then once w fuel left
      else
        let own := String.ofList ('%' :: rest.take (rest.length - left.length))
        throw (.failed (own ++
          if w.isTool then ": invalid conversion specification" else ": invalid directive"))
  | fuel + 1, '\\' :: rest => do
    match escape w rest with
    | (.byte c, left) =>
      emit [c]
      once w fuel left
    | (.spelled cs, left) =>
      emit cs
      once w fuel left
    | (.stop, _) => throw .stop
    | (.broken message, _) => throw (.failed message)
  | fuel + 1, c :: rest => do
    emit [c]
    once w fuel rest

/-- Goes through a format until no argument is left. -/
def again (w : Writer) (text : List Char) : Nat → FormatStep Unit
  | 0 => pure ()
  | fuel + 1 => do
    let before := (← get).args.length
    once w (text.length + 1) text
    let left := (← get).args
    if left.length = before then
      match left with
      | arg :: _ =>
        if w.isTool then
          note ("warning: ignoring excess arguments, starting with " ++ inQuotes arg) false
      | [] => pure ()
    else if !left.isEmpty then again w text fuel

end FormatStep

/-- What a format with its arguments prints, what there is to say about it, and whether something
was wrong. -/
structure Formatted where
  out : List Char
  notes : List String
  /-- The format itself makes no sense. -/
  failed : Bool
  bad : Bool

def format (w : Writer) (text : String) (args : List String) : Formatted :=
  let (ended, f) := (FormatStep.again w text.toList (args.length + 1)).run.run { args := args }
  let out := f.out.reverse.flatten
  match ended with
  | .error (.failed message) => ⟨out, f.notes ++ [message], true, true⟩
  | _ => ⟨out, f.notes, false, f.bad⟩

end TaskPipeline.Host
