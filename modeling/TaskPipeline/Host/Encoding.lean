import TaskPipeline.Host.Tool
import TaskPipeline.Text.Numeral

/-!
Bytes in other spellings and side by side: `base64` writes bytes in sixty-four characters and reads
them back, `od` shows them in numbers, and `cmp` tells where two files differ.
-/

namespace TaskPipeline.Host

open Text

/-! ## Sixty-four characters -/

def base64Alphabet : List Char :=
  "ABCDEFGHIJKLMNOPQRSTUVWXYZabcdefghijklmnopqrstuvwxyz0123456789+/".toList

def base64Digit (n : Nat) : Char := (base64Alphabet[n % 64]?).getD 'A'

/-- Three bytes are four characters; equal signs fill up the last four. -/
def toBase64 : List UInt8 → List Char
  | a :: b :: c :: rest =>
    let n := a.toNat * 65536 + b.toNat * 256 + c.toNat
    base64Digit (n / 262144) :: base64Digit (n / 4096) :: base64Digit (n / 64) ::
      base64Digit n :: toBase64 rest
  | [a, b] =>
    let n := a.toNat * 65536 + b.toNat * 256
    [base64Digit (n / 262144), base64Digit (n / 4096), base64Digit (n / 64), '=']
  | [a] =>
    let n := a.toNat * 65536
    [base64Digit (n / 262144), base64Digit (n / 4096), '=', '=']
  | [] => []

/-- The bytes of some characters, and whether all of the characters make sense. -/
def ofBase64 : List Char → List UInt8 × Bool
  | [] => ([], true)
  | a :: b :: c :: d :: rest =>
    let value? (c : Char) : Option Nat := base64Alphabet.findIdx? (· == c)
    match value? a, value? b, value? c, value? d with
    | some p, some q, some r, some s =>
      let n := p * 262144 + q * 4096 + r * 64 + s
      let (more, good) := ofBase64 rest
      (.ofNat (n / 65536) :: .ofNat (n / 256 % 256) :: .ofNat (n % 256) :: more, good)
    | some p, some q, some r, none =>
      let n := p * 262144 + q * 4096 + r * 64
      let bytes := [.ofNat (n / 65536), .ofNat (n / 256 % 256)]
      if d = '=' then
        let (more, good) := ofBase64 rest
        (bytes ++ more, good)
      else (bytes, false)
    | some p, some q, none, _ =>
      let byte : UInt8 := .ofNat ((p * 262144 + q * 4096) / 65536)
      if c = '=' ∧ d = '=' then
        let (more, good) := ofBase64 rest
        (byte :: more, good)
      else ([byte], false)
    | _, _, _, _ => ([], false)
  | [a, b, c] =>
    let value? (c : Char) : Option Nat := base64Alphabet.findIdx? (· == c)
    match value? a, value? b, value? c with
    | some p, some q, some r =>
      let n := p * 262144 + q * 4096 + r * 64
      ([.ofNat (n / 65536), .ofNat (n / 256 % 256)], false)
    | some p, some q, none => ([.ofNat ((p * 262144 + q * 4096) / 65536)], false)
    | _, _, _ => ([], false)
  | [a, b] =>
    let value? (c : Char) : Option Nat := base64Alphabet.findIdx? (· == c)
    match value? a, value? b with
    | some p, some q => ([.ofNat ((p * 262144 + q * 4096) / 65536)], false)
    | _, _ => ([], false)
  | _ => ([], false)

/-- A text in lines of a width. -/
def inLines (width : Nat) : Nat → List Char → String
  | 0, _ | _, [] => ""
  | fuel + 1, cs =>
    if width = 0 then String.ofList cs
    else String.ofList (cs.take width) ++ "\n" ++ inLines width fuel (cs.drop width)

def base64 (w : Workpiece) : Toolwork :=
  w.withOptions 1 { letters := "di", withArgument := "w", long := [("--decode", 'd'),
      ("--wrap", 'w'), ("--ignore-garbage", 'i')] } fun o =>
    let width := (o.value? 'w').getD "76"
    match o.others, digits? width.toList with
    | _ :: extra :: _, _ => w.misuse 1 ("extra operand " ++ inQuotes extra)
    | _, none => .fail 1 (w.message ("invalid wrap size: " ++ inQuotes width))
    | names, some n =>
      let name := names.head?.getD "-"
      match w.read name with
      | .error text => .fail 1 (w.message (quotedName name ++ ": " ++ text))
      | .ok f =>
        let unread := if name = "-" then some {} else none
        if o.has 'd' then
          let cs := (textOf f.bytes).toList.filter (· != '\n')
          let isKnown (c : Char) : Bool := base64Alphabet.contains c || c == '='
          let (bytes, good) := ofBase64 (if o.has 'i' then cs.filter isKnown else cs)
          { status := if good then 0 else 1
            out := { bytes := bytes }
            err := if good then "" else w.message "invalid input"
            unread := unread }
        else
          let cs := toBase64 f.bytes
          { out := .ofText (inLines n (cs.length + 1) cs), unread := unread }

/-! ## Numbers -/

/-- How a byte is shown. -/
inductive ByteForm where
  | hexadecimal
  | octal
  | decimal (signed : Bool)
  | character

def ByteForm.width : ByteForm → Nat
  | hexadecimal => 2
  | octal | character => 3
  | decimal true => 4
  | decimal false => 3

/-- A number to a base with at least so many digits. -/
def digitsTo (base width n : Nat) : String :=
  let ds := Nat.toDigits base n
  String.ofList (List.replicate (width - ds.length) '0' ++ ds)

def ByteForm.text (form : ByteForm) (b : UInt8) : String :=
  match form with
  | hexadecimal => digitsTo 16 2 b.toNat
  | octal => digitsTo 8 3 b.toNat
  | decimal signed =>
    if signed ∧ b.toNat > 127 then toString ((↑b.toNat : Int) - 256) else toString b.toNat
  | character =>
    let c := Char.ofNat b.toNat
    if isPrintable c then String.singleton c
    else if b = 0 then "\\0"
    else
      match escapeLetter? c with
      | some e => "\\" ++ String.singleton e
      | none => digitsTo 8 3 b.toNat

def byteForm? (name : String) : Option ByteForm :=
  match name with
  | "x1" | "xC" => some .hexadecimal
  | "o1" | "oC" => some .octal
  | "u1" | "uC" => some (.decimal false)
  | "d1" | "dC" => some (.decimal true)
  | "c" => some .character
  | _ => none

/-- A row of bytes. Without a form, pairs of bytes are numbers in octal digits. -/
def byteRow (form : Option ByteForm) (bs : List UInt8) : String :=
  match form with
  | some form =>
    String.join (bs.map fun b =>
      let text := form.text b
      " " ++ String.ofList (List.replicate (form.width - text.length) ' ') ++ text)
  | none =>
    let rec pairs : List UInt8 → List Nat
      | a :: b :: rest => (a.toNat + 256 * b.toNat) :: pairs rest
      | [a] => [a.toNat]
      | [] => []
    String.join ((pairs bs).map fun n => " " ++ digitsTo 8 6 n)

/-- Rows of sixteen bytes with their places. -/
def byteRows (form : Option ByteForm) (places : Bool) : Nat → Nat → List UInt8 → String
  | 0, _, _ => ""
  | fuel + 1, place, bs =>
    let front := if places then digitsTo 8 7 place else ""
    if bs.isEmpty then if places then front ++ "\n" else ""
    else front ++ byteRow form (bs.take 16) ++ "\n" ++
      byteRows form places fuel (place + min 16 bs.length) (bs.drop 16)

def od (w : Workpiece) : Toolwork :=
  w.withOptions 1 { letters := "cvbx", withArgument := "AtjNw" } fun o =>
    let named := if o.has 'c' then some "c" else if o.has 'b' then some "o1" else o.value? 't'
    let places := o.value? 'A' != some "n"
    let (f, err) := w.gather o.others
    let bytes := match (o.value? 'N').bind fun s => digits? s.toList with
      | some n => f.take n
      | none => f.bytes
    let bytes := match (o.value? 'j').bind fun s => digits? s.toList with
      | some n => bytes.drop n
      | none => bytes
    { status := if err.isEmpty then 0 else 1
      out := .ofText (byteRows (named.bind byteForm?) places (bytes.length + 1) 0 bytes)
      err := err
      unread := if Workpiece.readsInput o.others then some {} else none }

/-! ## Differences -/

/-- Where two runs of bytes differ first: the place and the line, counted from one. -/
def difference? : Nat → Nat → List UInt8 → List UInt8 → Option (Nat × Nat)
  | place, line, a :: as, b :: bs =>
    if a = b then difference? (place + 1) (if a = 10 then line + 1 else line) as bs
    else some (place, line)
  | _, _, _, _ => none

def cmp (w : Workpiece) : Toolwork :=
  w.withOptions 2 { letters := "slb", withArgument := "n", long := [("--silent", 's'),
      ("--quiet", 's')] } fun o =>
    match o.others with
    | [] => w.misuse 2 ("missing operand after " ++ inQuotes w.name)
    | a :: rest =>
      let b := rest.head?.getD "-"
      match w.read a, w.read b with
      | .error text, _ => .fail 2 (if o.has 's' then "" else w.message (a ++ ": " ++ text))
      | _, .error text => .fail 2 (if o.has 's' then "" else w.message (b ++ ": " ++ text))
      | .ok f, .ok g =>
        let limit := (o.value? 'n').bind fun s => digits? s.toList
        let cut (f : Feed) : List UInt8 := match limit with
          | some n => f.take n
          | none => f.bytes
        let (xs, ys) := (cut f, cut g)
        match difference? 1 1 xs ys with
        | some (place, line) =>
          let text := a ++ " " ++ b ++ " differ: char " ++ toString place ++ ", line " ++
            toString line ++ "\n"
          { status := 1, out := .ofText (if o.has 's' then "" else text) }
        | none =>
          if xs.length = ys.length then {}
          else
            let (name, bytes) := if xs.length < ys.length then (a, xs) else (b, ys)
            let place := if bytes.isEmpty then "which is empty"
              else "after byte " ++ toString bytes.length ++ ", " ++
                (if bytes.getLast? = some 10 then "line " ++ toString (lineCount bytes)
                else "in line " ++ toString (lineCount bytes + 1))
            .fail 1 (if o.has 's' then "" else w.message ("EOF on " ++ name ++ " " ++ place))

end TaskPipeline.Host
