import TaskPipeline.Json.Parser
import TaskPipeline.Text.Numeral
import TaskPipeline.Text.Utf8

/-!
The texts inside addresses: percent escapes, query strings and numbers. An escape that is not
well formed stands for itself.
-/

namespace TaskPipeline.Http

open Text

/-- The bytes of a text after its percent escapes are replaced. -/
def unescapedBytes : List UInt8 → List UInt8
  | [] => []
  | 0x25 :: a :: b :: rest =>
    match Json.hexValue (Char.ofNat a.toNat), Json.hexValue (Char.ofNat b.toNat) with
    | some x, some y => UInt8.ofNat (x * 16 + y) :: unescapedBytes rest
    | _, _ => 0x25 :: unescapedBytes (a :: b :: rest)
  | c :: rest => c :: unescapedBytes rest

/-- A part of a path without its escapes; none if the bytes are no text. -/
def pathText? (part : List Char) : Option String :=
  let bytes := unescapedBytes (Utf8.encode part)
  let text := Utf8.decode bytes
  if Utf8.encode text = bytes then some (String.ofList text) else none

/-- A part of a query: a plus is a space, and bytes that are no text are replaced. -/
def formText (part : List Char) : String :=
  let spaced := part.map fun c => if c = '+' then ' ' else c
  String.ofList (Utf8.decode (unescapedBytes (Utf8.encode spaced)))

/-- Splits a text at each separator. -/
def splitAt (sep : Char) : List Char → List (List Char)
  | [] => [[]]
  | c :: rest =>
    if c = sep then [] :: splitAt sep rest
    else
      match splitAt sep rest with
      | part :: parts => (c :: part) :: parts
      | [] => [[c]]

/-- The keys and values of a query string, in order. -/
def queryPairs (query : List Char) : List (String × String) :=
  ((splitAt '&' query).filter (!·.isEmpty)).map fun part =>
    (formText (part.takeWhile (· != '=')), formText ((part.dropWhile (· != '=')).drop 1))

/-- The value of a key that may be there once; none if it is there more than once. -/
def single (pairs : List (String × String)) (key : String) : Option (Option String) :=
  match pairs.filter fun p => p.1 == key with
  | [] => some none
  | [(_, v)] => some (some v)
  | _ => none

/-- The number under a key that may be there once; none if the query is wrong about it. -/
def singleNatural (pairs : List (String × String)) (key : String) (bound : Nat) :
    Option (Option Nat) := do
  match ← single pairs key with
  | none => some none
  | some v => (natural? bound v).map some

end TaskPipeline.Http
