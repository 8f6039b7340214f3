import ShipyardCp.Lib.JsText

/-! JSON values and `JSON.parse` over lists of characters. -/

namespace ShipyardCp.Lib

/-- JSON values. A number is kept as its decimal literal, `mantissa * 10 ^ exponent`. Strings hold
characters; an escape that leaves a lone surrogate becomes the replacement character. -/
inductive Json where
  | null
  | bool (b : Bool)
  | num (mantissa exponent : Int)
  | str (s : String)
  | arr (items : List Json)
  | obj (members : List (String × Json))

namespace Json

open JsText

/-- The value of an own key; a repeated key keeps its last value. -/
def get? : Json → String → Option Json
  | .obj members, key => members.reverse.lookup key
  | _, _ => none

def asString? : Json → Option String
  | .str s => some s
  | _ => none

/-- JavaScript truthiness of a parsed value. -/
def truthy : Json → Bool
  | .null => false
  | .bool b => b
  | .num m _ => m ≠ 0
  | .str s => s ≠ ""
  | .arr _ => true
  | .obj _ => true

def skipSpace (text : List Char) : List Char :=
  text.dropWhile fun c => c = ' ' || c = '\t' || c = '\n' || c = '\r'

def hexDigit? (c : Char) : Option Nat :=
  if '0' ≤ c ∧ c ≤ '9' then some (c.toNat - 48)
  else if 'a' ≤ c ∧ c ≤ 'f' then some (c.toNat - 87)
  else if 'A' ≤ c ∧ c ≤ 'F' then some (c.toNat - 55)
  else none

def hex4? (a b c d : Char) : Option Nat := do
  let a ← hexDigit? a
  let b ← hexDigit? b
  let c ← hexDigit? c
  let d ← hexDigit? d
  pure (((a * 16 + b) * 16 + c) * 16 + d)

def escape? : Char → Option Nat
  | '"' => some 0x22
  | '\\' => some 0x5C
  | '/' => some 0x2F
  | 'b' => some 0x08
  | 'f' => some 0x0C
  | 'n' => some 0x0A
  | 'r' => some 0x0D
  | 't' => some 0x09
  | _ => none

/-- The code units of a string literal up to its closing quote, and the text after it. -/
def stringUnits : List Char → Option (List Nat × List Char)
  | [] => none
  | '"' :: text => some ([], text)
  | '\\' :: 'u' :: a :: b :: c :: d :: text => do
    let u ← hex4? a b c d
    let (us, rest) ← stringUnits text
    pure (u :: us, rest)
  | '\\' :: e :: text => do
    let u ← escape? e
    let (us, rest) ← stringUnits text
    pure (u :: us, rest)
  | c :: text =>
    if c.toNat < 0x20 then none
    else do
      let (us, rest) ← stringUnits text
      pure (codeUnits c ++ us, rest)

/-- Pairs surrogates up again. -/
def decodeUnits : List Nat → List Char
  | [] => []
  | [u] => [if 0xD800 ≤ u ∧ u ≤ 0xDFFF then Char.ofNat 0xFFFD else Char.ofNat u]
  | u :: v :: us =>
    if 0xD800 ≤ u ∧ u ≤ 0xDBFF ∧ 0xDC00 ≤ v ∧ v ≤ 0xDFFF then
      Char.ofNat (0x10000 + (u - 0xD800) * 0x400 + (v - 0xDC00)) :: decodeUnits us
    else
      (if 0xD800 ≤ u ∧ u ≤ 0xDFFF then Char.ofNat 0xFFFD else Char.ofNat u) :: decodeUnits (v :: us)

def string? (text : List Char) : Option (String × List Char) :=
  (stringUnits text).map fun (us, rest) => (String.ofList (decodeUnits us), rest)

def digitsValue (digits : List Char) : Nat := digits.foldl (fun n c => n * 10 + (c.toNat - 48)) 0

/-- The exponent part of a number, and the text after it. -/
def exponent? (text : List Char) : Option (Int × List Char) :=
  match text with
  | e :: text =>
    if e = 'e' ∨ e = 'E' then
      let negative := text.head? = some '-'
      let body := if text.head? = some '-' ∨ text.head? = some '+' then text.tail else text
      let digits := body.takeWhile Char.isDigit
      if digits = [] then none
      else
        let n := (digitsValue digits : Int)
        some (if negative then -n else n, body.dropWhile Char.isDigit)
    else some (0, e :: text)
  | [] => some (0, [])

def number? (text : List Char) : Option (Json × List Char) := do
  let negative := text.head? = some '-'
  let body := if negative then text.tail else text
  let int := body.takeWhile Char.isDigit
  let rest := body.dropWhile Char.isDigit
  if int = [] ∨ (1 < int.length ∧ int.head? = some '0') then none
  else
    let (frac, rest) ← match rest with
      | '.' :: rest =>
        let frac := rest.takeWhile Char.isDigit
        if frac = [] then none else some (frac, rest.dropWhile Char.isDigit)
      | rest => some ([], rest)
    let (exponent, rest) ← exponent? rest
    let magnitude := (digitsValue (int ++ frac) : Int)
    pure (.num (if negative then -magnitude else magnitude) (exponent - frac.length), rest)

mutual

/-- One JSON value at the head of a text. The fuel bounds the nesting. -/
def value? : Nat → List Char → Option (Json × List Char)
  | 0, _ => none
  | fuel + 1, '{' :: text =>
    match skipSpace text with
    | '}' :: rest => some (.obj [], rest)
    | rest => (members? fuel rest).map fun (ms, rest) => (.obj ms, rest)
  | fuel + 1, '[' :: text =>
    match skipSpace text with
    | ']' :: rest => some (.arr [], rest)
    | rest => (items? fuel rest).map fun (vs, rest) => (.arr vs, rest)
  | _ + 1, '"' :: text => (string? text).map fun (s, rest) => (.str s, rest)
  | _ + 1, 't' :: 'r' :: 'u' :: 'e' :: rest => some (.bool true, rest)
  | _ + 1, 'f' :: 'a' :: 'l' :: 's' :: 'e' :: rest => some (.bool false, rest)
  | _ + 1, 'n' :: 'u' :: 'l' :: 'l' :: rest => some (.null, rest)
  | _ + 1, text => number? text

def items? : Nat → List Char → Option (List Json × List Char)
  | 0, _ => none
  | fuel + 1, text => do
    let (v, rest) ← value? fuel (skipSpace text)
    match skipSpace rest with
    | ',' :: rest => (items? fuel rest).map fun (vs, rest) => (v :: vs, rest)
    | ']' :: rest => some ([v], rest)
    | _ => none

def members? : Nat → List Char → Option (List (String × Json) × List Char)
  | 0, _ => none
  | fuel + 1, text =>
    match skipSpace text with
    | '"' :: rest => do
      let (key, rest) ← string? rest
      match skipSpace rest with
      | ':' :: rest =>
        let (v, rest) ← value? fuel (skipSpace rest)
        match skipSpace rest with
        | ',' :: rest => (members? fuel rest).map fun (ms, rest) => ((key, v) :: ms, rest)
        | '}' :: rest => some ([(key, v)], rest)
        | _ => none
      | _ => none
    | _ => none

end

/-- `JSON.parse`; `none` is the syntax error it throws. Every value and every list element takes a
character of its own, so twice the length of the text is fuel enough. -/
def parse (text : List Char) : Option Json := do
  let (v, rest) ← value? (2 * text.length + 1) (skipSpace text)
  if skipSpace rest = [] then pure v else none

end Json

end ShipyardCp.Lib
