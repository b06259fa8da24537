import Mathlib.Tactic.SplitIfs

namespace Kesharon.Framework

/-- A JSON value. Numbers with a sign, a fraction or an exponent are kept as they are written. -/
inductive Json where
  | null
  | bool (b : Bool)
  | natural (n : Nat)
  | numeral (text : String)
  | string (s : String)
  | array (items : List Json)
  | object (fields : List (String × Json))

namespace Json

def quote : Char := '\x22'

def backslash : Char := '\x5c'

/-- The letter of a two-character escape sequence. -/
def escapeLetter (c : Char) : Option Char :=
  if c = quote then some quote
  else if c = backslash then some backslash
  else if c = '\x08' then some 'b'
  else if c = '\x09' then some 't'
  else if c = '\x0a' then some 'n'
  else if c = '\x0c' then some 'f'
  else if c = '\x0d' then some 'r'
  else none

def escape (c : Char) : List Char :=
  match escapeLetter c with
  | some letter => [backslash, letter]
  | none =>
    if c.toNat < 0x20 then
      [backslash, 'u', '0', '0', Nat.digitChar (c.toNat / 16), Nat.digitChar (c.toNat % 16)]
    else [c]

def quoted (s : String) : List Char := quote :: s.toList.flatMap escape ++ [quote]

mutual

/-- The text of a value without any blank. -/
def compact : Json → List Char
  | null => ['n', 'u', 'l', 'l']
  | bool true => ['t', 'r', 'u', 'e']
  | bool false => ['f', 'a', 'l', 's', 'e']
  | natural n => Nat.toDigits 10 n
  | numeral text => text.toList
  | string s => quoted s
  | array [] => ['[', ']']
  | array (x :: xs) => '[' :: compact x ++ compactItems xs
  | object [] => ['\x7b', '\x7d']
  | object ((k, x) :: xs) => '\x7b' :: quoted k ++ ':' :: compact x ++ compactFields xs

/-- The rest of an array, behind its first item. -/
def compactItems : List Json → List Char
  | [] => [']']
  | x :: xs => ',' :: compact x ++ compactItems xs

def compactFields : List (String × Json) → List Char
  | [] => ['\x7d']
  | (k, x) :: xs => ',' :: quoted k ++ ':' :: compact x ++ compactFields xs

end

def text (x : Json) : String := String.ofList (compact x)

def isBlank (c : Char) : Bool := c = ' ' ∨ c = '\x09' ∨ c = '\x0a' ∨ c = '\x0d'

def skip (cs : List Char) : List Char := cs.dropWhile isBlank

def hexValue (c : Char) : Option Nat :=
  if c.isDigit then some (c.toNat - 0x30)
  else if 'a' ≤ c ∧ c ≤ 'f' then some (c.toNat - 0x61 + 10)
  else if 'A' ≤ c ∧ c ≤ 'F' then some (c.toNat - 0x41 + 10)
  else none

/-- A UTF-16 code unit of four hexadecimal digits. -/
def codeUnit (a b c d : Char) : Option Nat := do
  let a ← hexValue a
  let b ← hexValue b
  let c ← hexValue c
  let d ← hexValue d
  return ((a * 16 + b) * 16 + c) * 16 + d

/-- The character behind a two-character escape sequence. -/
def unescapeLetter (c : Char) : Option Char :=
  if c = quote then some quote
  else if c = backslash then some backslash
  else if c = '/' then some '/'
  else if c = 'b' then some '\x08'
  else if c = 't' then some '\x09'
  else if c = 'n' then some '\x0a'
  else if c = 'f' then some '\x0c'
  else if c = 'r' then some '\x0d'
  else none

def prepend (c : Char) (r : List Char × List Char) : List Char × List Char := (c :: r.1, r.2)

/-- The characters of a string, up to its closing quote, and what follows it. -/
def readQuoted : List Char → Option (List Char × List Char)
  | [] => none
  | c :: cs =>
    if c = quote then some ([], cs)
    else if c.toNat < 0x20 then none
    else if c = backslash then
      match cs with
      | 'u' :: a :: b :: c :: d :: cs =>
        match codeUnit a b c d with
        | none => none
        | some high =>
          if 0xD800 ≤ high ∧ high < 0xDC00 then
            match cs with
            | '\x5c' :: 'u' :: a :: b :: c :: d :: cs =>
              match codeUnit a b c d with
              | none => none
              | some low =>
                if 0xDC00 ≤ low ∧ low < 0xE000 then
                  (readQuoted cs).map (prepend
                    (Char.ofNat (0x10000 + (high - 0xD800) * 0x400 + (low - 0xDC00))))
                else none
            | _ => none
          else if 0xDC00 ≤ high ∧ high < 0xE000 then none
          else (readQuoted cs).map (prepend (Char.ofNat high))
      | e :: cs =>
        match unescapeLetter e with
        | none => none
        | some c => (readQuoted cs).map (prepend c)
      | [] => none
    else (readQuoted cs).map (prepend c)

def readString (cs : List Char) : Option (String × List Char) :=
  match cs with
  | c :: cs => if c = quote then (readQuoted cs).map fun r => (String.ofList r.1, r.2) else none
  | [] => none

/-- At least one digit, behind what announces it. -/
def readDigits (front : List Char) (cs : List Char) : Option (List Char × List Char) :=
  let digits := cs.takeWhile Char.isDigit
  if digits = [] then none else some (front ++ digits, cs.dropWhile Char.isDigit)

def readFraction : List Char → Option (List Char × List Char)
  | '.' :: cs => readDigits ['.'] cs
  | cs => some ([], cs)

def readExponent : List Char → Option (List Char × List Char)
  | e :: cs =>
    if e = 'e' ∨ e = 'E' then
      match cs with
      | '+' :: cs => readDigits [e, '+'] cs
      | '-' :: cs => readDigits [e, '-'] cs
      | cs => readDigits [e] cs
    else some ([], e :: cs)
  | [] => some ([], [])

/-- An integer part has no leading zero. -/
def readInteger (cs : List Char) : Option (List Char × List Char) :=
  match cs with
  | '0' :: cs => some (['0'], cs)
  | cs => readDigits [] cs

def readNumber (cs : List Char) : Option (Json × List Char) :=
  match cs with
  | '-' :: cs => do
    let (integer, cs) ← readInteger cs
    let (fraction, cs) ← readFraction cs
    let (exponent, cs) ← readExponent cs
    return (numeral (String.ofList ('-' :: integer ++ fraction ++ exponent)), cs)
  | cs => do
    let (integer, cs) ← readInteger cs
    let (fraction, cs) ← readFraction cs
    let (exponent, cs) ← readExponent cs
    if fraction ++ exponent = [] then return (natural (Nat.ofDigitChars 10 integer 0), cs)
    else return (numeral (String.ofList (integer ++ fraction ++ exponent)), cs)

def readWord (word : List Char) (value : Json) (cs : List Char) : Option (Json × List Char) :=
  if word.isPrefixOf cs then some (value, cs.drop word.length) else none

mutual

/-- A value, with at most `depth` arrays and objects around each other. -/
def readValue : Nat → Nat → List Char → Option (Json × List Char)
  | 0, _, _ => none
  | fuel + 1, depth, cs =>
    match skip cs with
    | [] => none
    | c :: cs =>
      if c = quote then (readQuoted cs).map fun r => (string (String.ofList r.1), r.2)
      else if c = '[' then
        match depth with
        | 0 => none
        | depth + 1 =>
          match skip cs with
          | ']' :: cs => some (array [], cs)
          | cs => (readItems fuel depth cs).map fun r => (array r.1, r.2)
      else if c = '\x7b' then
        match depth with
        | 0 => none
        | depth + 1 =>
          match skip cs with
          | '\x7d' :: cs => some (object [], cs)
          | cs => (readFields fuel depth cs).map fun r => (object r.1, r.2)
      else if c = 'n' then readWord ['u', 'l', 'l'] null cs
      else if c = 't' then readWord ['r', 'u', 'e'] (bool true) cs
      else if c = 'f' then readWord ['a', 'l', 's', 'e'] (bool false) cs
      else readNumber (c :: cs)

def readItems : Nat → Nat → List Char → Option (List Json × List Char)
  | 0, _, _ => none
  | fuel + 1, depth, cs =>
    match readValue fuel depth cs with
    | none => none
    | some (x, cs) =>
      match skip cs with
      | ']' :: cs => some ([x], cs)
      | ',' :: cs => (readItems fuel depth cs).map fun r => (x :: r.1, r.2)
      | _ => none

def readFields : Nat → Nat → List Char → Option (List (String × Json) × List Char)
  | 0, _, _ => none
  | fuel + 1, depth, cs =>
    match readString (skip cs) with
    | none => none
    | some (k, cs) =>
      match skip cs with
      | ':' :: cs =>
        match readValue fuel depth cs with
        | none => none
        | some (x, cs) =>
          match skip cs with
          | '\x7d' :: cs => some ([(k, x)], cs)
          | ',' :: cs => (readFields fuel depth cs).map fun r => ((k, x) :: r.1, r.2)
          | _ => none
      | _ => none

end

def maxDepth : Nat := 127

/-- The value of a text that is nothing else. -/
def parse (cs : List Char) : Option Json :=
  match readValue (cs.length + 1) maxDepth cs with
  | some (x, cs) => if skip cs = [] then some x else none
  | none => none

end Json

end Kesharon.Framework
