import Mathlib.Data.List.DropRight
import TypeDBDriver.Library.Json

/-! The grammar of JSON texts as a parser over characters. -/

namespace TypeDBDriver.Library

abbrev Text := List Char

abbrev Parser (α : Type) := Text → Option (α × Text)

namespace Json

variable {α β : Type}

def isBlank (char : Char) : Bool :=
  char == ' ' || char == '\t' || char == '\n' || char == '\r'

def skipBlanks (text : Text) : Text := text.dropWhile isBlank

def padded (parser : Parser α) : Parser α := fun text => do
  let (value, rest) ← parser (skipBlanks text)
  some (value, skipBlanks rest)

def separated (close : Char) (item : Parser α) : Nat → Parser (List α)
  | 0, _ => none
  | fuel + 1, text => do
      let (value, rest) ← item text
      match rest with
      | [] => none
      | next :: rest =>
        if next = ',' then do
          let (values, rest) ← separated close item fuel rest
          some (value :: values, rest)
        else if next = close then some ([value], rest)
        else none

def bracketed (close : Char) (item : Parser α) : Parser (List α) := fun text =>
  match skipBlanks text with
  | [] => none
  | next :: rest =>
    if next = close then some ([], rest)
    else separated close (padded item) text.length (next :: rest)

def hexDigit? (char : Char) : Option Nat :=
  if '0' ≤ char ∧ char ≤ '9' then some (char.toNat - '0'.toNat)
  else if 'a' ≤ char ∧ char ≤ 'f' then some (char.toNat - 'a'.toNat + 10)
  else if 'A' ≤ char ∧ char ≤ 'F' then some (char.toNat - 'A'.toNat + 10)
  else none

/-- Four hexadecimal digits: a UTF-16 code unit. -/
def codeUnit : Parser Nat
  | first :: second :: third :: fourth :: rest => do
      let first ← hexDigit? first
      let second ← hexDigit? second
      let third ← hexDigit? third
      let fourth ← hexDigit? fourth
      some (((first * 16 + second) * 16 + third) * 16 + fourth, rest)
  | _ => none

/-- What follows the `\u` of an escape. A surrogate names a character only as part of a pair. -/
def unicodeEscape : Parser Char := fun text => do
  let (unit, rest) ← codeUnit text
  if 0xD800 ≤ unit ∧ unit < 0xDC00 then
    match rest with
    | '\\' :: 'u' :: rest => do
        let (low, rest) ← codeUnit rest
        if 0xDC00 ≤ low ∧ low < 0xE000 then
          some (Char.ofNat (0x10000 + (unit - 0xD800) * 0x400 + (low - 0xDC00)), rest)
        else
          none
    | _ => none
  else if 0xDC00 ≤ unit ∧ unit < 0xE000 then none
  else some (Char.ofNat unit, rest)

def shortEscape : Char → Option Char
  | '"' => some '"'
  | '\\' => some '\\'
  | '/' => some '/'
  | 'b' => some '\x08'
  | 'f' => some '\x0c'
  | 'n' => some '\n'
  | 'r' => some '\r'
  | 't' => some '\t'
  | _ => none

def Plain (char : Char) : Prop :=
  char ≠ '"' ∧ char ≠ '\\' ∧ 0x20 ≤ char.toNat

instance : DecidablePred Plain := fun _ => inferInstanceAs (Decidable (_ ∧ _))

def char : Parser Char
  | [] => none
  | first :: rest =>
    if first = '\\' then
      match rest with
      | [] => none
      | 'u' :: rest => unicodeEscape rest
      | escaped :: rest => (shortEscape escaped).map (·, rest)
    else if Plain first then some (first, rest)
    else none

def chars : Nat → Parser Text
  | 0, _ => none
  | fuel + 1, text =>
    match text with
    | '"' :: rest => some ([], rest)
    | text => do
        let (first, rest) ← char text
        let (others, rest) ← chars fuel rest
        some (first :: others, rest)

def quoted : Parser String
  | '"' :: rest => do
      let (content, rest) ← chars rest.length rest
      some (String.ofList content, rest)
  | _ => none

/-- What stands for one character inside a literal. -/
inductive LiteralUnit : Text → Prop where
  | unescaped {plain : Char} (isPlain : Plain plain) : LiteralUnit [plain]
  | short {named : Char} (known : (shortEscape named).isSome) : LiteralUnit ['\\', named]
  | unicode {first second third fourth : Char} (isFirst : (hexDigit? first).isSome)
      (isSecond : (hexDigit? second).isSome) (isThird : (hexDigit? third).isSome)
      (isFourth : (hexDigit? fourth).isSome) :
      LiteralUnit ['\\', 'u', first, second, third, fourth]

/-- The texts that the rule for strings of the grammar produces. -/
def StringLiteral (text : Text) : Prop :=
  ∃ units : List Text, (∀ unit ∈ units, LiteralUnit unit) ∧ text = '"' :: units.flatten ++ ['"']

/-- The number `± digits * 10 ^ exponent`. -/
structure Numeral where
  negative : Bool
  digits : Nat
  exp : Int
  deriving DecidableEq, Repr

def digits : Parser Text := fun text =>
  match text.takeWhile Char.isDigit with
  | [] => none
  | first :: others => some (first :: others, text.dropWhile Char.isDigit)

def integerPart : Parser Text
  | '0' :: rest => some (['0'], rest)
  | text => digits text

def fractionPart : Parser Text
  | '.' :: rest => digits rest
  | text => some ([], text)

def signedDigits : Parser Int
  | '-' :: rest => do
      let (read, rest) ← digits rest
      some (-(Nat.ofDigitChars 10 read 0 : Int), rest)
  | '+' :: rest => do
      let (read, rest) ← digits rest
      some ((Nat.ofDigitChars 10 read 0 : Int), rest)
  | text => do
      let (read, rest) ← digits text
      some ((Nat.ofDigitChars 10 read 0 : Int), rest)

def exponentPart : Parser Int
  | 'e' :: rest => signedDigits rest
  | 'E' :: rest => signedDigits rest
  | text => some (0, text)

def magnitude (negative : Bool) : Parser Numeral := fun text => do
  let (integer, text) ← integerPart text
  let (fraction, text) ← fractionPart text
  let (exp, text) ← exponentPart text
  let digits := Nat.ofDigitChars 10 (integer ++ fraction) 0
  some ({ negative, digits, exp := exp - fraction.length }, text)

def numeral : Parser Numeral
  | '-' :: rest => magnitude true rest
  | text => magnitude false text

def member (value : Parser α) : Parser (String × α) := fun text => do
  let (key, rest) ← quoted text
  match skipBlanks rest with
  | ':' :: rest => do
      let (content, rest) ← value (skipBlanks rest)
      some ((key, content), rest)
  | _ => none

def valueOf (number : Parser α) : Nat → Parser (Json α)
  | 0, _ => none
  | fuel + 1, text =>
    match text with
    | '{' :: rest => do
        let (members, rest) ← bracketed '}' (member (valueOf number fuel)) rest
        some (.object members, rest)
    | '[' :: rest => do
        let (elems, rest) ← bracketed ']' (valueOf number fuel) rest
        some (.array elems, rest)
    | '"' :: rest => do
        let (content, rest) ← quoted ('"' :: rest)
        some (.string content, rest)
    | 't' :: 'r' :: 'u' :: 'e' :: rest => some (.boolean true, rest)
    | 'f' :: 'a' :: 'l' :: 's' :: 'e' :: rest => some (.boolean false, rest)
    | 'n' :: 'u' :: 'l' :: 'l' :: rest => some (.null, rest)
    | text => do
        let (read, rest) ← number text
        some (.number read, rest)

def parseOf (number : Parser α) (text : Text) : Option (Json α) :=
  match padded (valueOf number text.length) text with
  | some (json, []) => some json
  | _ => none

abbrev value : Nat → Parser (Json Numeral) := valueOf numeral

abbrev parse : Text → Option (Json Numeral) := parseOf numeral

end Json

end TypeDBDriver.Library
