import SchemaGraph.Json.Value
import SchemaGraph.Number.Decimal

/-!
# Reading JSON

A reader takes the text from its first character on and gives back what it read together with the
rest of the text. A fault is reported with the part of the text that begins where it was found;
only `Json.readWithin` turns that into a position. The reader is lenient in three ways: it knows the
words `NaN`, `Infinity` and `-Infinity`, the last of several members of one name counts, and half of
a surrogate pair reads as the replacement character.

The reader stands on a stack that has room for so many levels. Every list and every object that is
open takes one of them, so a text that is nested deeper cannot be read; near the end of the stack
there is no room either for what the reader does besides: a word for a number takes one level, and
most faults take three to be put into words.
-/

namespace SchemaGraph

/-- What can be wrong with the text of a JSON value. -/
inductive JsonFault
  | byteOrderMark
  | expectedValue
  | expectedName
  | expectedColon
  | expectedComma
  | unterminatedText
  | controlCharacter
  | unknownEscape
  | badCodePoint
  | extraData
deriving DecidableEq, Repr

/-- The wording of a fault. -/
def JsonFault.message : JsonFault → String
  | .byteOrderMark => "Unexpected UTF-8 BOM (decode using utf-8-sig)"
  | .expectedValue => "Expecting value"
  | .expectedName => "Expecting property name enclosed in double quotes"
  | .expectedColon => "Expecting ':' delimiter"
  | .expectedComma => "Expecting ',' delimiter"
  | .unterminatedText => "Unterminated string starting at"
  | .controlCharacter => "Invalid control character at"
  | .unknownEscape => "Invalid \\escape"
  | .badCodePoint => "Invalid \\uXXXX escape"
  | .extraData => "Extra data"

namespace Json

/-- Why reading stopped: a fault and the text from there on, a whole number of more digits than the
limit allows, or a stack without room for another level. -/
inductive Stop
  | fault (kind : JsonFault) (rest : List Char)
  | longInteger (digits : Nat)
  | tooDeep

/-- What was read, and the rest of the text. -/
abbrev Reading (α : Type) := Except Stop (α × List Char)

/-- Whether a character may stand between the parts of a value. -/
def isGap (c : Char) : Bool :=
  c == ' ' || c == '\t' || c == '\n' || c == '\r'

/-- The text from its first character on that is no gap. -/
def skipGaps (text : List Char) : List Char :=
  text.dropWhile isGap

/-! ### Texts -/

/-- The value of a hexadecimal digit. -/
def hexDigit? (c : Char) : Option Nat :=
  if '0' ≤ c ∧ c ≤ '9' then some (c.toNat - '0'.toNat)
  else if 'a' ≤ c ∧ c ≤ 'f' then some (c.toNat - 'a'.toNat + 10)
  else if 'A' ≤ c ∧ c ≤ 'F' then some (c.toNat - 'A'.toNat + 10)
  else none

/-- The code unit written by four hexadecimal digits, if something follows them. -/
def codeUnit? : List Char → Option (Nat × List Char)
  | a :: b :: c :: d :: next :: rest => do
    let a ← hexDigit? a
    let b ← hexDigit? b
    let c ← hexDigit? c
    let d ← hexDigit? d
    return (((a * 16 + b) * 16 + c) * 16 + d, next :: rest)
  | _ => none

/-- Whether a code unit is the first half of a surrogate pair. -/
def isHighSurrogate (unit : Nat) : Bool :=
  0xD800 ≤ unit && unit < 0xDC00

/-- Whether a code unit is the second half of a surrogate pair. -/
def isLowSurrogate (unit : Nat) : Bool :=
  0xDC00 ≤ unit && unit < 0xE000

/-- The character of a single code unit. -/
def unitChar (unit : Nat) : Char :=
  if isHighSurrogate unit || isLowSurrogate unit then '\uFFFD' else Char.ofNat unit

/-- Reads the digits after `\u`, and the second half of a surrogate pair if it follows. -/
def readCodePoint (digits : List Char) : Reading Char :=
  match codeUnit? digits with
  | none => .error (.fault .badCodePoint ('u' :: digits))
  | some (unit, rest) =>
    match isHighSurrogate unit, rest with
    | true, '\\' :: 'u' :: more =>
      if more.length < 5 then .ok (unitChar unit, rest)
      else
        match codeUnit? more with
        | none => .error (.fault .badCodePoint ('u' :: more))
        | some (low, after) =>
          if isLowSurrogate low then
            .ok (Char.ofNat (0x10000 + (unit - 0xD800) * 0x400 + (low - 0xDC00)), after)
          else .ok (unitChar unit, rest)
    | _, _ => .ok (unitChar unit, rest)

/-- The character that a single letter after a backslash stands for. -/
def escaped? : Char → Option Char
  | '"' => some '"'
  | '\\' => some '\\'
  | '/' => some '/'
  | 'b' => some '\x08'
  | 'f' => some '\x0c'
  | 'n' => some '\n'
  | 'r' => some '\r'
  | 't' => some '\t'
  | _ => none

/-- Reads the next character inside a text, or its closing quote. The text began at `start`. -/
def readUnit (start : List Char) : List Char → Reading (Option Char)
  | [] => .error (.fault .unterminatedText start)
  | '"' :: rest => .ok (none, rest)
  | '\\' :: [] => .error (.fault .unterminatedText start)
  | '\\' :: 'u' :: rest => (readCodePoint rest).map fun r => (some r.1, r.2)
  | '\\' :: c :: rest =>
    match escaped? c with
    | some d => .ok (some d, rest)
    | none => .error (.fault .unknownEscape ('\\' :: c :: rest))
  | c :: rest =>
    if c.toNat < 0x20 then .error (.fault .controlCharacter (c :: rest)) else .ok (some c, rest)

/-- Reads a text up to its closing quote. The bound exceeds the number of its characters. -/
def readChars (start : List Char) : Nat → List Char → Reading (List Char)
  | 0, _ => .error (.fault .unterminatedText start)
  | bound + 1, text =>
    match readUnit start text with
    | .error stop => .error stop
    | .ok (none, rest) => .ok ([], rest)
    | .ok (some c, rest) => (readChars start bound rest).map fun r => (c :: r.1, r.2)

/-- Reads a text after its opening quote. -/
def readText (bound : Nat) (text : List Char) : Reading String :=
  (readChars ('"' :: text) bound text).map fun r => (String.ofList r.1, r.2)

/-! ### Numbers -/

/-- The number written by decimal digits. -/
def digitsValue (digits : List Char) : Nat :=
  digits.foldl (fun n c => n * 10 + (c.toNat - '0'.toNat)) 0

/-- The digits at the front of a text, and the rest. -/
def spanDigits (text : List Char) : List Char × List Char :=
  (text.takeWhile Char.isDigit, text.dropWhile Char.isDigit)

/-- The digits of a fraction, if a point and a digit come next. -/
def readFraction : List Char → List Char × List Char
  | '.' :: text =>
    match spanDigits text with
    | ([], _) => ([], '.' :: text)
    | span => span
  | text => ([], text)

/-- The exponent at the front of a text, if there is one with digits. -/
def readExponent : List Char → Option Int × List Char
  | mark :: text =>
    if mark = 'e' ∨ mark = 'E' then
      let (negative, body) : Bool × List Char :=
        match text with
        | '-' :: body => (true, body)
        | '+' :: body => (false, body)
        | body => (false, body)
      match spanDigits body with
      | ([], _) => (none, mark :: text)
      | (digits, rest) =>
        let power : Int := digitsValue digits
        (some (if negative then -power else power), rest)
    else (none, mark :: text)
  | [] => (none, [])

/-- The greatest number of digits of a whole number. -/
def integerLimit : Nat := 4300

/-- Reads a number after its sign; `whole` are its first digits. -/
def readNumberAfter (negative : Bool) (whole rest : List Char) : Reading Json :=
  let (fraction, rest) := readFraction rest
  let (exponent, rest) := readExponent rest
  if fraction.isEmpty && exponent.isNone then
    if integerLimit < whole.length then .error (.longInteger whole.length)
    else
      let value : Int := digitsValue whole
      .ok (.int (if negative then -value else value), rest)
  else
    let decimal : Decimal :=
      ⟨digitsValue (whole ++ fraction), exponent.getD 0 - (fraction.length : Int)⟩
    .ok (.float (.ofDecimal negative decimal), rest)

/-- Reads a number: a zero stands alone before the point, other whole parts take all digits. -/
def readNumber (text : List Char) : Reading Json :=
  let (negative, body) : Bool × List Char :=
    match text with
    | '-' :: body => (true, body)
    | body => (false, body)
  match body with
  | '0' :: rest => readNumberAfter negative ['0'] rest
  | _ =>
    match spanDigits body with
    | ([], _) => .error (.fault .expectedValue text)
    | (whole, rest) => readNumberAfter negative whole rest

/-! ### Levels -/

/-- The levels that a program leaves to the reader when it begins with the reading of a file. -/
def nestingLimit : Nat := 993

/-- The levels that it takes to put a fault into words. -/
def wordingLevels : Nat := 3

/-- What was read where so many levels are left. A fault must be put into words on the spot; only a
missing value is left to the end of the reading, when the stack is free again. -/
def report {α : Type} (levels : Nat) : Reading α → Reading α
  | .error (.fault kind rest) =>
    if kind = .expectedValue ∨ wordingLevels ≤ levels then .error (.fault kind rest)
    else .error .tooDeep
  | reading => reading

/-- A number that is written as a word, and the rest of the text. -/
def readNumberWord (levels : Nat) (value : Double) (rest : List Char) : Reading Json :=
  if levels = 0 then .error .tooDeep else .ok (.float value, rest)

/-! ### Values -/

/-- Reads a word or a number. -/
def readAtom (levels : Nat) (text : List Char) : Reading Json :=
  match text with
  | 'n' :: 'u' :: 'l' :: 'l' :: rest => .ok (.null, rest)
  | 't' :: 'r' :: 'u' :: 'e' :: rest => .ok (.bool true, rest)
  | 'f' :: 'a' :: 'l' :: 's' :: 'e' :: rest => .ok (.bool false, rest)
  | 'N' :: 'a' :: 'N' :: rest => readNumberWord levels .nan rest
  | 'I' :: 'n' :: 'f' :: 'i' :: 'n' :: 'i' :: 't' :: 'y' :: rest =>
    readNumberWord levels (.infinite false) rest
  | '-' :: 'I' :: 'n' :: 'f' :: 'i' :: 'n' :: 'i' :: 't' :: 'y' :: rest =>
    readNumberWord levels (.infinite true) rest
  | _ => readNumber text

mutual

/-- Reads a value from its first character on, where so many levels are left. The bound exceeds
twice the length of the text. -/
def readValue : (bound levels : Nat) → List Char → Reading Json
  | 0, _, text => .error (.fault .expectedValue text)
  | bound + 1, levels, text =>
    match text with
    | '"' :: rest => (report levels (readText bound rest)).map fun r => (.str r.1, r.2)
    | '{' :: rest =>
      match levels with
      | 0 => .error .tooDeep
      | levels + 1 =>
        match skipGaps rest with
        | '}' :: rest => .ok (.obj [], rest)
        | rest => (report levels (readMembers bound levels rest)).map
            fun r => (.obj (Members.ofMentions r.1), r.2)
    | '[' :: rest =>
      match levels with
      | 0 => .error .tooDeep
      | levels + 1 =>
        match skipGaps rest with
        | ']' :: rest => .ok (.arr [], rest)
        | rest => (report levels (readItems bound levels rest)).map fun r => (.arr r.1, r.2)
    | _ => readAtom levels text

/-- Reads the members of an object up to its closing brace. -/
def readMembers : (bound levels : Nat) → List Char → Reading (List (String × Json))
  | 0, _, text => .error (.fault .expectedName text)
  | bound + 1, levels, text =>
    match text with
    | '"' :: rest =>
      match readText bound rest with
      | .error stop => .error stop
      | .ok (name, rest) =>
        match skipGaps rest with
        | ':' :: rest =>
          match readValue bound levels (skipGaps rest) with
          | .error stop => .error stop
          | .ok (value, rest) =>
            match skipGaps rest with
            | '}' :: rest => .ok ([(name, value)], rest)
            | ',' :: rest =>
              (readMembers bound levels (skipGaps rest)).map fun r => ((name, value) :: r.1, r.2)
            | rest => .error (.fault .expectedComma rest)
        | rest => .error (.fault .expectedColon rest)
    | _ => .error (.fault .expectedName text)

/-- Reads the items of a list up to its closing bracket. -/
def readItems : (bound levels : Nat) → List Char → Reading (List Json)
  | 0, _, text => .error (.fault .expectedValue text)
  | bound + 1, levels, text =>
    match readValue bound levels text with
    | .error stop => .error stop
    | .ok (value, rest) =>
      match skipGaps rest with
      | ']' :: rest => .ok ([value], rest)
      | ',' :: rest => (readItems bound levels (skipGaps rest)).map fun r => (value :: r.1, r.2)
      | rest => .error (.fault .expectedComma rest)

end

/-! ### Whole texts -/

/-- A place in a text: how many characters stand before it, and its line and column from one on. -/
structure Position where
  offset : Nat
  line : Nat
  column : Nat
deriving DecidableEq, Repr

/-- The place after some first characters of a text. -/
def Position.after (passed : List Char) : Position where
  offset := passed.length
  line := passed.count '\n' + 1
  column := (passed.reverse.takeWhile (· != '\n')).length + 1

/-- Why a text cannot be read as a JSON value. -/
inductive ReadError
  | malformed (fault : JsonFault) (position : Position)
  | longInteger (digits : Nat)
  | tooDeep
deriving DecidableEq, Repr

/-- The stop with its place in the whole text. -/
def Stop.locate (text : List Char) : Stop → ReadError
  | .fault kind rest => .malformed kind (.after (text.take (text.length - rest.length)))
  | .longInteger digits => .longInteger digits
  | .tooDeep => .tooDeep

/-- Reads one value that takes up the whole text, gaps aside. -/
def readAll (levels : Nat) (text : List Char) : Except Stop Json :=
  match text with
  | '\uFEFF' :: _ => .error (.fault .byteOrderMark text)
  | _ =>
    match readValue (2 * text.length + 1) levels (skipGaps text) with
    | .error stop => .error stop
    | .ok (value, rest) =>
      match skipGaps rest with
      | [] => .ok value
      | rest => .error (.fault .extraData rest)

/-- The value that a text describes, if so many levels are enough to read it. -/
def readWithin (levels : Nat) (text : String) : Except ReadError Json :=
  (readAll levels text.toList).mapError (Stop.locate text.toList)

/-- The value that a text describes. -/
def read : (text : String) → Except ReadError Json :=
  readWithin nestingLimit

end Json

end SchemaGraph
