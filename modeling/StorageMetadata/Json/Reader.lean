import StorageMetadata.Json.Problem
import StorageMetadata.Value.Basic
import StorageMetadata.Number.Literal

/-!
# Reading a document

Each step takes what it reads off the front of the text and gives what is left.  Beyond the
standard grammar the words `NaN`, `Infinity` and `-Infinity` are numbers.  An integer is kept
exactly and may have as many digits as a number in a text; a number with a fraction or an exponent
is rounded once.  Of two entries with one key the later value counts, at the place of the earlier.

A step into a nested value spends one unit of fuel, and every step takes at least one character,
so as much fuel as the text has characters is enough.  Apart from that lists and maps may stand within
each other a limited number of times only, counted down in `levels`; how often, is left to whoever
reads.

An escape may stand for half of a pair of code units that make one character together.  Half of a pair
on its own is no character, and no text can hold it.  `read` stops there.  For the form of a document
it makes no difference, so `check` puts a replacement for it and goes on.
-/

namespace StorageMetadata.Json

open StorageMetadata StorageMetadata.Text

/-- A step reads something or tells why and where it stopped. -/
abbrev Step := Except Trouble

/-- The characters that may stand between the parts of a document. -/
def isSpace (c : Char) : Bool := c = ' ' || c = '\t' || c = '\n' || c = '\r'

/-- The text without the spaces at its front. -/
def skipSpace (cs : List Char) : List Char := cs.dropWhile isSpace

/-! ### Strings -/

/-- The value of a hexadecimal digit in either case. -/
def hexValue? (c : Char) : Option Nat :=
  if '0' ≤ c ∧ c ≤ '9' then some (c.toNat - 48)
  else if 'a' ≤ c ∧ c ≤ 'f' then some (c.toNat - 87)
  else if 'A' ≤ c ∧ c ≤ 'F' then some (c.toNat - 55)
  else none

/-- The number that four hexadecimal digits at the front stand for.  At least one more character
has to follow. -/
def code? : List Char → Option (Nat × List Char)
  | a :: b :: c :: d :: e :: rest => do
    let n := 4096 * (← hexValue? a) + 256 * (← hexValue? b) + 16 * (← hexValue? c) + (← hexValue? d)
    return (n, e :: rest)
  | _ => none

/-- Is the number the first half of a pair that stands for one character? -/
def isHighHalf (n : Nat) : Bool := 0xd800 ≤ n && n < 0xdc00

/-- Is the number the second half of such a pair? -/
def isLowHalf (n : Nat) : Bool := 0xdc00 ≤ n && n < 0xe000

/-- The character that a letter after a backslash stands for. -/
def escapedChar? : Char → Option Char
  | '"' => some '"'
  | '\\' => some '\\'
  | '/' => some '/'
  | 'b' => some '\x08'
  | 'f' => some '\x0c'
  | 'n' => some '\n'
  | 'r' => some '\r'
  | 't' => some '\t'
  | _ => none

section

-- What is put for half of a pair on its own.  If there is nothing, reading stops there.
variable (half : Option Char)

/-- The character with a code; `start` is the text from its escape on. -/
def charOfCode (start : List Char) (n : Nat) : Step Char :=
  if isHighHalf n || isLowHalf n then match half with
    | some c => .ok c
    | none => .error ⟨.loneHalf, start⟩
  else .ok (Char.ofNat n)

/-- The character that the digits after `\u` stand for, together with the escape that follows if
the two are the halves of a pair. -/
def codeChar (start : List Char) (cs : List Char) : Step (Char × List Char) :=
  match code? cs with
  | none => .error ⟨.codeEscape, start⟩
  | some (n, rest) =>
    let alone := (charOfCode half start n).map fun c => (c, rest)
    if isHighHalf n then
      match rest with
      | '\\' :: 'u' :: more =>
        if more.length < 5 then alone
        else match code? more with
          | none => .error ⟨.codeEscape, start⟩
          | some (m, rest') =>
            if isLowHalf m then
              .ok (Char.ofNat (0x10000 + (n - 0xd800) * 0x400 + (m - 0xdc00)), rest')
            else alone
      | _ => alone
    else alone

/-- The characters of a string up to its closing quote; `start` is the text from the opening quote
on. -/
def stringChars (start : List Char) : (fuel : Nat) → List Char → Step (List Char × List Char)
  | 0, _ => .error ⟨.unterminatedString, start⟩
  | _ + 1, [] => .error ⟨.unterminatedString, start⟩
  | fuel + 1, c :: rest =>
    if c = '"' then .ok ([], rest)
    else if c = '\\' then
      match rest with
      | [] => .error ⟨.unterminatedString, start⟩
      | 'u' :: more => do
        let (x, after) ← codeChar half (c :: rest) more
        let (xs, after) ← stringChars start fuel after
        return (x :: xs, after)
      | e :: more => match escapedChar? e with
        | none => .error ⟨.escape, c :: rest⟩
        | some x => do
          let (xs, after) ← stringChars start fuel more
          return (x :: xs, after)
    else if c.toNat ≤ 0x1f then .error ⟨.controlCharacter, c :: rest⟩
    else do
      let (xs, after) ← stringChars start fuel rest
      return (c :: xs, after)

/-- The string whose opening quote has been taken; `start` is the text from that quote on. -/
def string (start rest : List Char) : Step (String × List Char) := do
  let (cs, after) ← stringChars half start start.length rest
  return (String.ofList cs, after)

end

/-! ### Numbers -/

/-- The ASCII digits at the front of a text, and what follows them. -/
def takeDigits : List Char → List Nat × List Char
  | [] => ([], [])
  | c :: rest => match asciiDigit? c with
    | none => ([], c :: rest)
    | some d => let (ds, after) := takeDigits rest; (d :: ds, after)

/-- The digits before the point: a zero alone, or a run that does not begin with zero. -/
def takeWhole : List Char → List Nat × List Char
  | '0' :: rest => ([0], rest)
  | cs => takeDigits cs

/-- The digits of a fraction, if a point and at least one digit are at the front. -/
def takeFraction : List Char → List Nat × List Char
  | '.' :: rest => match takeDigits rest with
    | ([], _) => ([], '.' :: rest)
    | found => found
  | cs => ([], cs)

/-- The exponent, if one with at least one digit is at the front. -/
def takeExponent : List Char → Option Int × List Char
  | [] => (none, [])
  | e :: rest =>
    if e = 'e' ∨ e = 'E' then
      let (negative, body) := Decimal.takeSign rest
      match takeDigits body with
      | ([], _) => (none, e :: rest)
      | (ds, after) => (some (Binary64.signed negative (Decimal.digitsValue ds)), after)
    else (none, e :: rest)

/-- The number at the front of a text. -/
def number (cs : List Char) : Step (Value × List Char) :=
  let (negative, body) := match cs with
    | '-' :: rest => (true, rest)
    | _ => (false, cs)
  let (whole, rest) := takeWhole body
  if whole = [] then .error ⟨.value, cs⟩
  else
    let (fraction, rest) := takeFraction rest
    let (exponent, rest) := takeExponent rest
    if fraction = [] ∧ exponent = none then
      if Decimal.maxDigits < whole.length then .error ⟨.tooManyDigits, cs⟩
      else .ok (.int (Binary64.signed negative (Decimal.digitsValue whole)), rest)
    else
      let shift := exponent.getD 0 - (fraction.length : Int)
      .ok (.float (Binary64.ofScaled negative (whole ++ fraction) shift), rest)

/-! ### Values -/

/-- The words that stand for a value. -/
def words : List (String × Value) := [
  ("null", .null), ("true", .bool true), ("false", .bool false), ("NaN", .float (.nan 0)),
  ("Infinity", .float (.infinite false)), ("-Infinity", .float (.infinite true))
]

/-- The value of a word at the front of a text. -/
def word? (cs : List Char) : Option (Value × List Char) :=
  words.findSome? fun (word, v) => (word.toList.isPrefixOf? cs).map fun rest => (v, rest)

section

variable (half : Option Char)

mutual

/-- The value at the front of a text, with at most `levels` lists and maps within each other. -/
def value : (fuel levels : Nat) → List Char → Step (Value × List Char)
  | 0, _, cs => .error ⟨.value, cs⟩
  | fuel + 1, levels, cs => match cs with
    | '"' :: rest => do
      let (s, after) ← string half cs rest
      return (.text s, after)
    | '{' :: rest => match levels, skipSpace rest with
      | 0, _ => .error ⟨.tooDeep, cs⟩
      | _ + 1, '}' :: after => .ok (.map [], after)
      | inner + 1, inside => members fuel inner [] inside
    | '[' :: rest => match levels, skipSpace rest with
      | 0, _ => .error ⟨.tooDeep, cs⟩
      | _ + 1, ']' :: after => .ok (.list [], after)
      | inner + 1, inside => items fuel inner [] inside
    | _ => match word? cs with
      | some found => .ok found
      | none => number cs

/-- The entries of a map up to its closing bracket, put after those already read. -/
def members : (fuel levels : Nat) → List (String × Value) → List Char → Step (Value × List Char)
  | 0, _, _, cs => .error ⟨.propertyName, cs⟩
  | fuel + 1, levels, before, cs => match cs with
    | '"' :: rest => do
      let (key, after) ← string half cs rest
      match skipSpace after with
      | ':' :: after => do
        let (v, after) ← value fuel levels (skipSpace after)
        let entries := putEntry key v before
        match skipSpace after with
        | '}' :: after => .ok (.map entries, after)
        | ',' :: after => members fuel levels entries (skipSpace after)
        | after => .error ⟨.comma, after⟩
      | after => .error ⟨.colon, after⟩
    | _ => .error ⟨.propertyName, cs⟩

/-- The items of a list up to its closing bracket, put after those already read, last first. -/
def items : (fuel levels : Nat) → List Value → List Char → Step (Value × List Char)
  | 0, _, _, cs => .error ⟨.value, cs⟩
  | fuel + 1, levels, before, cs => do
    let (v, after) ← value fuel levels cs
    match skipSpace after with
    | ']' :: after => .ok (.list (v :: before).reverse, after)
    | ',' :: after => items fuel levels (v :: before) (skipSpace after)
    | after => .error ⟨.comma, after⟩

end

/-- The value that a whole text stands for. -/
def readWith (levels : Nat) (cs : List Char) : Step Value :=
  if cs.head? = some '\ufeff' then .error ⟨.byteOrderMark, cs⟩
  else do
    let (v, after) ← value half (cs.length + 1) levels (skipSpace cs)
    match skipSpace after with
    | [] => .ok v
    | rest => .error ⟨.extraData, rest⟩

end

/-- The document that a text holds. -/
def read (levels : Nat) (cs : List Char) : Step Value := readWith none levels cs

/-- The form of the document that a text holds, where it is of no matter what its texts are. -/
def check (levels : Nat) (cs : List Char) : Step Value := readWith (some '\ufffd') levels cs

end StorageMetadata.Json
