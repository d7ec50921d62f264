import ClassLocator.Text.Basic

/-!
# JSON documents

The reader of the settings document. It keeps to the grammar of JSON and knows three more
numbers, `NaN`, `Infinity` and `-Infinity`. Numbers stay as they are written, since no setting is
one; a whole number of more than 4300 digits is refused.

## Main definitions

* `Json`: the value of a document.
* `Json.member?`: a member of an object, the last one of that name.
* `Json.parse?`: the value that a text writes, if it writes one.
-/

namespace ClassLocator

inductive Json where
  | null
  | bool (value : Bool)
  | number (literal : Text)
  | text (value : Text)
  | array (items : List Json)
  | object (members : List (Text × Json))
deriving Repr

namespace Json

/-- Of several members with one name the last one counts. -/
def member? (name : Text) : Json → Option Json
  | .object members => (members.reverse.find? (·.1 = name)).map (·.2)
  | _ => none

def isText : Json → Bool
  | .text _ => true
  | _ => false

def text? : Json → Option Text
  | .text value => some value
  | _ => none

/-! ## Tokens -/

def isSpace (c : Char) : Bool := c ∈ [' ', '\t', '\n', '\r']

def skipSpace (input : Text) : Text := input.dropWhile isSpace

/-- The rest of the input after a fixed word. -/
def word? (word : Text) (input : Text) : Option Text :=
  if word.isPrefixOf input then some (input.drop word.length) else none

def digitsOf (input : Text) : Text × Text :=
  (input.takeWhile Char.isDigit, input.dropWhile Char.isDigit)

/-- The most digits that a whole number may have. -/
def maxDigits : Nat := 4300

/-- A point and digits after it; nothing is taken unless both are there. -/
def fraction (input : Text) : Text × Text :=
  match input with
  | '.' :: rest =>
    match digitsOf rest with
    | ([], _) => ([], input)
    | (digits, rest) => ('.' :: digits, rest)
  | _ => ([], input)

/-- An exponent; nothing is taken unless it has digits. -/
def exponent (input : Text) : Text × Text :=
  match input with
  | e :: rest =>
    if e = 'e' ∨ e = 'E' then
      let (sign, rest) := match rest with
        | '+' :: rest => (['+'], rest)
        | '-' :: rest => (['-'], rest)
        | _ => ([], rest)
      match digitsOf rest with
      | ([], _) => ([], input)
      | (digits, rest) => (e :: sign ++ digits, rest)
    else ([], input)
  | [] => ([], input)

def number? (input : Text) : Option (Json × Text) :=
  let (sign, rest) := match input with
    | '-' :: rest => (['-'], rest)
    | _ => ([], input)
  let whole := match rest with
    | '0' :: rest => some (['0'], rest)
    | _ =>
      match digitsOf rest with
      | ([], _) => none
      | found => some found
  whole.bind fun (digits, rest) =>
    let (decimals, rest) := fraction rest
    let (power, rest) := exponent rest
    if decimals = [] ∧ power = [] ∧ digits.length > maxDigits then none
    else some (.number (sign ++ digits ++ decimals ++ power), rest)

def hexDigit? (c : Char) : Option Nat :=
  if c.isDigit then some (c.toNat - '0'.toNat)
  else if 'a' ≤ c ∧ c ≤ 'f' then some (c.toNat - 'a'.toNat + 10)
  else if 'A' ≤ c ∧ c ≤ 'F' then some (c.toNat - 'A'.toNat + 10)
  else none

def hexValue? (digits : Text) : Option Nat :=
  (digits.mapM hexDigit?).map fun values => values.foldl (fun n d => n * 16 + d) 0

def escape? (c : Char) : Option Char :=
  match c with
  | '"' => some '"'
  | '\\' => some '\\'
  | '/' => some '/'
  | 'b' => some '\x08'
  | 'f' => some '\x0c'
  | 'n' => some '\n'
  | 'r' => some '\r'
  | 't' => some '\t'
  | _ => none

/-- The code units of a string literal whose opening quote has been read, up to its closing one.
An escape may stand for one half of a surrogate pair. -/
def stringUnits : Text → Option (List Nat × Text)
  | [] => none
  | '"' :: rest => some ([], rest)
  | '\\' :: 'u' :: a :: b :: c :: d :: rest =>
    (hexValue? [a, b, c, d]).bind fun unit =>
      (stringUnits rest).map fun (units, rest) => (unit :: units, rest)
  | '\\' :: c :: rest =>
    (escape? c).bind fun c =>
      (stringUnits rest).map fun (units, rest) => (c.toNat :: units, rest)
  | c :: rest =>
    if c = '\\' ∨ c < ' ' then none
    else (stringUnits rest).map fun (units, rest) => (c.toNat :: units, rest)

/-- The text of code units: a high half before a low one makes one character with it, and a half
that is left alone is replaced. -/
def ofUnits : List Nat → Text
  | high :: low :: rest =>
    if 0xD800 ≤ high ∧ high < 0xDC00 ∧ 0xDC00 ≤ low ∧ low < 0xE000 then
      Char.ofNat (0x10000 + (high - 0xD800) * 0x400 + (low - 0xDC00)) :: ofUnits rest
    else charOf high :: ofUnits (low :: rest)
  | [unit] => [charOf unit]
  | [] => []
where
  charOf (unit : Nat) : Char :=
    if 0xD800 ≤ unit ∧ unit < 0xE000 then '\uFFFD' else Char.ofNat unit

def string? (input : Text) : Option (Text × Text) :=
  (stringUnits input).map fun (units, rest) => (ofUnits units, rest)

/-! ## Values -/

/-- The words that are values, with the value that each of them writes. -/
def wordValues : List (Text × Json) :=
  [("null".toList, .null), ("true".toList, .bool true), ("false".toList, .bool false),
   ("NaN".toList, .number "NaN"), ("Infinity".toList, .number "Infinity"),
   ("-Infinity".toList, .number "-Infinity")]

def wordValue? (input : Text) : Option (Json × Text) :=
  wordValues.findSome? fun (word, value) => (word? word input).map (value, ·)

mutual

/-- One value at the head of the input. The first argument bounds the number of values, items
and members that are entered; each takes a character of its own. The second one is the number of
arrays and objects that may still lie inside one another. -/
def value? : Nat → Nat → Text → Option (Json × Text)
  | 0, _, _ => none
  | fuel + 1, levels, input =>
    match input, levels with
    | '"' :: rest, _ => (string? rest).map fun (value, rest) => (.text value, rest)
    | '{' :: rest, levels + 1 =>
      match skipSpace rest with
      | '}' :: rest => some (.object [], rest)
      | rest => (members? fuel levels rest).map fun (members, rest) => (.object members, rest)
    | '[' :: rest, levels + 1 =>
      match skipSpace rest with
      | ']' :: rest => some (.array [], rest)
      | rest => (items? fuel levels rest).map fun (items, rest) => (.array items, rest)
    | _, _ => (number? input).or (wordValue? input)

/-- The items of an array up to its closing bracket; there is at least one. -/
def items? : Nat → Nat → Text → Option (List Json × Text)
  | 0, _, _ => none
  | fuel + 1, levels, input =>
    (value? fuel levels input).bind fun (item, rest) =>
      match skipSpace rest with
      | ']' :: rest => some ([item], rest)
      | ',' :: rest =>
        (items? fuel levels (skipSpace rest)).map fun (items, rest) => (item :: items, rest)
      | _ => none

/-- The members of an object up to its closing brace; there is at least one. -/
def members? : Nat → Nat → Text → Option (List (Text × Json) × Text)
  | 0, _, _ => none
  | fuel + 1, levels, input =>
    match input with
    | '"' :: rest =>
      (string? rest).bind fun (name, rest) =>
        match skipSpace rest with
        | ':' :: rest =>
          (value? fuel levels (skipSpace rest)).bind fun (value, rest) =>
            match skipSpace rest with
            | '}' :: rest => some ([(name, value)], rest)
            | ',' :: rest =>
              (members? fuel levels (skipSpace rest)).map fun (members, rest) =>
                ((name, value) :: members, rest)
            | _ => none
        | _ => none
    | _ => none

end

/-- The value that a text writes, with white space around it. Arrays and objects may lie inside one
another as many times as there are levels. -/
def parse? (levels : Nat) (input : Text) : Option Json :=
  (value? (input.length + 1) levels (skipSpace input)).bind fun (value, rest) =>
    if skipSpace rest = [] then some value else none

end Json

end ClassLocator
