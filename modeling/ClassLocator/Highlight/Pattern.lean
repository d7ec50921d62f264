import ClassLocator.Text.Basic

/-!
# Patterns

Patterns of characters, matched by trying one alternative after the other and going back where the
rest does not match. The first match in this order counts, not the longest.

## Main definitions

* `Mark`: a place in a text.
* `Pattern`, `Pattern.run`: the places at which a match may end, in order, until one of them is
  taken.
-/

namespace ClassLocator

/-- A place in a text: the character before it, what follows, and how many characters came
before. -/
structure Mark where
  before : Option Char
  rest : Text
  offset : Nat
deriving DecidableEq, Repr

namespace Mark

def atStart (text : Text) : Mark := ⟨none, text, 0⟩

/-- The place after the next character. -/
def next? (mark : Mark) : Option (Char × Mark) :=
  match mark.rest with
  | [] => none
  | c :: rest => some (c, ⟨some c, rest, mark.offset + 1⟩)

/-- The text from one place up to a later one. -/
def upTo (mark later : Mark) : Text := mark.rest.take (later.offset - mark.offset)

/-- Whether a word begins or ends here. -/
def isWordEdge (mark : Mark) : Bool :=
  mark.before.any Text.isWord != mark.rest.head?.any Text.isWord

def isLineStart (mark : Mark) : Bool := mark.before.all (· = '\n')

end Mark

inductive Pattern where
  | one (p : Char → Bool)
  | word (word : Text)
  | seq (first second : Pattern)
  | alt (first second : Pattern)
  /-- Any number of times, as often as possible. -/
  | many (body : Pattern)
  /-- Any number of times, as seldom as possible. -/
  | few (body : Pattern)
  | wordEdge
  | lineStart

namespace Pattern

variable {α : Type}

def runWord (take : Mark → Option α) : Text → Mark → Option α
  | [], mark => take mark
  | c :: cs, mark =>
    match mark.next? with
    | some (d, mark) => if c = d then runWord take cs mark else none
    | none => none

/-- Repeats `body` first and takes the place as it is second. -/
def runMany (body : (Mark → Option α) → Mark → Option α) (take : Mark → Option α) :
    Nat → Mark → Option α
  | 0, mark => take mark
  | limit + 1, mark => (body (runMany body take limit) mark).or (take mark)

/-- Takes the place as it is first and repeats `body` second. -/
def runFew (body : (Mark → Option α) → Mark → Option α) (take : Mark → Option α) :
    Nat → Mark → Option α
  | 0, mark => take mark
  | limit + 1, mark =>
    match take mark with
    | some found => some found
    | none => body (runFew body take limit) mark

/-- Offers to `take` the places at which a match that begins at the mark may end, and answers as
`take` does the first time that it accepts one. The limit bounds how often a body is repeated; the
length of the text is enough, since the bodies in use take a character each time. -/
def run (limit : Nat) : Pattern → (Mark → Option α) → Mark → Option α
  | one p, take, mark =>
    match mark.next? with
    | some (c, mark) => if p c then take mark else none
    | none => none
  | word w, take, mark => runWord take w mark
  | seq first second, take, mark => first.run limit (second.run limit take) mark
  | alt first second, take, mark =>
    match first.run limit take mark with
    | some found => some found
    | none => second.run limit take mark
  | many body, take, mark => runMany (body.run limit) take limit mark
  | few body, take, mark => runFew (body.run limit) take limit mark
  | wordEdge, take, mark => if mark.isWordEdge then take mark else none
  | lineStart, take, mark => if mark.isLineStart then take mark else none

/-! ## Derived patterns -/

/-- The patterns one after the other. -/
def all : List Pattern → Pattern
  | [] => word []
  | [p] => p
  | p :: ps => seq p (all ps)

/-- The first of the patterns that leads to a match. -/
def any : List Pattern → Pattern
  | [] => one fun _ => false
  | [p] => p
  | p :: ps => alt p (any ps)

def words (ws : List String) : Pattern := any (ws.map fun (w : String) => word w)

/-- One of the characters. -/
def oneOf (cs : String) : Pattern := one fun c => c ∈ cs.toList

def optional (p : Pattern) : Pattern := alt p (word [])

def oneOrMore (p : Pattern) : Pattern := seq p (many p)

def someFew (p : Pattern) : Pattern := seq p (few p)

def blank : Pattern := one Text.isBlank

end Pattern

end ClassLocator
