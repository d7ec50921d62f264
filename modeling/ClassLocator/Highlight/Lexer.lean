import ClassLocator.Highlight.Highlighter
import ClassLocator.Highlight.Pattern

/-!
# Lexers

A lexer cuts a text into tokens. It has a stack of states; the rules of the topmost state are tried
in order, and the first one that matches makes the next tokens. Where no rule matches, one
character becomes a token of its own.

The parts of a rule match one after the other, and each part makes the tokens of its own stretch,
so that the tokens of a text, put together, are the text.

## Main definitions

* `TokenKind`
* `LexRule`, `Lexer`
* `Lexer.tokens`: the tokens of a text.
-/

namespace ClassLocator

inductive TokenKind where
  | plain
  | whitespace
  | comment
  | keyword
  | typeKeyword
  | functionName
  | packageName
  | className
  | decorator
  | attribute
  | string
  | number
  | error
deriving DecidableEq, Repr

/-- What becomes of the stretch that a part of a rule matches. -/
inductive Paint where
  | token (kind : TokenKind)
  /-- The stretch is cut into tokens as a text of its own. -/
  | again

structure RulePart where
  pattern : Pattern
  paint : Paint

/-- What a rule does with the stack of states. -/
inductive Move (State : Type) where
  | stay
  | enter (state : State)
  | leave

structure LexRule (State : Type) where
  parts : List RulePart
  move : Move State := .stay

/-- The state that a text begins in, and the rules of each state. -/
structure Lexer where
  State : Type
  initial : State
  rules : State → List (LexRule State)

namespace LexRule

/-- The stretches of the parts in the first match of all of them, and the place after it. -/
def matchParts (limit : Nat) : List RulePart → Mark → Option (List (Paint × Text) × Mark)
  | [], mark => some ([], mark)
  | part :: parts, mark =>
    part.pattern.run limit (fun later =>
      (matchParts limit parts later).map fun (stretches, final) =>
        ((part.paint, mark.upTo later) :: stretches, final)) mark

end LexRule

namespace Lexer

variable (lexer : Lexer)

/-- The first state is never left. -/
def moved (stack : List lexer.State) : Move lexer.State → List lexer.State
  | .stay => stack
  | .enter state => state :: stack
  | .leave => if stack.length > 1 then stack.tail else stack

/-- The first rule that matches, with its stretches and the place after them. -/
def firstMatch (limit : Nat) (mark : Mark) :
    List (LexRule lexer.State) → Option (Move lexer.State × List (Paint × Text) × Mark)
  | [] => none
  | rule :: rules =>
    match LexRule.matchParts limit rule.parts mark with
    | some (stretches, final) => some (rule.move, stretches, final)
    | none => firstMatch limit mark rules

/-- The tokens from a place on. The fuel bounds the number of rules and characters; when it is used
up, what is left is one token. -/
def tokensFrom (limit : Nat) : Nat → List lexer.State → Mark → List (Token TokenKind)
  | 0, _, mark => if mark.rest = [] then [] else [⟨.error, mark.rest⟩]
  | fuel + 1, stack, mark =>
    match mark.next? with
    | none => []
    | some (c, next) =>
      match lexer.firstMatch limit mark (lexer.rules (stack.headD lexer.initial)) with
      | some (move, stretches, final) =>
        stretches.flatMap (fun (paint, text) =>
          if text = [] then []
          else
            match paint with
            | .token kind => [⟨kind, text⟩]
            | .again => tokensFrom limit fuel [lexer.initial] (.atStart text)) ++
          tokensFrom limit fuel (lexer.moved stack move) final
      | none =>
        if c = '\n' then
          ⟨.whitespace, [c]⟩ :: tokensFrom limit fuel [lexer.initial] next
        else ⟨.error, [c]⟩ :: tokensFrom limit fuel stack next

/-- Every rule in use takes a character, and what is cut up again is shorter than what its rule
matched; so the length of the text is fuel enough. -/
def tokens (text : Text) : List (Token TokenKind) :=
  lexer.tokensFrom text.length (text.length + 1) [lexer.initial] (.atStart text)

end Lexer

end ClassLocator
