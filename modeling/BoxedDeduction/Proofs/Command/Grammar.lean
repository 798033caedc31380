import BoxedDeduction.Command.Token
import BoxedDeduction.Proposition.Basic

/-!
# The grammar of formulas

A text is cut into tokens from left to right. Blanks between tokens are skipped, and each token
is as long as the letters allow, whatever token stood before it. The grammar derives
propositions from tokens with one nonterminal for each strength of a connective: conjunction and
disjunction group to the left, implication to the right, and negation binds tightest. A text
spells a proposition when it is cut into tokens from which the grammar derives the proposition.
-/

namespace BoxedDeduction

/-! ## Tokens -/

/-- The characters that are written for a token by themselves. -/
def Token.signs : Token → List Char
  | .bottom => ['⊥']
  | .openParen => ['(']
  | .closeParen => [')']
  | .neg => ['-', '¬', '~']
  | .and => ['&', '∧', '^', '*']
  | .or => ['|', '∨', '+']
  | .imply => ['→', '⇒']
  | .name _ | .index _ => []

/-- How a token is written. -/
inductive Token.Written : Token → List Char → Prop where
  /-- A name is a letter or an underscore, and then letters, digits and underscores. -/
  | name {first : Char} {later : List Char} (hf : isNameStart first = true)
    (hl : ∀ c ∈ later, isNameLetter c = true) :
    Written (.name (String.ofList (first :: later))) (first :: later)
  /-- An index is a digit, and then digits. -/
  | index {first : Char} {later : List Char} (hf : first.isDigit = true)
    (hl : ∀ c ∈ later, c.isDigit = true) : Written (.index (first :: later)) (first :: later)
  /-- All other tokens are written with one of their signs. -/
  | sign {token : Token} {c : Char} (h : c ∈ token.signs) : Written token [c]
  /-- Implication is written as an arrow of two characters too. -/
  | arrow : Written .imply ['-', '>']

/-- Whether no token at the beginning of a text is longer than given letters. -/
def Longest (lexeme text : List Char) : Prop :=
  ∀ (token : Token) (longer : List Char), token.Written longer → longer <+: text →
    longer.length ≤ lexeme.length

/-- How a text is cut into tokens. -/
inductive Cut : List Char → List Token → Prop where
  /-- The empty text has no tokens. -/
  | done : Cut [] []
  /-- A blank between tokens is skipped. -/
  | gap {c : Char} {rest : List Char} {tokens : List Token} (hc : Blank.isTokenGap c = true)
    (h : Cut rest tokens) : Cut (c :: rest) tokens
  /-- The longest token is cut off. -/
  | token {token : Token} {lexeme rest : List Char} {tokens : List Token}
    (hw : token.Written lexeme) (hl : Longest lexeme (lexeme ++ rest)) (h : Cut rest tokens) :
    Cut (lexeme ++ rest) (token :: tokens)

/-! ## Derivations -/

/-- What the grammar derives, from the loosest formulas to the tightest. -/
inductive Nonterminal where
  /-- A formula. -/
  | prop
  /-- A formula without an implication outside of parentheses. -/
  | orProp
  /-- A formula without a disjunction or implication outside of parentheses. -/
  | andProp
  /-- A formula without a connective between two operands outside of parentheses. -/
  | negProp
  /-- A name, falsity or a formula in parentheses. -/
  | atom
  deriving DecidableEq

/-- The derivations of the grammar, with the propositions that they build. -/
inductive Derives : Nonterminal → List Token → Proposition → Prop where
  /-- A name other than the word for falsity is a symbol. -/
  | symbol {name : String} (h : name ≠ "bottom") : Derives .atom [.name name] (.symbol name)
  /-- The word for falsity. -/
  | word : Derives .atom [.name "bottom"] .bottom
  /-- The sign of falsity. -/
  | bottom : Derives .atom [.bottom] .bottom
  /-- A formula in parentheses. -/
  | group {tokens : List Token} {p : Proposition} (h : Derives .prop tokens p) :
    Derives .atom (.openParen :: tokens ++ [.closeParen]) p
  /-- An atom is an operand of negation. -/
  | ofAtom {tokens : List Token} {p : Proposition} (h : Derives .atom tokens p) :
    Derives .negProp tokens p
  /-- Negation stands in front of its operand. -/
  | negation {tokens : List Token} {p : Proposition} (h : Derives .negProp tokens p) :
    Derives .negProp (.neg :: tokens) p.negated
  /-- A negation is an operand of conjunction. -/
  | ofNeg {tokens : List Token} {p : Proposition} (h : Derives .negProp tokens p) :
    Derives .andProp tokens p
  /-- Conjunction groups to the left. -/
  | conjunction {left right : List Token} {p q : Proposition} (hl : Derives .andProp left p)
    (hr : Derives .negProp right q) : Derives .andProp (left ++ .and :: right) (.and p q)
  /-- A conjunction is an operand of disjunction. -/
  | ofAnd {tokens : List Token} {p : Proposition} (h : Derives .andProp tokens p) :
    Derives .orProp tokens p
  /-- Disjunction groups to the left. -/
  | disjunction {left right : List Token} {p q : Proposition} (hl : Derives .orProp left p)
    (hr : Derives .andProp right q) : Derives .orProp (left ++ .or :: right) (.or p q)
  /-- A disjunction is a formula. -/
  | ofOr {tokens : List Token} {p : Proposition} (h : Derives .orProp tokens p) :
    Derives .prop tokens p
  /-- Implication groups to the right. -/
  | implication {left right : List Token} {p q : Proposition} (hl : Derives .orProp left p)
    (hr : Derives .prop right q) : Derives .prop (left ++ .imply :: right) (.imply p q)

/-- Whether a text is cut into tokens from which a proposition is derived. -/
def Spells (cs : List Char) (p : Proposition) : Prop :=
  ∃ tokens, Cut cs tokens ∧ Derives .prop tokens p

/-! ## Order of the nonterminals -/

/-- How tightly a formula of a nonterminal binds at least. -/
def Nonterminal.strength : Nonterminal → Nat
  | .prop => 1
  | .orProp => 2
  | .andProp => 3
  | .negProp => 4
  | .atom => 5

/-- A formula that binds more tightly than is needed may stand where less is needed. -/
theorem Derives.weaken {tight loose : Nonterminal} {tokens : List Token} {p : Proposition}
    (h : Derives tight tokens p) (hs : loose.strength ≤ tight.strength) :
    Derives loose tokens p := by
  -- Each nonterminal leads to the next looser one, so the way down is a chain of such steps.
  have hneg : Nonterminal.strength .negProp ≤ tight.strength → Derives .negProp tokens p := by
    intro hn
    cases tight with
    | atom => exact h.ofAtom
    | negProp => exact h
    | andProp | orProp | prop => simp only [Nonterminal.strength] at hn; omega
  have hand : Nonterminal.strength .andProp ≤ tight.strength → Derives .andProp tokens p := by
    intro hn
    cases tight with
    | andProp => exact h
    | atom | negProp => exact (hneg (by decide)).ofNeg
    | orProp | prop => simp only [Nonterminal.strength] at hn; omega
  have hor : Nonterminal.strength .orProp ≤ tight.strength → Derives .orProp tokens p := by
    intro hn
    cases tight with
    | orProp => exact h
    | atom | negProp | andProp => exact (hand (by decide)).ofAnd
    | prop => simp only [Nonterminal.strength] at hn; omega
  cases loose with
  | atom =>
    cases tight with
    | atom => exact h
    | prop | orProp | andProp | negProp => simp only [Nonterminal.strength] at hs; omega
  | negProp => exact hneg hs
  | andProp => exact hand hs
  | orProp => exact hor hs
  | prop =>
    cases tight with
    | prop => exact h
    | atom | negProp | andProp | orProp => exact (hor (by decide)).ofOr

end BoxedDeduction
