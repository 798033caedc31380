import BoxedDeduction.Rule.Kind

/-!
# Schemas of the rules

A schema states a rule with schematic letters: what the cited lines must be on
the left and what follows on the right. Instantiating the letters with
propositions gives the instances of the rule; instantiating them with symbols
of their own names gives the printed schema.
-/

namespace BoxedDeduction

/-- A letter that stands for any proposition. -/
inductive SchematicLetter where
  | phi
  | psi
  | chi
  deriving DecidableEq

/-- The sign of a schematic letter. -/
def SchematicLetter.sign : SchematicLetter → String
  | .phi => "φ"
  | .psi => "ψ"
  | .chi => "χ"

/-- A proposition with schematic letters. -/
inductive Pattern where
  /-- Any proposition, the same at every place of the letter. -/
  | letter (sign : SchematicLetter)
  /-- Falsity. -/
  | bottom
  /-- Conjunction. -/
  | and (lhs rhs : Pattern)
  /-- Disjunction. -/
  | or (lhs rhs : Pattern)
  /-- Implication. -/
  | imply (lhs rhs : Pattern)
  deriving DecidableEq

namespace Pattern

/-- The negation of a pattern. -/
def negated (pattern : Pattern) : Pattern := .imply pattern .bottom

/-- The proposition that a pattern becomes once its letters are chosen. -/
def instantiate (choice : SchematicLetter → Proposition) : Pattern → Proposition
  | .letter l => choice l
  | .bottom => .bottom
  | .and lhs rhs => .and (lhs.instantiate choice) (rhs.instantiate choice)
  | .or lhs rhs => .or (lhs.instantiate choice) (rhs.instantiate choice)
  | .imply lhs rhs => .imply (lhs.instantiate choice) (rhs.instantiate choice)

/-- The printed pattern. -/
def print (pattern : Pattern) : String :=
  (pattern.instantiate fun letter => .symbol letter.sign).print .signs

end Pattern

/-- What one cited line must be. -/
inductive SchemaPremise where
  /-- A line with a proposition of this form. -/
  | line (pattern : Pattern)
  /-- A closed box with an assumption and a last line of these forms. -/
  | box (assumption derived : Pattern)
  deriving DecidableEq

namespace SchemaPremise

/-- The printed premise. -/
def print : SchemaPremise → String
  | .line pattern => pattern.print
  | .box assumption derived => "[" ++ assumption.print ++ "]…" ++ derived.print

/-- Whether a proposition is an instance of a premise. -/
def Fits (choice : SchematicLetter → Proposition) : SchemaPremise → Proposition → Prop
  | .line pattern, prop => prop = pattern.instantiate choice
  | .box assumption derived, prop => ∃ steps, prop = .box steps ∧
      steps.assumption = assumption.instantiate choice ∧
      steps.derived = derived.instantiate choice

end SchemaPremise

/-- A rule with schematic letters. -/
structure Schema where
  /-- What the cited lines must be, in the order of citation. -/
  premises : List SchemaPremise
  /-- What follows from them. -/
  conclusion : Pattern
  deriving DecidableEq

/-- The printed schema. -/
def Schema.print (schema : Schema) : String :=
  let turnstile := "⊢ " ++ schema.conclusion.print
  if schema.premises.isEmpty then turnstile
  else ", ".intercalate (schema.premises.map SchemaPremise.print) ++ " " ++ turnstile

/-- The schema of a rule. -/
def RuleKind.schema (kind : RuleKind) : Schema :=
  let φ := Pattern.letter .phi
  let ψ := Pattern.letter .psi
  let χ := Pattern.letter .chi
  match kind with
  | .andI => ⟨[.line φ, .line ψ], .and φ ψ⟩
  | .andELhs => ⟨[.line (.and φ ψ)], φ⟩
  | .andERhs => ⟨[.line (.and φ ψ)], ψ⟩
  | .orILhs => ⟨[.line φ], .or φ ψ⟩
  | .orIRhs => ⟨[.line ψ], .or φ ψ⟩
  | .orE => ⟨[.line (.or φ ψ), .box φ χ, .box ψ χ], χ⟩
  | .negI => ⟨[.box φ .bottom], φ.negated⟩
  | .negE => ⟨[.line φ, .line φ.negated], .bottom⟩
  | .implyI => ⟨[.box φ ψ], .imply φ ψ⟩
  | .implyE => ⟨[.line (.imply φ ψ), .line φ], ψ⟩
  | .bottomE => ⟨[.line .bottom], φ⟩
  | .negNegE => ⟨[.line φ.negated.negated], φ⟩
  | .modusTollens => ⟨[.line (.imply φ ψ), .line ψ.negated], φ.negated⟩
  | .negNegI => ⟨[.line φ], φ.negated.negated⟩
  | .contradiction => ⟨[.box φ.negated .bottom], φ⟩
  | .excludedMiddle => ⟨[], .or φ φ.negated⟩

end BoxedDeduction
