import BoxedDeduction.Proof.Basic

/-!
# Typeset proofs

A finished proof is written as a `logicproof` environment. The environment
numbers its rows by itself. A closed box is an inner `subproof` environment,
and every row but the last of its environment ends with a row separator.
-/

namespace BoxedDeduction

/-- The typeset label of a rule. -/
def RuleKind.typesetLabel : RuleKind → String
  | .andI => "$\\land_\x7bI\x7d$"
  | .andELhs => "$\\land_\x7bE_\x7b1\x7d\x7d$"
  | .andERhs => "$\\land_\x7bE_\x7b2\x7d\x7d$"
  | .orILhs => "$\\lor_\x7bI_\x7b1\x7d\x7d$"
  | .orIRhs => "$\\lor_\x7bI_\x7b2\x7d\x7d$"
  | .orE => "$\\lor_\x7bE\x7d$"
  | .negI => "$\\lnot_\x7bI\x7d$"
  | .negE => "$\\lnot_\x7bE\x7d$"
  | .implyI => "$\\to_\x7bI\x7d$"
  | .implyE => "$\\to_\x7bE\x7d$"
  | .bottomE => "$\\bot_\x7bE\x7d$"
  | .negNegE => "$\\lnot\\lnot_\x7bE\x7d$"
  | .modusTollens => "MT"
  | .negNegI => "$\\lnot\\lnot_\x7bI\x7d$"
  | .contradiction => "PBC"
  | .excludedMiddle => "LEM"

/-- A proposition in typeset connectives. -/
def Proposition.typeset (prop : Proposition) : String := prop.print .typeset

/-- An argument of a rule. Propositions are set as formulas. -/
def Argument.typeset : Argument → String
  | .index i => toString i
  | .prop p => "$" ++ p.typeset ++ "$"

/-- The typeset text of a rule. -/
def Rule.typeset (rule : Rule) : String :=
  rule.kind.typesetLabel ++ " " ++ ", ".intercalate (rule.arguments.map Argument.typeset)

/-- The typeset text of a justification. -/
def Justification.typeset : Justification → String
  | .premise => "premise"
  | .assumption => "assumption"
  | .copy source => "copy " ++ toString source
  | .inference rule => rule.typeset

/-- A row with a proposition and its justification. -/
def typesetRow (prop : Proposition) (reason : Justification) (isLast : Bool) : String :=
  prop.typeset ++ " & " ++ reason.typeset ++ if isLast then "" else " \\\\"

/-- The first row of an inner environment. -/
def beginSubproof : String := "\\begin\x7bsubproof\x7d"

/-- The last row of an inner environment. -/
def endSubproof : String := "\\end\x7bsubproof\x7d"

mutual

/-- The rows of the line that states a proposition. -/
def Proposition.typesetRows (reason : Justification) (isLast : Bool) : Proposition → List String
  | .box steps =>
    if reason = .assumption then beginSubproof :: (steps.typesetRows ++ [endSubproof])
    else [typesetRow (.box steps) reason isLast]
  | prop => [typesetRow prop reason isLast]

/-- The rows of the lines of a sub-proof. -/
def SubProof.typesetRows : SubProof → List String
  | .last _ prop reason => prop.typesetRows reason true
  | .more _ prop reason rest => prop.typesetRows reason false ++ rest.typesetRows

end

/-- The rows of lines that make up one environment. -/
def typesetLines : List Line → List String
  | [] => []
  | line :: rest => line.prop.typesetRows line.reason rest.isEmpty ++ typesetLines rest

mutual

/-- How deep the boxes of a line are nested, its own box counted. -/
def Proposition.boxDepth (reason : Justification) : Proposition → Nat
  | .box steps => if reason = .assumption then steps.boxDepth + 1 else 0
  | _ => 0

/-- How deep boxes are nested among the lines of a sub-proof. -/
def SubProof.boxDepth : SubProof → Nat
  | .last _ prop reason => prop.boxDepth reason
  | .more _ prop reason rest => max (prop.boxDepth reason) rest.boxDepth

end

/-- How deep boxes are nested among lines. -/
def linesBoxDepth (lines : List Line) : Nat :=
  lines.foldr (fun line depth => max (line.prop.boxDepth line.reason) depth) 0

/-- Why a proof cannot be typeset: the number of boxes that are still open. -/
structure UnclosedBoxes where
  /-- The number of open boxes. -/
  count : Nat
  deriving DecidableEq

/-- The message for a proof with open boxes. -/
def UnclosedBoxes.message (open_ : UnclosedBoxes) : String :=
  "The proof still has " ++ toString open_.count ++
    " open proof box(es); discharge them before exporting"

/-- A reminder of the packages that the environment needs. -/
def typesetPreamble : String :=
  "% Remember to also include these packages:\n% \\usepackage\x7bamsmath\x7d\n" ++
    "% \\usepackage\x7blogicproof\x7d\n\n"

namespace Proof

/-- The rows of a finished proof, from the first to the last row of its environment. -/
def typesetRows (proof : Proof) : List String :=
  let lines := proof.globalScope.sorted
  ("\\begin\x7blogicproof\x7d\x7b" ++ toString (linesBoxDepth lines) ++ "\x7d") ::
    (typesetLines lines ++ ["\\end\x7blogicproof\x7d"])

/-- The typeset proof, if no box is open. -/
def typeset (proof : Proof) (preamble : Bool) : Except UnclosedBoxes String :=
  if proof.hasOpenBox then .error ⟨proof.enclosing.length⟩
  else .ok ((if preamble then typesetPreamble else "") ++
    String.join (proof.typesetRows.map (· ++ "\n")))

end Proof

end BoxedDeduction
