import BoxedDeduction.Proofs.Command.Writing

/-!
# Lines that call rules

The arguments of a rule stand side by side on a line. A formula may be followed by one that begins
with a sign or a parenthesis, yet the line is cut at the places where it was put together, and only
there: its written arguments are those that were printed, in their order. So the line denotes what
the rulebook makes of the name and the arguments, and no other call has the same line.
-/

namespace BoxedDeduction

variable {table : Connectives} {line name : String} {arguments : List Argument}

/-- How a line calls a rule by name with arguments. -/
structure Calls (line name : String) (arguments : List Argument) : Prop where
  /-- The line matches the grammar with one written argument for each argument, in their order. -/
  matched : readWritten line.toList = .ok (.rule name (arguments.map Argument.written))
  /-- The written arguments have the arguments as their values. -/
  values : (arguments.map Argument.written).mapM WrittenArgument.value = .ok arguments
  /-- The line denotes the rule that the rulebook makes of the name and the arguments. -/
  made : ∀ rule, Rulebook.standard.create name arguments = .ok rule →
    Command.read line = .ok (.change (.infer rule))
  /-- If the rulebook makes none, the line is refused for the same cause. -/
  refused : ∀ cause, Rulebook.standard.create name arguments = .error cause →
    Command.read line = .error (.ruleCall cause)

/-- A line calls one rule with one list of arguments. -/
theorem Calls.unique (h : Calls line name arguments) {other : String} {others : List Argument}
    (ho : Calls line other others) : other = name ∧ others = arguments := by
  have hm := ho.matched
  rw [h.matched] at hm
  obtain ⟨hn, ha⟩ := WrittenCommand.rule.inj (Except.ok.inj hm)
  have hv := ho.values
  rw [← ha,h.values] at hv
  exact ⟨hn.symm, (Except.ok.inj hv).symm⟩

/-- The line of a call is cut into the arguments that were printed. -/
theorem calls_ruleCall (ht : table.IsReadable) (hn : isRuleName name = true)
    (h : ∀ argument ∈ arguments, argument.IsWritable) :
    Calls (ruleCall table name arguments) name arguments where
  matched := by
    rw [toList_ruleCall]
    exact readWritten_rule ht hn h
  values := mapM_value_written h
  made := by
    intro rule hr
    rw [Command.read_ruleCall ht hn h,hr]
  refused := by
    intro cause hr
    rw [Command.read_ruleCall ht hn h,hr]

/-- With either table the line of a call is read as the call, whatever the name and however many
arguments there are, and no other call is read from it. -/
theorem ruleCall_calls_only (ht : table = .signs ∨ table = .keyboard)
    (hn : isRuleName name = true) (h : ∀ argument ∈ arguments, argument.IsWritable) :
    Calls (ruleCall table name arguments) name arguments ∧
      ∀ other others, Calls (ruleCall table name arguments) other others →
        other = name ∧ others = arguments := by
  have hr : table.IsReadable := by
    rcases ht with rfl | rfl
    · exact Connectives.isReadable_signs
    · exact Connectives.isReadable_keyboard
  have hc := calls_ruleCall hr hn h
  exact ⟨hc, fun _ _ => hc.unique⟩

/-- Formulas that begin with a letter, with a negation and with a parenthesis behind it are told
apart where they stand side by side, although the name of the rule holds signs of connectives. -/
theorem ruleCall_calls_only_of_negations :
    let p : Proposition := .symbol "p"
    let arguments : List Argument := [.prop p, .prop (.negated p), .index 12, .index 3,
      .prop (.negated (.and p .bottom)), .prop p]
    let made : Rule := .orIRhs (.negated (.imply p p)) 12
    isRuleName "->e" = true ∧ (∀ argument ∈ arguments, argument.IsWritable) ∧
      Calls "rule ->e p -p 12 3 -(p & bottom) p" "->e" arguments ∧
      Command.read "rule or_i_rhs -(p -> p) 12" = .ok (.change (.infer made)) := by
  intro p arguments made
  have hindex : ∀ value : Nat, value < 100 → (Argument.index value).IsWritable := by
    intro value hv
    exact ⟨value, Nat.lt_of_lt_of_le hv (Nat.pow_le_pow_right (by decide) (by decide) :
      10 ^ 2 ≤ 10 ^ WholeNumber.digitLimit), rfl⟩
  have hprop : ∀ q ∈ [p, .negated p, .negated (.and p .bottom), .negated (.imply p p)],
      (Argument.prop q).IsWritable := by
    simp only [Argument.IsWritable]
    decide
  have hw : ∀ argument ∈ arguments, argument.IsWritable := by
    simp only [arguments, List.forall_mem_cons]
    exact ⟨hprop _ (by simp), hprop _ (by simp), hindex 12 (by decide), hindex 3 (by decide),
      hprop _ (by simp), hprop _ (by simp), nofun⟩
  have hm : ∀ argument ∈ made.arguments, argument.IsWritable := by
    simp only [made, Rule.arguments, List.forall_mem_cons]
    exact ⟨hprop _ (by simp), hindex 12 (by decide), nofun⟩
  have hn : isRuleName "->e" = true := by decide +kernel
  have hk : isRuleName made.kind.name = true := by decide +kernel
  have hc := (ruleCall_calls_only (Or.inr rfl : Connectives.keyboard = _ ∨ _) hn hw).1
  have hd := (ruleCall_calls_only (Or.inr rfl : Connectives.keyboard = _ ∨ _) hk hm).1.made made
    (Rulebook.create_arguments made)
  have hl : ruleCall .keyboard "->e" arguments = "rule ->e p -p 12 3 -(p & bottom) p" ∧
      ruleCall .keyboard made.kind.name made.arguments = "rule or_i_rhs -(p -> p) 12" := by
    decide +kernel
  rw [hl.1] at hc
  rw [hl.2] at hd
  exact ⟨hn, hw, hc, hd⟩

end BoxedDeduction
