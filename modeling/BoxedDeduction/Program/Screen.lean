import BoxedDeduction.Session.Basic

/-!
# Output of a run

What a run writes goes to two streams: answers to one, errors and the log to
the other. The order within each stream is kept.
-/

namespace BoxedDeduction

/-- What has been written to the two streams. -/
structure Screen where
  /-- Answers. -/
  out : String := ""
  /-- Errors and the log. -/
  err : String := ""
  deriving DecidableEq

namespace Screen

/-- Two outputs one after the other. -/
def append (first second : Screen) : Screen := ⟨first.out ++ second.out, first.err ++ second.err⟩

instance : Append Screen := ⟨append⟩

/-- Errors stay in their order when outputs are joined. -/
theorem err_append (first second : Screen) : (first ++ second).err = first.err ++ second.err := rfl

end Screen

end BoxedDeduction
