import BoxedDeduction.Settings.Expansion

/-!
# Bundled settings

The settings that hold where no file of settings is found. The level of the log
is taken from the environment.
-/

namespace BoxedDeduction

/-- The level of the log before references are replaced. -/
def bundledLevel : String := "$\x7bFITCH_LOG_LEVEL:WARNING\x7d"

/-- The bundled settings before references are replaced. -/
def bundledSettings : Value :=
  .ofFields [
    ("display", .ofFields [
      ("width", .int 70),
      ("unicode", .bool true),
      ("clear_screen", .bool false)]),
    ("repl", .ofFields [
      ("prompt", .text "fitch> "),
      ("greeting", .bool true),
      ("show_after_command", .bool true)]),
    ("latex", .ofFields [
      ("preamble", .bool true)]),
    ("logging", .ofFields [
      ("level", .text bundledLevel)])]

end BoxedDeduction
