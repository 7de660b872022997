import ChatCommand.Settings.Error
import ChatCommand.Settings.Schema

/-!
# Checking settings

`Settings.check` refuses settings that fit the schema but cannot drive the service.
-/

namespace ChatCommand

/-- Refuses a sigil that is empty or holds a blank, and operators whose names are blank. -/
def CommandSettings.check (c : CommandSettings) : Except Settings.Unusable Unit :=
  if c.sigil.isEmpty then .error .emptySigil
  else if c.sigil.toList.any Text.isBlank then .error (.blankInSigil c.sigil)
  else if c.operators.any fun o => (Text.trim o).isEmpty then .error .blankOperator
  else .ok ()

/-- Refuses to log to a file without a path. -/
def LogSettings.check (l : LogSettings) : Except Settings.Unusable Unit :=
  if l.output = .file ∧ l.filePath = none then .error .noLogFile else .ok ()

/-- Refuses settings that cannot drive the service. -/
def Settings.check (s : Settings) : Except Settings.Unusable Unit :=
  match s.commands.check with
  | .error e => .error e
  | .ok () => s.logging.check

end ChatCommand
