import ChatCommand.Text.Case

/-!
# Profiles

The name of the environment that a service runs in; it selects further settings files.
-/

namespace ChatCommand.Settings

/-- A profile. -/
inductive Profile where
  | development
  | production
  | custom (name : String)
deriving DecidableEq, Repr

namespace Profile

/-- The name of a profile, as it stands in file names. -/
def name : Profile → String
  | development => "development"
  | production => "production"
  | custom name => name

/-- The profile of that name, in any case; two of them have a short name. -/
def ofName (s : String) : Profile :=
  match Text.lower s with
  | "production" | "prod" => production
  | "development" | "dev" => development
  | other => custom other

end Profile

end ChatCommand.Settings
