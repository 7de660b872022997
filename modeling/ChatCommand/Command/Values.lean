/-!
# Argument values

The values that one invocation gives to the arguments of a command: one entry for each argument, in
order. An argument that was left out has no value, which is not the same as an empty one.
-/

namespace ChatCommand

/-- The names of the arguments of a command with their values in one invocation. -/
structure Values where
  entries : List (String × Option String)
deriving DecidableEq, Repr

namespace Values

/-- The number of arguments. -/
def size (v : Values) : Nat :=
  v.entries.length

/-- There is no argument. -/
def isEmpty (v : Values) : Bool :=
  v.entries.isEmpty

/-- The value of the argument at a position. -/
def get? (v : Values) (i : Nat) : Option String :=
  v.entries[i]?.bind (·.2)

/-- The value of the first argument of that name. -/
def value? (v : Values) (name : String) : Option String :=
  (v.entries.find? (·.1 == name)).bind (·.2)

/-- The argument of that name has a value. -/
def isPresent (v : Values) (name : String) : Bool :=
  (v.value? name).isSome

/-- All values, in order. -/
def toList (v : Values) : List (Option String) :=
  v.entries.map (·.2)

/-- The value of the argument of that name, read by `read`; none if the argument has no value. -/
def read? {ε α : Type} (v : Values) (name : String) (read : String → Except ε α) :
    Except ε (Option α) :=
  match v.value? name with
  | none => .ok none
  | some s => (read s).map some

end Values

end ChatCommand
