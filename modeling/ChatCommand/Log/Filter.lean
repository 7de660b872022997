import ChatCommand.Log.Directive

/-!
# Filters

A filter decides by its directives what is logged. Of the directives that apply to an event, the one
with the longest target counts; within spans that directives name, their levels are logged as well.
-/

namespace ChatCommand.Log

namespace Directive

/-- The directive names spans or values of their fields. -/
def isScoped (d : Directive) : Bool :=
  d.span.isSome || d.fields.any (·.value.isSome)

/-- The directive is for the whole program, or for a part that the target belongs to. -/
def covers (d : Directive) (target : String) : Bool :=
  match d.target with
  | some t => t.toList.isPrefixOf target.toList
  | none => true

/-- The directive applies to the event. -/
def appliesTo (d : Directive) (e : Event) : Bool :=
  d.covers e.target &&
    d.fields.all fun f => f.name == "message" || e.fields.any (·.1 == f.name)

/-- The directive applies within the span, if the values of its fields are the right ones. -/
def concerns (d : Directive) (s : Span) : Bool :=
  d.covers s.target && d.span.all (· == s.name) &&
    d.fields.all fun f => s.fields.any (·.1 == f.name)

/-- The fields of the span have the values that the directive asks for. -/
def valuesFit (d : Directive) (s : Span) : Bool :=
  d.fields.all fun f =>
    match f.value with
    | some v => s.fields.any fun (name, x) => name == f.name && v.accepts x
    | none => true

/-- How special a directive is: the length of its target in bytes, and the number of its fields. -/
def specificity (d : Directive) : Nat × Nat :=
  ((d.target.map (·.utf8ByteSize + 1)).getD 0, d.fields.length)

/-- The directive is at least as special as another one. -/
def outranks (d e : Directive) : Bool :=
  e.specificity.1 < d.specificity.1 ||
    (e.specificity.1 == d.specificity.1 && e.specificity.2 ≤ d.specificity.2)

end Directive

/-- Directives, in the order in which they were given. -/
structure Filter where
  directives : List Directive := []

namespace Filter

/-- The filter with one more directive. -/
def add (f : Filter) (d : Directive) : Filter where
  directives := f.directives ++ [d]

/-- The filter that logs the level, and what is more severe, of the whole program. -/
def ofLevel (l : Level) : Filter where
  directives := [{ threshold := some l }]

/-- The filter of a list of directives with commas between them; none if one cannot be read. -/
def read? (s : String) : Option Filter := do
  let directives ← ((s.splitOn ",").filter (· != "")).mapM fun d => (Directive.read d).toOption
  pure { directives }

/-- The most special of some directives; of those that are equally special, the last one. -/
def mostSpecial? (ds : List Directive) : Option Directive :=
  ds.foldl
    (fun best d =>
      match best with
      | some b => if d.outranks b then some d else some b
      | none => some d)
    none

/-- The threshold by the directives that apply and are not for spans; nothing is logged without
one. -/
def threshold (f : Filter) (applies : Directive → Bool) : Threshold :=
  (mostSpecial? (f.directives.filter fun d => !d.isScoped && applies d)).bind (·.threshold)

/-- The threshold within the span, if directives concern it. -/
def within? (f : Filter) (s : Span) : Option Threshold :=
  match f.directives.filter fun d => d.isScoped && d.concerns s with
  | [] => none
  | ds =>
    some ((ds.filter (·.valuesFit s)).foldl
      (fun t d => if t.breadth < d.threshold.breadth then d.threshold else t) none)

/-- The event is logged when it happens within these spans. -/
def admits (f : Filter) (scope : List Span) (e : Event) : Bool :=
  (scope.any fun s => (f.within? s).any (·.admits e.level)) ||
    (f.threshold (·.appliesTo e)).admits e.level

/-- The span is shown with the events in it. -/
def admitsSpan (f : Filter) (s : Span) : Bool :=
  (f.within? s).isSome || (f.threshold (·.covers s.target)).admits s.level

end Filter

end ChatCommand.Log
