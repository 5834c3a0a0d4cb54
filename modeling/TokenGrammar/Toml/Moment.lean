import TokenGrammar.Toml.Number

namespace TokenGrammar.Toml

/-- The key that marks a table as a date or time if it comes first. -/
def momentKey : String := "$__toml_private_datetime"

/-- The date or time that is the whole of a text. -/
def moment? (text : String) : Option Value :=
  match readMoment text.toList with
  | some (v, []) => some v
  | _ => none

/-- What is under the reserved key, if that comes first. -/
def marked? : List (String × Value) → Option Value
  | (key, v) :: _ => if key = momentKey then some v else none
  | [] => none

/-- The date or time that a marked table stands for. Only a text is one. -/
def Value.asMoment? : Value → Option Value
  | .string text => moment? text
  | _ => none

mutual

/-- The value with a date or time for each marked table; none if one of them is malformed. What else
is in a marked table does not matter. Where the reserved key is not the first of its table, it is a
key like any other. -/
def Value.settled? : Value → Option Value
  | .array items => (settledItems? items).map .array
  | .table entries =>
    match marked? entries with
    | some v => v.asMoment?
    | none => (settledEntries? entries).map .table
  | v => some v

def settledItems? : List Value → Option (List Value)
  | [] => some []
  | v :: vs => do
    let v ← v.settled?
    return v :: (← settledItems? vs)

def settledEntries? : List (String × Value) → Option (List (String × Value))
  | [] => some []
  | (key, v) :: entries => do
    let v ← v.settled?
    return (key, v) :: (← settledEntries? entries)

end

end TokenGrammar.Toml
