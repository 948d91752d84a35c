import TimeSeries.DataType
import TimeSeries.Json.Reader
import TimeSeries.Json.Writer
import TimeSeries.Ranged

/-! Types with a JSON form. A record is an object of its fields in any order, or an array of them
in order; a choice is the name of the alternative, alone or with what belongs to it. -/

namespace TimeSeries

class JsonForm (α : Type) where
  toJson : α → Json
  ofJson? : Json → Option α

export JsonForm (toJson ofJson?)

namespace Json

def encode {α : Type} [JsonForm α] (value : α) : String :=
  (toJson value).write

def decode? {α : Type} [JsonForm α] (text : String) : Option α :=
  (parse text).bind ofJson?

def alternative? : Json → Option (String × Option Json)
  | .string (some name) => some (name, none)
  | .object [(some name, content)] => some (name, some content)
  | _ => none

def bare? (document : Json) : Option String :=
  match document.alternative? with
  | some (name, none) => some name
  | some (name, some .null) => some name
  | _ => none

def alternative (name : String) (content : Json) : Json :=
  .object [(some name, content)]

def record (fields : List (String × Json)) : Json :=
  .object (fields.map fun (name, value) => (some name, value))

def fieldsNamed (name : String) (fields : List (Content × Json)) : List Json :=
  (fields.filter fun field => field.1 == some name).map Prod.snd

def field? (name : String) (fields : List (Content × Json)) : Option Json :=
  match fieldsNamed name fields with
  | [value] => some value
  | _ => none

/-- The values of the named fields in order. Other fields are passed over, but the name of each
has to be a text. -/
def fields? (names : List String) : Json → Option (List Json)
  | .array items => if items.length = names.length then some items else none
  | .object fields =>
    if fields.all fun field => field.1.isSome then names.mapM fun name => field? name fields
    else none
  | _ => none

end Json

open Json

instance : JsonForm String where
  toJson := Json.text
  ofJson?
    | .string content => content
    | _ => none

instance : JsonForm Bool where
  toJson := Json.bool
  ofJson?
    | .bool value => some value
    | _ => none

instance {α : Type} [JsonForm α] : JsonForm (List α) where
  toJson items := .array (items.map toJson)
  ofJson?
    | .array items => items.mapM ofJson?
    | _ => none

instance {low high : Int} : JsonForm (Ranged low high) where
  toJson number := Json.integer number.val
  ofJson?
    | .number literal => literal.integer?.bind Ranged.ofInt?
    | _ => none

@[reducible] def choiceForm {α : Type} [Choice α] : JsonForm α where
  toJson member := Json.text (Choice.name member)
  ofJson? document := document.bare?.bind Choice.ofName?

end TimeSeries
