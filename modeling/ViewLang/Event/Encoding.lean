import ViewLang.Event
import ViewLang.Json

/-!
# Events as JSON

The form in which events are handed to other programs. An event is an object whose first field names
what happened. A statement or a literal is an object with one field, which names its sort.
-/

namespace ViewLang

/-- A literal as an object that names its type. -/
def Literal.toJson : Literal → Json
  | string value => .object [("StringLiteral", .string value)]
  | number value => .object [("NumberLiteral", .number value.toInt)]

namespace Node

mutual

/-- A statement as an object that names its sort. -/
def toJson : Node → Json
  | view elements =>
    .object [("ViewBlock", .object [("elements", .array (toJsonAll elements))])]
  | assignment name value =>
    .object [("Assignment", .object [("name", .string name), ("value", value.toJson)])]
  | function name body =>
    .object [("FunctionDef", .object [("name", .string name), ("body", .array (toJsonAll body))])]
  | component name body =>
    .object [("ComponentDef", .object [("name", .string name), ("body", .array (toJsonAll body))])]
  | call name => .object [("ComponentCall", .object [("name", .string name)])]
  | text content => .object [("TextNode", .object [("text", .string content)])]
  | button label => .object [("ButtonNode", .object [("text", .string label)])]

/-- Statements in order. -/
def toJsonAll : List Node → List Json
  | [] => []
  | node :: nodes => toJson node :: toJsonAll nodes

end

end Node

/-- The name of what happened. -/
def Event.tag : Event → String
  | viewRendered _ => "ViewRendered"
  | assigned _ _ => "Assigned"
  | functionDefined _ _ => "FunctionDefined"
  | componentDefined _ => "ComponentDefined"
  | componentRendering _ => "ComponentRendering"
  | componentNotFound _ => "ComponentNotFound"
  | buttonRendered _ => "ButtonRendered"
  | textRendered _ => "TextRendered"
  | functionCalled _ => "FunctionCalled"
  | callDepthExceeded _ _ => "CallDepthExceeded"

/-- What an event carries, field by field. -/
def Event.payload : Event → List (String × Json)
  | viewRendered elements => [("elements", .array (Node.toJsonAll elements))]
  | assigned name value => [("name", .string name), ("value", value.toJson)]
  | functionDefined name body => [("name", .string name), ("body", .array (Node.toJsonAll body))]
  | componentDefined name | componentRendering name | componentNotFound name
  | functionCalled name => [("name", .string name)]
  | buttonRendered text | textRendered text => [("text", .string text)]
  | callDepthExceeded name depth => [("name", .string name), ("depth", .number depth)]

/-- An event as an object that names it first. -/
def Event.toJson (event : Event) : Json :=
  .object (("event", .string event.tag) :: event.payload)

/-- A list of events as JSON text. -/
def Event.encode (events : List Event) : String :=
  (Json.array (events.map Event.toJson)).pretty

end ViewLang
