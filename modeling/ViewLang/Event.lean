import ViewLang.Node.Display

/-!
# Events

What evaluating a program brings about, in the order in which it happens. Each event has a form of
one line, written piece by piece like the form of a statement.
-/

namespace ViewLang

/-- An effect of evaluating a program. -/
inductive Event where
  | viewRendered (elements : List Node)
  | assigned (name : String) (value : Literal)
  | functionDefined (name : String) (body : List Node)
  | componentDefined (name : String)
  | componentRendering (name : String)
  /-- A call of a name that stands for nothing that can be called. -/
  | componentNotFound (name : String)
  | buttonRendered (text : String)
  | textRendered (text : String)
  | functionCalled (name : String)
  /-- A call that was not carried out, since `depth` calls were under way. -/
  | callDepthExceeded (name : String) (depth : Nat)
deriving BEq, Repr, Inhabited

namespace Event

variable {ω : Type}

/-- Writes an event as one line, without the line feed. -/
def write (put : ω → String → ω) (out : ω) : Event → ω
  | viewRendered elements => Node.writeList put (put out "Rendering View with elements: ") elements
  | assigned name value => value.write put (put (put (put out "Assigned ") name) " = ")
  | functionDefined name body =>
    Node.writeList put (put (put (put out "Defined function ") name) " with body ") body
  | componentDefined name => put (put out "Defined component ") name
  | componentRendering name => put (put out "Rendering component ") name
  | componentNotFound name => put (put (put out "Component ") name) " not found."
  | buttonRendered text => put (put out "Rendering Button with text: ") text
  | textRendered text => put (put out "Rendering Text: ") text
  | functionCalled name => put (put out "Calling function ") name
  | callDepthExceeded name depth =>
    put (put (put (put out "Call depth limit of ") (toString depth)) " reached at ") name

/-- Writes an event and a line feed. -/
def writeLine (put : ω → String → ω) (out : ω) (event : Event) : ω :=
  put (event.write put out) "\n"

/-- The one-line form of an event. -/
def display (event : Event) : String :=
  event.write (· ++ ·) ""

/-- The log of a list of events: each on a line of its own. -/
def log (events : List Event) : String :=
  events.foldl (writeLine (· ++ ·)) ""

end Event

end ViewLang
