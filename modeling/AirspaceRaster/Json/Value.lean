import AirspaceRaster.Json.Token

/-! The value that a JSON text stands for. The tokens are put together with a stack of the arrays and
    objects that are open, so values may be nested to any depth. -/

namespace AirspaceRaster.Json

/-- A value. Numbers are as written, and strings may still hold halves of characters: whether this is a
    fault depends on what the value is for. -/
inductive Value where
  | null
  | bool (b : Bool)
  | number (n : Number)
  | string (s : Pieces)
  | array (items : List Value)
  | object (members : List (Pieces × Value))

/-- An array or object that is open, with what it holds so far in reverse. -/
inductive Frame where
  | array (items : List Value)
  | object (members : List (Pieces × Value)) (key : Pieces)

/-- What may come next. -/
inductive Expected where
  | value
  /-- A value, or the end of an array without items. -/
  | valueOrEnd
  | key (members : List (Pieces × Value))
  /-- A key, or the end of an object without members. -/
  | keyOrEnd
  | colon (members : List (Pieces × Value)) (key : Pieces)
  | commaOrEnd
  /-- Nothing more. -/
  | nothing (result : Value)

/-- The open arrays and objects, the innermost first, and what may come next. -/
structure State where
  stack : List Frame
  expected : Expected

/-- A complete value goes into the innermost array or object. -/
def State.deliver (stack : List Frame) (v : Value) : State :=
  match stack with
  | [] => ⟨[], .nothing v⟩
  | .array items :: rest => ⟨.array (v :: items) :: rest, .commaOrEnd⟩
  | .object members key :: rest => ⟨.object ((key, v) :: members) [] :: rest, .commaOrEnd⟩

/-- A token where a value is expected. -/
def State.startValue (stack : List Frame) : Token → Option State
  | .openArray => some ⟨.array [] :: stack, .valueOrEnd⟩
  | .openObject => some ⟨stack, .keyOrEnd⟩
  | .string s => some (deliver stack (.string s))
  | .number n => some (deliver stack (.number n))
  | .true => some (deliver stack (.bool true))
  | .false => some (deliver stack (.bool false))
  | .null => some (deliver stack .null)
  | _ => none

def State.step (st : State) (t : Token) : Option State :=
  match st.expected, t, st.stack with
  | .value, t, stack => startValue stack t
  | .valueOrEnd, .closeArray, .array items :: rest => some (deliver rest (.array items.reverse))
  | .valueOrEnd, t, stack => startValue stack t
  | .keyOrEnd, .closeObject, stack => some (deliver stack (.object []))
  | .keyOrEnd, .string s, stack => some ⟨stack, .colon [] s⟩
  | .key members, .string s, stack => some ⟨stack, .colon members s⟩
  | .colon members key, .colon, stack => some ⟨.object members key :: stack, .value⟩
  | .commaOrEnd, .comma, .array items :: rest => some ⟨.array items :: rest, .value⟩
  | .commaOrEnd, .closeArray, .array items :: rest => some (deliver rest (.array items.reverse))
  | .commaOrEnd, .comma, .object members _ :: rest => some ⟨rest, .key members⟩
  | .commaOrEnd, .closeObject, .object members _ :: rest =>
    some (deliver rest (.object members.reverse))
  | _, _, _ => none

/-- The value that some tokens make up. -/
def ofTokens? (ts : List Token) : Option Value :=
  match ts.foldlM State.step ⟨[], .value⟩ with
  | some ⟨_, .nothing v⟩ => some v
  | _ => none

def parse? (s : String) : Option Value :=
  (tokens? s).bind ofTokens?

end AirspaceRaster.Json
