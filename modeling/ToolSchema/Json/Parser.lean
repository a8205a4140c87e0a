/-
JSON values from text.

`step` takes one token: the open containers are a stack of frames, the phase says what may come next. `parse?` runs the
machine over all tokens and answers only if it ends on one finished value. A key that is written twice keeps its first
place and gets its last value; containers nested deeper than `maxDepth` are refused.
-/
import ToolSchema.Json.Token

namespace ToolSchema.Json

namespace Parser

/-- a container whose next value is being read -/
inductive Frame where
  /-- a list, last item first -/
  | items (done : List Json)
  /-- an object, and the key that waits for its value -/
  | member (done : Entries Json) (key : String)

inductive Phase where
  | value
  | firstItem
  | afterItem
  | firstKey
  | key (done : Entries Json)
  | colon (done : Entries Json) (key : String)
  | afterMember (done : Entries Json)
  | finished (value : Json)

structure State where
  stack : List Frame
  phase : Phase

def start : State := ⟨[], .value⟩

def maxDepth : Nat := 127

/-- hand a finished value to the innermost open container -/
def place (j : Json) : List Frame → State
  | [] => ⟨[], .finished j⟩
  | .items done :: stack => ⟨.items (j :: done) :: stack, .afterItem⟩
  | .member done key :: stack => ⟨stack, .afterMember (done.put key j)⟩

/-- a token where a value may begin -/
def beginValue (stack : List Frame) : Token → Option State
  | .scalar j => some (place j stack)
  | .string s => some (place (.string s) stack)
  | .openArray => if stack.length < maxDepth then some ⟨.items [] :: stack, .firstItem⟩ else none
  | .openObject => if stack.length < maxDepth then some ⟨stack, .firstKey⟩ else none
  | _ => none

/-- close the list that is innermost -/
def closeArray : List Frame → Option State
  | .items done :: stack => some (place (.array done.reverse) stack)
  | _ => none

def step (st : State) (t : Token) : Option State :=
  match st.phase, t with
  | .value, t => beginValue st.stack t
  | .firstItem, .closeArray => closeArray st.stack
  | .firstItem, t => beginValue st.stack t
  | .afterItem, .comma => some ⟨st.stack, .value⟩
  | .afterItem, .closeArray => closeArray st.stack
  | .firstKey, .closeObject => some (place (.object []) st.stack)
  | .firstKey, .string key => some ⟨st.stack, .colon [] key⟩
  | .key done, .string key => some ⟨st.stack, .colon done key⟩
  | .colon done key, .colon => some ⟨.member done key :: st.stack, .value⟩
  | .afterMember done, .comma => some ⟨st.stack, .key done⟩
  | .afterMember done, .closeObject => some (place (.object done) st.stack)
  | _, _ => none

def run (st : State) : List Token → Option State
  | [] => some st
  | t :: ts => (step st t).bind fun st' => run st' ts

end Parser

/-- the one value that a text holds -/
def parse? (text : String) : Option Json := do
  let tokens ← Token.ofText? text
  let st ← Parser.run Parser.start tokens
  match st.phase with
  | .finished j => some j
  | _ => none

end ToolSchema.Json
