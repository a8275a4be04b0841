import SubscriptLint.Document.Json.Token
import SubscriptLint.Document.Parsed
/-!
# JSON trees

The tree of a sequence of tokens. The lists and maps that are being read stand in frames, the
innermost first; each token completes a value, opens or closes a frame, or breaks the reading off.
-/

namespace SubscriptLint.Json

/-- A list or a map that is being read: the token that opened it, and its parts in reverse. -/
inductive Frame
  | list (opening : Token) (done : List Node)
  /-- A map, with the key whose value comes next. -/
  | map (opening : Token) (done : List (Node × Node)) (key : Option Node)

/-- What the next token may be. -/
inductive Awaited
  | value
  /-- An item of a list, behind a comma. -/
  | item
  | itemOrEnd
  | commaOrEnd
  /-- A key, behind a comma. -/
  | key
  | keyOrEnd
  | colon
  deriving DecidableEq

/-- Where one stands who leaves the innermost frame when a part of it was read. -/
def leaving (frames : List Frame) (o : Outlook) : Mark :=
  match frames with
  | .list .. :: _ => o.leavingList
  | .map .. :: _ => o.leavingMap
  | [] => o.mark

/-- The marks of a value that is one token, inside of frames. -/
def tokenMarks (t : Token) (frames : List Frame) : Marks :=
  ⟨t.first, t.stop, t.stop, leaving frames t.outlook⟩

/-- The marks of a value between two tokens, inside of frames. -/
def pairMarks (opening closing : Token) (frames : List Frame) : Marks :=
  ⟨opening.first, opening.start, closing.stop, leaving frames closing.outlook⟩

/-- A break by faults of the text. -/
def breakBy (read passed chosen closed : Fault) : Break :=
  ⟨.json read, .json passed, .json chosen, .json closed⟩

/-- A break that does not depend on what is done with the value. -/
def alwaysBy (f : Fault) : Break := .always (.json f)

/-- A string as a value. -/
def stringNode (value : Except Fault String) (marks : Marks) : Node :=
  match value with
  | .ok text => .scalar (.text text) (some marks)
  | .error f => .unreadable (alwaysBy f) (some marks)

/-- A value without parts that is no string. -/
def scalarNode (value : Except Fault Scalar) (marks : Marks) : Node :=
  match value with
  | .ok scalar => .scalar scalar (some marks)
  | .error f => .unreadable (breakBy f f ⟨.noValue, marks.start⟩ f) (some marks)

namespace Frame

/-- The frame with its next part. -/
def put (value : Node) : Frame → Frame
  | list opening done => list opening (value :: done)
  | map opening done (some key) => map opening ((key, value) :: done) none
  | map opening done none => map opening done none

/-- The marks of a value that was not read to its end. -/
def openMarks (opening : Token) : Marks :=
  ⟨opening.first, opening.start, opening.start, opening.start⟩

/-- The frame as a value that was not read to its end. -/
def cutOff (b : Break) : Frame → Node
  | list opening done => .list done.reverse (some b) (some (openMarks opening))
  | map opening done _ => .map done.reverse (some b) (some (openMarks opening))

end Frame

/-- The tree of the frames when a value cannot be read. -/
def cutOffAll (b : Break) (value : Node) (frames : List Frame) : Node :=
  frames.foldl (fun inner frame => (frame.put inner).cutOff b) value

/-- The break where a text ends too early. -/
def endBreak (frames : List Frame) (awaited : Awaited) (stop : Mark) : Break :=
  let inValue : Fault := ⟨.endInValue, stop⟩
  let inList : Fault := ⟨.endInList, stop⟩
  let inMap : Fault := ⟨.endInMap, stop⟩
  match awaited, frames with
  | .value, _ => alwaysBy inValue
  | .item, _ => breakBy inValue inValue inValue ⟨.moreBehind, stop⟩
  | .itemOrEnd, _ => alwaysBy inList
  | .commaOrEnd, .list .. :: _ => alwaysBy inList
  | .commaOrEnd, _ => alwaysBy inMap
  | .key, _ => breakBy inValue inMap inValue inValue
  | .keyOrEnd, _ | .colon, _ => alwaysBy inMap

/-- The break where a token stands in the place of a value. -/
def valueBreak (t : Token) : Break :=
  let noValue : Fault := ⟨.noValue, t.first⟩
  let closed : Fault := ⟨.moreBehind, t.first⟩
  match t.piece with
  | .bad faults true => breakBy faults.read faults.passed faults.read closed
  | .bad faults false => breakBy faults.read faults.passed noValue closed
  | _ => breakBy noValue noValue noValue closed

/-- The break where a token stands in the place of a key. -/
def keyBreak (t : Token) : Break :=
  match t.piece with
  | .bad faults true => breakBy faults.read faults.passed faults.read faults.read
  | _ => alwaysBy ⟨.keyNotString, t.first⟩

/-- The break at a token that cannot stand where it does. -/
def tokenBreak (frames : List Frame) (awaited : Awaited) (t : Token) : Break :=
  let comma : Fault := ⟨.commaBeforeEnd, t.first⟩
  match awaited, t.piece, frames with
  | .item, .closeList, _ => breakBy comma ⟨.noValue, t.first⟩ comma comma
  | .value, _, _ | .item, _, _ | .itemOrEnd, _, _ => valueBreak t
  | .commaOrEnd, _, .list .. :: _ =>
    let none : Fault := ⟨.noCommaInList, t.first⟩
    breakBy none none none ⟨.moreBehind, t.first⟩
  | .commaOrEnd, _, _ => alwaysBy ⟨.noCommaInMap, t.first⟩
  | .key, .closeMap, _ => breakBy comma ⟨.keyNotString, t.first⟩ comma comma
  | .key, _, _ | .keyOrEnd, _, _ => keyBreak t
  | .colon, _, _ => alwaysBy ⟨.noColon, t.first⟩

/-- The tree of the frames when a break comes where something is awaited. If a part of the innermost
frame is missing, it is broken itself. -/
def breakOff (b : Break) (mark : Mark) (partMissing : Bool) (frames : List Frame) : Node :=
  let part : Node := .broken b (some ⟨mark, mark, mark, mark⟩)
  match frames with
  | [] => part
  | f :: fs => if partMissing then cutOffAll b part (f :: fs) else cutOffAll b (f.cutOff b) fs

/-- The tree when the text ends too early. -/
def breakAtEnd (frames : List Frame) (awaited : Awaited) (stop : Mark) : Node :=
  breakOff (endBreak frames awaited stop) stop (awaited = .value || awaited = .colon) frames

/-- The tree when a token cannot stand where it does. -/
def breakAtToken (frames : List Frame) (awaited : Awaited) (t : Token) : Node :=
  let partMissing := match awaited, t.piece with
    | .item, .closeList => false
    | .value, _ | .item, _ | .itemOrEnd, _ | .colon, _ => true
    | .commaOrEnd, _ | .key, _ | .keyOrEnd, _ => false
  breakOff (tokenBreak frames awaited t) t.first partMissing frames

/-- What a token does to the frames. -/
inductive Step
  /-- Reading goes on. -/
  | next (frames : List Frame) (awaited : Awaited)
  /-- The outermost value is complete. -/
  | done (value : Node)
  /-- The token cannot stand there, and reading breaks off. -/
  | stop

/-- A value goes into the innermost frame; without one it is the outermost value. -/
def complete (value : Node) : List Frame → Step
  | [] => .done value
  | f :: fs => .next (f.put value :: fs) .commaOrEnd

/-- What a token does where a value may begin. -/
def stepValue (frames : List Frame) (t : Token) : Step :=
  match t.piece with
  | .string value => complete (stringNode value (tokenMarks t frames)) frames
  | .scalar value => complete (scalarNode value (tokenMarks t frames)) frames
  | .openList => .next (.list t [] :: frames) .itemOrEnd
  | .openMap => .next (.map t [] none :: frames) .keyOrEnd
  | _ => .stop

/-- What a token does where a key has to stand. Only strings are keys. -/
def stepKey (frames : List Frame) (t : Token) : Step :=
  match t.piece, frames with
  | .string key, .map opening done none :: fs =>
    .next (.map opening done (some (stringNode key (tokenMarks t frames))) :: fs) .colon
  | _, _ => .stop

/-- What a token does that may close the innermost frame. -/
def stepEnd (frames : List Frame) (t : Token) : Step :=
  match t.piece, frames with
  | .closeList, .list opening done :: fs =>
    complete (.list done.reverse none (some (pairMarks opening t fs))) fs
  | .closeMap, .map opening done none :: fs =>
    complete (.map done.reverse none (some (pairMarks opening t fs))) fs
  | _, _ => .stop

/-- What a token does to the frames where something is awaited. -/
def step (frames : List Frame) (awaited : Awaited) (t : Token) : Step :=
  match awaited, t.piece, frames with
  | .value, _, _ | .item, _, _ => stepValue frames t
  | .itemOrEnd, .closeList, _ => stepEnd frames t
  | .itemOrEnd, _, _ => stepValue frames t
  | .key, _, _ => stepKey frames t
  | .keyOrEnd, .closeMap, _ => stepEnd frames t
  | .keyOrEnd, _, _ => stepKey frames t
  | .colon, .colon, _ => .next frames .value
  | .colon, _, _ => .stop
  | .commaOrEnd, .comma, .list .. :: _ => .next frames .item
  | .commaOrEnd, .comma, .map .. :: _ => .next frames .key
  | .commaOrEnd, _, _ => stepEnd frames t

/-- What is wrong with the tokens behind the outermost value: there should be none. -/
def behindRoot : List Token → Option SyntaxFault
  | [] => none
  | t :: _ => some (.json ⟨.moreBehind, t.first⟩)

/-- Reads tokens on, with the frames that are open and what may come next. -/
def readOn (stop : Mark) : List Token → List Frame → Awaited → Parsed
  | [], frames, awaited => ⟨breakAtEnd frames awaited stop, none, 0⟩
  | t :: ts, frames, awaited =>
    match step frames awaited t with
    | .next frames awaited => readOn stop ts frames awaited
    | .done value => ⟨value, behindRoot ts, 0⟩
    | .stop => ⟨breakAtToken frames awaited t, none, 0⟩

/-- Reads a JSON text. -/
def read (text : String) : Parsed :=
  let t := glyphs text
  readOn t.stop.mark (tokens t.stop.mark t.glyphs) [] .value

end SubscriptLint.Json
