import SubscriptLint.Document.Node
import SubscriptLint.Document.Yaml.Token
/-!
# YAML events

What the tokens of a text tell one after the other: values without parts, and where lists and maps
begin and end. A place where a value may stand and none does holds the empty plain scalar. What is
still to come is kept as a stack of tasks, and telling stops at the first fault.
-/

namespace SubscriptLint.Yaml

/-- What stands before a value: the name by which it may be taken again, and its type. -/
structure Properties where
  anchor : Option String := none
  tag : Option ValueTag := none
  deriving DecidableEq

/-- What happens in a text. -/
inductive Happening
  | scalar (properties : Properties) (text : String) (style : ScalarStyle)
  | listStart (properties : Properties)
  | mapStart (properties : Properties)
  /-- The list or map that began last and has not ended yet ends. -/
  | finish
  | alias (name : String)
  deriving DecidableEq

/-- What happens in a text, and where. -/
structure Event where
  happening : Happening
  mark : Mark

/-- The value where none stands. -/
def Event.absent (mark : Mark) : Event := ⟨.scalar {} "" .plain, mark⟩

/-- The events of a text, and what is wrong behind them. -/
structure EventText where
  events : List Event
  fault : Option Fault
  /-- The tokens behind the events. -/
  rest : List Token

/-- What is still to be told. The marks are those where a list or a map begins. -/
inductive Task
  /-- A value. It may be a block collection, and it may be a list whose entries are not indented. -/
  | node (block unindented : Bool)
  | blockItems (start : Mark)
  | unindentedItems
  | blockEntries (start : Mark)
  /-- The value behind a key of a block map. -/
  | blockValue
  | flowItems (first : Bool) (start : Mark)
  /-- The key of an entry of a flow list that is a map of its own. -/
  | pairKey
  | pairValue
  | pairEnd
  | flowEntries (first : Bool) (start : Mark)
  /-- The value behind a key of a flow map. -/
  | flowValue
  /-- The value of a key of a flow map that no colon can follow. -/
  | noValue

/-- What comes of telling, or what is wrong. Where the tokens run out, that is not known here. -/
abbrev Told (α : Type) := Except (Option Fault) α

namespace Told

/-- Fails at a token. -/
def fail {α : Type} (trouble : Trouble) (t : Token) (during : Option (Activity × Mark)) : Told α :=
  .error (some (.trouble trouble t.start during))

end Told

/-- What one step of telling leads to. -/
structure Step where
  event : Option Event
  tasks : List Task
  rest : List Token

namespace Step

/-- An event is told. -/
def tell (event : Event) (tasks : List Task) (rest : List Token) : Told Step :=
  .ok ⟨some event, tasks, rest⟩

/-- No value stands where one may stand. -/
def tellAbsent (mark : Mark) (tasks : List Task) (rest : List Token) : Told Step :=
  tell (.absent mark) tasks rest

/-- A list or a map ends. -/
def tellFinish (t : Token) (tasks : List Task) (rest : List Token) : Told Step :=
  tell ⟨.finish, t.start⟩ tasks rest

/-- There are other tasks to do. -/
def turnTo (tasks : List Task) (rest : List Token) : Told Step := .ok ⟨none, tasks, rest⟩

end Step

/-- What handles stand for. -/
abbrev Handles := List (String × TagBytes)

/-- The handles that every document has. -/
def ownHandles : Handles := [("!", "!".toUTF8.toList), ("!!", coreTags)]

/-- A tag spelled out, if its handle stands for something. -/
def Tag.bytes? (handles : Handles) (tag : Tag) : Option TagBytes :=
  if tag.handle.isEmpty then some tag.suffix
  else ((handles ++ ownHandles).lookup tag.handle).map (· ++ tag.suffix)

/-- What is written before a value. -/
structure WrittenProperties where
  anchor : Option String := none
  tag : Option (Tag × Mark) := none

namespace WrittenProperties

/-- What is written before a value, and the tokens behind it. -/
def ofTokens : List Token → WrittenProperties × List Token
  | ⟨.anchor name, _, _⟩ :: ⟨.tag tag, mark, _⟩ :: rest => (⟨some name, some (tag, mark)⟩, rest)
  | ⟨.tag tag, mark, _⟩ :: ⟨.anchor name, _, _⟩ :: rest => (⟨some name, some (tag, mark)⟩, rest)
  | ⟨.anchor name, _, _⟩ :: rest => (⟨some name, none⟩, rest)
  | ⟨.tag tag, mark, _⟩ :: rest => (⟨none, some (tag, mark)⟩, rest)
  | ts => ({}, ts)

/-- The properties of a value that begins at a mark. -/
def spellOut (handles : Handles) (start : Mark) (p : WrittenProperties) : Told Properties :=
  match p.tag with
  | none => .ok ⟨p.anchor, none⟩
  | some (tag, mark) =>
    match tag.bytes? handles with
    | some bytes => .ok ⟨p.anchor, some (tagMeaning bytes)⟩
    | none => .error (some (.trouble .unknownHandle mark (some (.node, start))))

/-- Nothing is written there. -/
def isEmpty (p : WrittenProperties) : Bool := p.anchor.isNone && p.tag.isNone

end WrittenProperties

/-- Tells a value that begins at a mark and has something written before it. -/
def nodeBehind (block unindented : Bool) (start : Mark) (written : Bool) (p : Properties)
    (tasks : List Task) (t : Token) (rest : List Token) : Told Step :=
  match t.piece, block, unindented with
  | .entry, _, true => Step.tell ⟨.listStart p, start⟩ (.unindentedItems :: tasks) (t :: rest)
  | .scalar text style, _, _ => Step.tell ⟨.scalar p text style, start⟩ tasks rest
  | .openList, _, _ => Step.tell ⟨.listStart p, start⟩ (.flowItems true t.start :: tasks) rest
  | .openMap, _, _ => Step.tell ⟨.mapStart p, start⟩ (.flowEntries true t.start :: tasks) rest
  | .blockList, true, _ => Step.tell ⟨.listStart p, start⟩ (.blockItems t.start :: tasks) rest
  | .blockMap, true, _ => Step.tell ⟨.mapStart p, start⟩ (.blockEntries t.start :: tasks) rest
  | _, _, _ =>
    if written then Step.tell ⟨.scalar p "" .plain, start⟩ tasks (t :: rest)
    else Told.fail .noContent t (some (if block then .blockNode else .flowNode, start))

/-- Tells a value. A block collection cannot stand inside a flow collection, and the entries of a
list may begin without indentation where the list is the value of a key. -/
def node (handles : Handles) (block unindented : Bool) (tasks : List Task) :
    List Token → Told Step
  | [] => .error none
  | ⟨.alias name, mark, _⟩ :: rest => Step.tell ⟨.alias name, mark⟩ tasks rest
  | first :: others => do
    let (written, rest) := WrittenProperties.ofTokens (first :: others)
    match rest with
    | [] => .error none
    | t :: rest =>
      let p ← written.spellOut handles first.start
      nodeBehind block unindented first.start (!written.isEmpty) p tasks t rest

/-- Tells a value, or that none stands at a mark, if one of the given pieces comes first. -/
def nodeOr (block unindented : Bool) (ends : List Piece) (absent : Mark) (tasks : List Task)
    (ts : List Token) : Told Step :=
  match ts with
  | [] => .error none
  | t :: _ =>
    if ends.contains t.piece then Step.tellAbsent absent tasks ts
    else Step.turnTo (.node block unindented :: tasks) ts

/-- Tells a value, or that none stands before the next token, if that is one of the given
pieces. -/
def flowNodeOr (ends : List Piece) (tasks : List Task) (ts : List Token) : Told Step :=
  match ts with
  | [] => .error none
  | t :: _ => nodeOr false false ends t.start tasks ts

/-- The pieces that end the value of a block map, or stand in the place of its key. -/
def entryEnds : List Piece := [.key, .value, .blockEnd]

/-- The tokens behind the comma that every part of a flow collection but the first has before
it. -/
def behindComma (first : Bool) (trouble : Trouble) (during : Activity × Mark)
    (ts : List Token) : Told (List Token) :=
  match first, ts with
  | _, [] => .error none
  | true, ts => .ok ts
  | false, t :: rest => if t.piece = .comma then .ok rest else Told.fail trouble t (some during)

/-- Goes on with a flow list, of which a part may begin with the next token. -/
def flowItem (start : Mark) (tasks : List Task) : List Token → Told Step
  | [] => .error none
  | t :: rest =>
    let tasks' := .flowItems false start :: tasks
    match t.piece with
    | .closeList => Step.tellFinish t tasks rest
    | .key =>
      Step.tell ⟨.mapStart {}, t.start⟩ (.pairKey :: .pairValue :: .pairEnd :: tasks') rest
    | _ => Step.turnTo (.node false false :: tasks') (t :: rest)

/-- Goes on with a flow map, of which a key may begin with the next token. A key without a colon has
no value. -/
def flowEntry (start : Mark) (tasks : List Task) : List Token → Told Step
  | [] => .error none
  | t :: rest =>
    let tasks' := .flowEntries false start :: tasks
    match t.piece with
    | .closeMap => Step.tellFinish t tasks rest
    | .key => flowNodeOr [.value, .comma, .closeMap] (.flowValue :: tasks') rest
    | _ => Step.turnTo (.node false false :: .noValue :: tasks') (t :: rest)

/-- Goes on with a task. The key of an entry that is a map of its own may be absent, and the piece
in its place is passed over with it. -/
def Task.step (handles : Handles) (tasks : List Task) (task : Task) (t : Token)
    (rest : List Token) : Told Step :=
  let again := task :: tasks
  match task, t.piece with
  | .node block unindented, _ => Yaml.node handles block unindented tasks (t :: rest)
  | .blockItems _, .entry => nodeOr true false [.entry, .blockEnd] t.stop again rest
  | .blockItems _, .blockEnd => Step.tellFinish t tasks rest
  | .blockItems start, _ => Told.fail .noDash t (some (.blockList, start))
  | .unindentedItems, .entry => nodeOr true false (.entry :: entryEnds) t.stop again rest
  | .unindentedItems, _ => Step.tellFinish t tasks (t :: rest)
  | .blockEntries _, .key => nodeOr true true entryEnds t.stop (.blockValue :: again) rest
  | .blockEntries _, .blockEnd => Step.tellFinish t tasks rest
  | .blockEntries start, _ => Told.fail .noKey t (some (.blockMap, start))
  | .blockValue, .value => nodeOr true true entryEnds t.stop tasks rest
  | .blockValue, _ => Step.tellAbsent t.start tasks (t :: rest)
  | .flowItems _ _, .closeList => Step.tellFinish t tasks rest
  | .flowItems first start, _ => do
    flowItem start tasks (← behindComma first .noListEnd (.flowList, start) (t :: rest))
  | .pairKey, .value | .pairKey, .comma | .pairKey, .closeList =>
    Step.tellAbsent t.stop tasks rest
  | .pairKey, _ => Step.turnTo (.node false false :: tasks) (t :: rest)
  | .pairValue, .value => flowNodeOr [.comma, .closeList] tasks rest
  | .pairValue, _ => Step.tellAbsent t.start tasks (t :: rest)
  | .pairEnd, _ => Step.tellFinish t tasks (t :: rest)
  | .flowEntries _ _, .closeMap => Step.tellFinish t tasks rest
  | .flowEntries first start, _ => do
    flowEntry start tasks (← behindComma first .noMapEnd (.flowMap, start) (t :: rest))
  | .flowValue, .value => flowNodeOr [.comma, .closeMap] tasks rest
  | .flowValue, _ => Step.tellAbsent t.start tasks (t :: rest)
  | .noValue, _ => Step.tellAbsent t.start tasks (t :: rest)

/-- Goes on with all tasks, with the events so far in reverse. -/
def tellOn (handles : Handles) (lack : Option Fault) :
    Nat → List Event → List Task → List Token → EventText
  | 0, done, _, ts => ⟨done.reverse, lack, ts⟩
  | _ + 1, done, [], ts => ⟨done.reverse, none, ts⟩
  | _ + 1, done, _ :: _, [] => ⟨done.reverse, lack, []⟩
  | steps + 1, done, task :: tasks, t :: ts =>
    match task.step handles tasks t ts with
    | .ok s => tellOn handles lack steps (s.event.toList ++ done) s.tasks s.rest
    | .error fault => ⟨done.reverse, fault.or lack, t :: ts⟩

/-- The most steps that a token takes: every step that leaves the tokens as they are ends a task,
and a token brings at most four of them. -/
def stepsForToken : Nat := 8

/-- Tells the value at the beginning of tokens. -/
def tellValue (handles : Handles) (lack : Option Fault) (ts : List Token) : EventText :=
  tellOn handles lack (stepsForToken * (ts.length + 1)) [] [.node true false] ts

/-- Reads the directives before a document: what handles stand for, and the tokens behind them.
The version may be said once, and each handle may be said once. -/
def directives (versionSaid : Bool) (handles : Handles) :
    List Token → Told (Handles × List Token)
  | [] => .error none
  | t :: rest =>
    match t.piece with
    | .directive (.version major minor) =>
      if versionSaid then Told.fail .secondVersion t none
      else if major ≠ 1 || !(minor = 1 || minor = 2) then Told.fail .foreignVersion t none
      else directives true handles rest
    | .directive (.handle name start) =>
      if (handles.lookup name).isSome then Told.fail .secondHandle t none
      else directives versionSaid ((name, start) :: handles) rest
    | _ => .ok (handles, t :: rest)

/-- Whether a piece ends a document without a value. -/
def Piece.endsDocument : Piece → Bool
  | .textEnd | .documentStart | .documentEnd | .directive _ => true
  | _ => false

/-- Tells the value behind the mark at the beginning of a document. There may be none. -/
def tellContent (handles : Handles) (lack : Option Fault) (ts : List Token) : EventText :=
  match ts with
  | [] => ⟨[], lack, []⟩
  | t :: _ =>
    if t.piece.endsDocument then ⟨[.absent t.start], none, ts⟩ else tellValue handles lack ts

/-- Tells a document that begins with directives or a mark. -/
def tellMarked (lack : Option Fault) (ts : List Token) : EventText :=
  match directives false [] ts with
  | .error fault => ⟨[], fault.or lack, ts⟩
  | .ok (_, []) => ⟨[], lack, []⟩
  | .ok (handles, t :: rest) =>
    if t.piece = .documentStart then tellContent handles lack rest
    else ⟨[], some (.trouble .noDocumentStart t.start none), t :: rest⟩

/-- Tells the first document of a text, which may be empty. -/
def tellDocument (t : TokenText) : EventText :=
  match t.tokens with
  | [] => ⟨[], t.fault, []⟩
  | first :: _ =>
    match first.piece with
    | .textEnd => ⟨[.absent first.start], none, t.tokens⟩
    | .documentStart | .directive _ => tellMarked t.fault t.tokens
    | _ => tellValue [] t.fault t.tokens

/-- What is wrong with the tokens behind the first document: there should be no other. -/
def behindDocument (lack : Option Fault) : List Token → Option Fault
  | [] => lack
  | ts =>
    match ts.dropWhile fun t => t.piece = .documentEnd with
    | ⟨.textEnd, _, _⟩ :: _ => none
    | _ => some .secondDocument

end SubscriptLint.Yaml
