import SubscriptLint.Document.Yaml.Event
/-!
# YAML trees

The tree of a sequence of events, as far as they go: where they break off, the fault has its place
in the tree. Anchors are numbered in the order of the text, and an alias has to follow an anchor of
its name.
-/

namespace SubscriptLint.Yaml

/-- The numbers of the anchors so far. -/
abbrev AnchorNumbers := List (String × Nat)

/-- Gives an anchor the number of the names before it. An anchor that is given again gets a new
number and is counted once. -/
def AnchorNumbers.add (numbers : AnchorNumbers) (name : String) : AnchorNumbers :=
  (name, numbers.length) :: numbers.filter fun n => n.1 ≠ name

/-- How a value begins: with the number of its anchor and with its tag, at a mark. -/
structure Opening where
  anchor : Option Nat
  tag : Option ValueTag
  mark : Mark

/-- A value as it is written, in which other values are taken again by their numbers. -/
inductive Tree
  | scalar (opening : Opening) (text : String) (style : ScalarStyle)
  /-- A list, and why it breaks off, if it does. -/
  | list (opening : Opening) (items : List Tree) (cut : Option Fault)
  /-- Keys with their values, and why they break off, if they do. -/
  | map (opening : Opening) (entries : List (Tree × Tree)) (cut : Option Fault)
  | alias (number : Nat) (mark : Mark)
  /-- What could not be read. -/
  | broken (fault : Fault)

/-- A list or a map that has begun and not ended yet, its parts in reverse. -/
inductive Frame
  | list (opening : Opening) (done : List Tree)
  | map (opening : Opening) (done : List (Tree × Tree)) (key : Option Tree)

namespace Frame

/-- The frame with one more part. Keys and values take turns. -/
def put (part : Tree) : Frame → Frame
  | list opening done => .list opening (part :: done)
  | map opening done none => .map opening done (some part)
  | map opening done (some key) => .map opening ((key, part) :: done) none

/-- The frame as a whole value. -/
def close : Frame → Tree
  | list opening done => .list opening done.reverse none
  | map opening done _ => .map opening done.reverse none

/-- The frame as a value that breaks off. A key without a value has a broken one. -/
def cutOff (fault : Fault) : Frame → Tree
  | list opening done => .list opening done.reverse (some fault)
  | map opening done none => .map opening done.reverse (some fault)
  | map opening done (some key) =>
    .map opening ((key, .broken fault) :: done).reverse (some fault)

end Frame

/-- The tree of the frames when nothing more can be read. -/
def cutOffAll (fault : Fault) : List Frame → Tree
  | [] => .broken fault
  | f :: fs => fs.foldl (fun inner frame => (frame.put inner).cutOff fault) (f.cutOff fault)

/-- The state of putting a tree together. -/
structure Growth where
  frames : List Frame := []
  numbers : AnchorNumbers := []
  /-- The outermost value, if it is complete. -/
  root : Option Tree := none

namespace Growth

/-- The state with a value begun, and its opening. -/
def opened (s : Growth) (p : Properties) (mark : Mark) : Opening × Growth :=
  let numbers := match p.anchor with
    | some name => s.numbers.add name
    | none => s.numbers
  (⟨p.anchor.bind fun name => numbers.lookup name, p.tag, mark⟩, { s with numbers := numbers })

/-- The state with a value put into the innermost frame. Without one it is the outermost value. -/
def put (s : Growth) (value : Tree) : Growth :=
  match s.frames with
  | [] => { s with root := some value }
  | f :: fs => { s with frames := f.put value :: fs }

/-- The state behind an event, or what is wrong with it. -/
def step (s : Growth) (e : Event) : Except Fault Growth :=
  match e.happening with
  | .scalar p text style =>
    let (opening, s) := s.opened p e.mark
    .ok (s.put (.scalar opening text style))
  | .listStart p =>
    let (opening, s) := s.opened p e.mark
    .ok { s with frames := .list opening [] :: s.frames }
  | .mapStart p =>
    let (opening, s) := s.opened p e.mark
    .ok { s with frames := .map opening [] none :: s.frames }
  | .finish =>
    match s.frames with
    | [] => .ok s
    | f :: fs => .ok ({ s with frames := fs }.put f.close)
  | .alias name =>
    match s.numbers.lookup name with
    | some number => .ok (s.put (.alias number e.mark))
    | none => .error (.unknownAnchor e.mark)

end Growth

/-- A tree, and the number of the events that it was made of. -/
structure GrownTree where
  tree : Tree
  events : Nat

/-- The tree of events, behind which there is a fault if they break off. -/
def growOn (fault : Fault) : Nat → Growth → List Event → GrownTree
  | count, s, [] => ⟨s.root.getD (cutOffAll fault s.frames), count⟩
  | count, s, e :: es =>
    match s.step e with
    | .ok s => growOn fault (count + 1) s es
    | .error unknown => ⟨cutOffAll unknown s.frames, count⟩

/-- The tree of the events of a document. -/
def EventText.tree (t : EventText) : GrownTree :=
  growOn (t.fault.getD .secondDocument) 0 {} t.events

end SubscriptLint.Yaml
