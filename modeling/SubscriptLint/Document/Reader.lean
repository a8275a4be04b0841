import SubscriptLint.Document.Reading
/-!
# Reading values

How values of a document are taken for texts, truth values, lists, choices and records. Values are
looked at in the order of the document, so the first fault in it is the one that is reported.
-/

namespace SubscriptLint

/-- How freely the values of a document may stand for one another. -/
inductive Regime
  /-- Values are typed, and reading goes along with the text: a record may be the list of its
  fields, and a choice a map with one key. -/
  | typed
  /-- Bare words take the type that is expected of them, and nothing else stands for a record. -/
  | bare
  /-- Values are typed and were read to their end before they are looked at. -/
  | settled
  deriving DecidableEq, Repr

namespace Node

variable {α : Type}

/-- Reads a text. Any bare word is one. -/
def readText (n : Node) : Reading String := do
  let n ← n.follow
  match n.untagged with
  | .scalar (.text value) _ => return value
  | .scalar (.plain word) _ => return word
  | _ => n.mismatch .text

/-- Reads a truth value. -/
def readBool (n : Node) : Reading Bool := do
  let n ← n.follow
  match n.untagged with
  | .scalar (.bool value) _ => return value
  | .scalar (.plain word) _ =>
    match BareWord.bool? word with
    | some value => return value
    | none => n.mismatch .boolean
  | _ => n.mismatch .boolean

/-- Reads a list. A bare place without a word is the empty one. -/
def readList (item : Nat → Node → Reading α) (depth : Nat) (n : Node) : Reading (List α) := do
  let n ← n.follow
  match n.untagged with
  | .list items cut marks =>
    let inner ← Reading.enter depth marks
    let values ← items.zipIdx.mapM fun (part, i) => part.asPart (.item i) (item inner part)
    Reading.unlessCut cut values
  | .scalar (.plain "") _ => return []
  | _ => n.mismatch .sequence

/-- Reads a value that may be absent. A bare word with a tag is absent only if the tag says so. -/
def readOption (value : Node → Reading α) (n : Node) : Reading (Option α) := do
  let n ← n.follow
  match n with
  | .scalar .null _ => return none
  | .scalar (.plain word) _ =>
    if BareWord.isNull word then return none
    else return some (← value n)
  | .tagged .null (.scalar (.plain word) _) =>
    match typedBy .null (.plain word) with
    | .ok _ => return none
    | .error error => Reading.misshapen error none
  | _ => return some (← value n)

/-- Looks a variant up by its name. A name that is none is noticed at the mark. -/
def variant (variants : List (String × α)) (name : String) (mark : Option Mark) : Reading α :=
  match variants.lookup name with
  | some v => return v
  | none => Reading.misshapen (.unknownVariant name (variants.map Prod.fst)) mark

/-- Reads the name of a variant. A number counts the variants from zero. -/
def readVariant (variants : List (String × α)) (n : Node) : Reading α :=
  match n with
  | .scalar (.text name) _ => variant variants name n.seen
  | .scalar (.natural i) _ =>
    match variants[i]? with
    | some v => return v.2
    | none =>
      Reading.misshapen (.wrongValue (.integer i) (.variantNumber variants.length)) n.seen
  | _ => n.mismatch .variantName

/-- Reads what stands behind the name of a variant that has no parts: nothing, or a map without
keys where such a one is let pass. -/
def readUnit (emptyMap : Bool) (n : Node) : Reading Unit :=
  match n with
  | .scalar .null _ => return ()
  | .map [] cut _ => if emptyMap then Reading.unlessCut cut () else n.mismatch .unit
  | _ => n.mismatch .unit

/-- Reads what stands behind a tag that names a variant without parts: no value. -/
def readUnitBehindTag (n : Node) : Reading Unit :=
  match n with
  | .scalar (.plain word) marks =>
    if BareWord.isNull word then return ()
    else Reading.misshapen (.wrongValue (.text word) .nullWord) (marks.map Marks.seen)
  | .scalar (.text value) marks =>
    Reading.misshapen (.wrongValue (.text value) .nullWord) (marks.map Marks.seen)
  | _ => n.mismatch .unit

/-- Reads a choice from a value that was read to its end before it is looked at. -/
def readWholeChoice (variants : List (String × α)) (emptyMap : Bool) (n : Node) : Reading α :=
  match n with
  | .scalar (.text name) _ => variant variants name n.seen
  | .map [(key, value)] _ _ => do
    let v ← key.readVariant variants
    value.readUnit emptyMap
    return v
  | .map _ _ _ => Reading.misshapen .manyChoices n.seen
  | _ => n.mismatch .choice

/-- Reads the end of a choice that is given as a map: nothing may follow its one value. -/
def readChoiceEnd (value : Node) (rest : List (Node × Node)) (cut : Option Break) : Reading Unit :=
  match rest, cut with
  | [], none => return ()
  | [], some ⟨.json ⟨.endInMap, mark⟩, _, _, _⟩ => Reading.malformedJson .endInMap mark
  | _, _ => Reading.malformedJson .noValue (value.marks?.map Marks.behind)

/-- Reads a choice along with the text: the name of a variant, or a map with the name as its only
key. -/
def readTypedChoice (variants : List (String × α)) (depth : Nat) (n : Node) : Reading α :=
  match n with
  | .scalar (.text name) _ => variant variants name n.seen
  | .map [] none marks => do
    let _ ← Reading.enter depth marks
    Reading.malformedJson .noValue (marks.map Marks.finish)
  | .map [] (some b) marks => do
    let _ ← Reading.enter depth marks
    Reading.malformed b.chosen
  | .map ((key, value) :: rest) cut marks => do
    let _ ← Reading.enter depth marks
    let v ← key.readVariant variants
    value.readUnit false
    readChoiceEnd value rest cut
    return v
  | .unreadable cut _ => Reading.malformed cut.chosen
  | .broken cut _ => Reading.malformed cut.chosen
  | _ => Reading.malformedJson .noValue (n.marks?.map Marks.start)

/-- Reads a choice from a word that is the name of a variant, or from a tag with the name and
nothing behind it. -/
def readBareChoice (variants : List (String × α)) (n : Node) : Reading α :=
  match n with
  | .tagged (.variant name) value => do
    let v ← variant variants name none
    value.readUnitBehindTag
    return v
  | _ =>
    match n.untagged with
    | .scalar s _ => variant variants (wordsOf s).1 n.seen
    | _ => n.mismatch .variantTag

/-- Reads a choice between variants without parts. The fault of a bare one that stands elsewhere is
noticed at its alias, unless it was noticed before. -/
def readChoice (variants : List (String × α)) (regime : Regime) (depth : Nat) (n : Node) :
    Reading α := do
  let value ← n.follow
  match regime with
  | .typed => value.readTypedChoice variants depth
  | .bare => (value.readBareChoice variants).withFault (·.noticedBy n.aliasMark)
  | .settled => value.readWholeChoice variants true

end Node

/-- A field of a record, which puts what it reads into a draft of the record. -/
structure Field (σ : Type) where
  name : String
  read : Node → σ → Reading σ
  required : Bool := false

/-- What a record is read by. -/
structure RecordShape (σ : Type) where
  /-- The name of the record in messages. -/
  name : String
  /-- What is said to be expected where something else is found. -/
  expected : Expectation := .record name
  fields : List (Field σ)
  /-- Unknown fields are refused, not passed over. -/
  strict : Bool := false

namespace RecordShape

variable {σ : Type}

/-- The field that a key stands for. In settled values a number counts the fields from zero. -/
def field? (shape : RecordShape σ) (regime : Regime) (n : Node) :
    Reading (String × Option (Field σ)) := do
  let n ← n.follow
  match n.untagged, regime with
  | .scalar (.text key) _, _ => return (key, shape.fields.find? fun f => f.name = key)
  | .scalar (.plain key) _, _ => return (key, shape.fields.find? fun f => f.name = key)
  | .scalar (.natural i) _, .settled =>
    return ((shape.fields[i]?.map Field.name).getD "", shape.fields[i]?)
  | _, _ => n.mismatch .fieldName

/-- Where it is noticed that a key is no field: at the key if it is bare, or where it stands if it
stands elsewhere, else when it was left. -/
def strangeKeyMark (regime : Regime) (key : Node) : Option Mark :=
  if regime = .bare then key.target.seen else key.marks?.map Marks.behind

/-- Reads keys with their values into a draft. The names of the fields read so far are kept, and
none may come twice. -/
def readEntries (shape : RecordShape σ) (regime : Regime) :
    List (Node × Node) → List String → σ → Reading (List String × σ)
  | [], seen, draft => return (seen, draft)
  | (key, value) :: rest, seen, draft => do
    match ← shape.field? regime key with
    | (name, some field) =>
      if field.name ∈ seen then
        Reading.misshapen (.duplicateField name) (key.marks?.map Marks.behind)
      let draft ← value.asPart key.keyStep (field.read value draft)
      shape.readEntries regime rest (field.name :: seen) draft
    | (name, none) =>
      if shape.strict then
        Reading.misshapen (.unknownField name (shape.fields.map Field.name))
          (strangeKeyMark regime key)
      value.passOver
      shape.readEntries regime rest seen draft

/-- Reads values into a draft as the fields in their order. -/
def readItems (shape : RecordShape σ) (settled : Bool) (count : Nat) (cut : Option Break) :
    List (Field σ) → List (Node × Nat) → σ → Reading σ
  | field :: fields, (part, i) :: parts, draft => do
    let draft ← part.asPart (.item i) (field.read part draft)
    shape.readItems settled count cut fields parts draft
  | field :: fields, [], draft =>
    match cut with
    | some b => Reading.malformed b.read
    | none =>
      if field.required then
        Reading.misshapen (.tooShort count shape.name shape.fields.length) none
      else shape.readItems settled count cut fields [] draft
  | [], [], draft =>
    match cut with
    | some b => Reading.malformed b.closed
    | none => return draft
  | [], (part, _) :: _, _ =>
    if settled then Reading.misshapen (.tooLong count shape.fields.length) none
    else Reading.malformedJson .moreBehind (part.marks?.map Marks.start)

/-- Fails if a field is missing that is required. -/
def readMissing (shape : RecordShape σ) (seen : List String) (draft : σ) : Reading σ :=
  match shape.fields.find? fun f => f.required && !seen.contains f.name with
  | some f => Reading.misshapen (.missingField f.name) none
  | none => return draft

/-- Reads a record into a draft: from a map, from a list of its fields where the regime allows
it, or from a bare place without a word as from a map without keys. -/
def read (shape : RecordShape σ) (regime : Regime) (draft : σ) (n : Node) : Reading σ :=
  n.asWhole do
    match n.untagged, regime with
    | .map entries cut _, _ =>
      let (seen, draft) ← shape.readEntries regime entries [] draft
      Reading.unlessCut cut ()
      shape.readMissing seen draft
    | .scalar (.plain "") _, _ => shape.readMissing [] draft
    | .list _ _ _, .bare => n.mismatch shape.expected
    | .list items cut _, _ =>
      shape.readItems (regime = .settled) items.length cut shape.fields items.zipIdx draft
    | _, _ => n.mismatch shape.expected

end RecordShape

namespace Node

/-- The depth that is left inside a record. A list is none where bare words are read. -/
def enterRecord (regime : Regime) (depth : Nat) : Node → Reading Nat
  | .map _ _ marks => Reading.enter depth marks
  | .list _ _ marks => if regime = .bare then return depth else Reading.enter depth marks
  | _ => return depth

/-- Reads a record whose fields depend on the depth that is left inside it. -/
def readRecord {σ : Type} (shape : Nat → RecordShape σ) (regime : Regime) (draft : σ)
    (depth : Nat) (n : Node) : Reading σ := do
  let n ← n.follow
  let inner ← n.untagged.enterRecord regime depth
  (shape inner).read regime draft n

end Node

end SubscriptLint
