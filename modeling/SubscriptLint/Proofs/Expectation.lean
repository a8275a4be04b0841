import SubscriptLint.Inspection.Linter
import SubscriptLint.Proofs.Sites
import SubscriptLint.Proofs.Positions

/-!
# Expected problems

What a linter is expected to report about a file, read off the statements of the file, the classes
and the options. No text is searched and no table is consulted here: a problem is anchored at the
text of an expression, and positions are those behind what is written in front of it. A container
is judged by what all its candidates say, in no particular order.
-/

namespace SubscriptLint

namespace TypeNote

/-- The noted types, if nothing of them is unknown; no types otherwise. -/
def certain (n : TypeNote) : TypeSet := if n.partly then ∅ else n.types.getD ∅

/-- The types that the scope suggests; the noted types where it suggests none. -/
def suggested (n : TypeNote) : TypeSet := n.inferred.getD n.certain

end TypeNote

namespace Bearing

/-- Whether a candidate refuses subscripts. -/
def isRefusal : Bearing → Bool
  | refuses => true
  | _ => false

/-- The index types of a candidate that supports subscripts. -/
def accepted? : Bearing → Option TypeSet
  | accepts types => some types
  | _ => none

end Bearing

/-- The verdict on a container by what its candidates say. Subscripts may not be supported if one
of them refuses or none of them supports subscripts; otherwise each adds the index types that it
accepts. -/
def Catalog.judged (cat : Catalog) (types : TypeSet) : Verdict :=
  match types.candidates? with
  | none => .supported ∅
  | some candidates =>
      let bearings := candidates.members.map cat.bearing
      let sets := bearings.filterMap Bearing.accepted?
      if bearings.any Bearing.isRefusal || sets.isEmpty then .unsupported candidates
      else .supported (.ofList (sets.flatMap TypeSet.members))

namespace Site

/-- The site of the container of an access. -/
def container {α : Type} (s : Site α) (container : Expr α) : Site α :=
  ⟨s.before, s.number + 1, false, container⟩

/-- The site of the index of an access. -/
def index {α : Type} (s : Site α) (container index : Expr α) (bracket : Bracket) : Site α :=
  ⟨s.before ++ container.render ++ bracket.opening.toString, s.number + 1 + container.count, false,
    index⟩

/-- A problem about an expression. -/
def problem {α : Type} (file : String) (s : Site α) (message : String) (severity : Severity) :
    Problem where
  inspection := Subscripts.name
  message := message
  severity := severity
  file := file
  anchor := s.expr.render
  start := Position.behind s.before
  stop := Position.behind s.behind

/-- An access with its closing bracket ends with that bracket. -/
theorem behind_of_access {α : Type} {s : Site α} {n : α} {container : Expr α}
    {index : Option (Expr α)} {bracket : Bracket}
    (h : s.expr = .access n (some container) index bracket true) :
    s.behind = s.before ++ container.render ++
      (bracket.opening.toString ++ Expr.renderOption index ++ bracket.closing.toString) := by
  simp only [behind, h, Expr.render, Expr.renderOption, if_true, String.append_assoc]

/-- The text between the beginning of an access and its opening bracket. -/
def containerText {α : Type} (s : Site α) : String :=
  match s.expr with
  | .access _ container .. => Expr.renderOption container
  | _ => ""

theorem containerText_of_access {α : Type} {s : Site α} {n : α} {container : Expr α}
    {index : Option (Expr α)} {bracket : Bracket} {closed : Bool}
    (h : s.expr = .access n (some container) index bracket closed) :
    s.containerText = container.render := by
  simp only [containerText, h, Expr.renderOption]

/-- The edits that make the brackets of an access square: the opening one stands right behind the
container, the closing one is the last character. -/
def bracketEdits {α : Type} (s : Site α) : List TextEdit :=
  let opening := (s.before ++ s.containerText).utf8ByteSize
  let closing := s.behind.utf8ByteSize - 1
  [⟨⟨opening, opening + 1⟩, "["⟩, ⟨⟨closing, closing + 1⟩, "]"⟩]

/-- The problem of an access with curly brackets. -/
def bracketProblem {α : Type} (file : String) (s : Site α) : Problem :=
  { s.problem file Subscripts.useSquareBrackets .weakWarning with
    fix := some ⟨"Use [ ] for offset access", s.bracketEdits⟩ }

variable (o : Options) (cat : Catalog) (file : String)

/-- The types by which the container of an access is judged. -/
def containerTypes (s : Site TypeNote) (container : Expr TypeNote)
    (index : Option (Expr TypeNote)) : TypeSet :=
  if s.target && index.isNone && o.analyzeArrayPush then container.note.suggested
  else container.note.certain

/-- The problem of an index with types that are not accepted, if there are any. -/
def expectedOfIndex (accepted : TypeSet) (index : Site TypeNote) : List Problem :=
  let found := (index.expr.note.types.getD ∅).incompatible accepted
  if accepted.isEmpty || !o.checkIndexTypes || found.isEmpty then []
  else [index.problem file (Subscripts.invalidIndex found accepted) .warning]

/-- The problems of one expression. Only an access with a container and a closing bracket can have
any: curly brackets, or else a container without subscripts, or else an index of a wrong type. -/
def expected (s : Site TypeNote) : List Problem :=
  match s.expr with
  | .access _ (some container) index bracket true =>
      if bracket = .curly ∧ o.promoteSquareBrackets then [s.bracketProblem file]
      else
        match cat.judged (s.containerTypes o container index) with
        | .unsupported reported =>
            [s.problem file (Subscripts.noSupport container.render reported) .warning]
        | .supported accepted =>
            index.elim [] fun i => expectedOfIndex o file accepted (s.index container i bracket)
  | _ => []

/-- A problem of an expression is about an access with a container and a closing bracket: about its
curly brackets, or else a warning about the access or about its index. -/
theorem mem_expected_cases {o : Options} {cat : Catalog} {file : String} {s : Site TypeNote}
    {q : Problem} (h : q ∈ s.expected o cat file) :
    ∃ n container index bracket, s.expr = .access n (some container) index bracket true ∧
      ((bracket = .curly ∧ o.promoteSquareBrackets = true ∧ q = s.bracketProblem file) ∨
        (∃ message, q = s.problem file message .warning) ∨
        ∃ i message, index = some i ∧
          q = (s.index container i bracket).problem file message .warning) := by
  unfold expected at h
  split at h
  · next n container index bracket he =>
      refine ⟨n, container, index, bracket, he, ?_⟩
      split at h
      · next hcurly => exact .inl ⟨hcurly.1, hcurly.2, List.mem_singleton.mp h⟩
      · split at h
        · exact .inr (.inl ⟨_, List.mem_singleton.mp h⟩)
        · cases index with
          | none => cases h
          | some i =>
              simp only [Option.elim_some, expectedOfIndex] at h
              split at h
              · cases h
              · exact .inr (.inr ⟨i, _, rfl, List.mem_singleton.mp h⟩)
  · cases h

end Site

/-- The problems of a file: those of its expressions in pre-order. -/
def FileBlueprint.expected (o : Options) (cat : Catalog) (f : FileBlueprint) : List Problem :=
  f.sites.flatMap (Site.expected o cat f.path)

/-- What is reported of a file: nothing, if the inspection is left out. -/
def FileBlueprint.reported (o : Options) (cat : Catalog) (f : FileBlueprint) : List Problem :=
  if o.isEnabled Subscripts.name then f.expected o cat else []

theorem FileBlueprint.exists_site_of_mem_reported {o : Options} {cat : Catalog} {f : FileBlueprint}
    {q : Problem} (h : q ∈ f.reported o cat) : ∃ s ∈ f.sites, q ∈ s.expected o cat f.path := by
  unfold reported at h
  split at h
  · exact List.mem_flatMap.mp h
  · cases h

/-- The problems of a project, file after file. -/
def Blueprint.expected (o : Options) (b : Blueprint) : List Problem :=
  b.files.flatMap (FileBlueprint.expected o (.ofList b.classes))

end SubscriptLint
