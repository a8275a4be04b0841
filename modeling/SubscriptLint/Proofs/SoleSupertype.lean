import SubscriptLint.Proofs.IdleNames
import SubscriptLint.Proofs.SearchRounds

/-!
# Classes below a single name

Where a class has nothing above it but one name, it has the methods of the declarations of that
name. Which one it has, if several declarations have one, depends on where they have it from
(`Catalog.findMethod?_eq_or`): of the methods that they declare themselves the first one is taken,
and of those that they inherit the last one (`Catalog.findMethod?_eq_last`), because the supertypes
of the last declaration are the first to be looked at.
-/

namespace SubscriptLint

theorem findSome?_congr {α β : Type} {f g : α → Option β} {xs : List α}
    (h : ∀ x ∈ xs, f x = g x) : xs.findSome? f = xs.findSome? g := by
  induction xs with
  | nil => rfl
  | cons x xs ih =>
      rw [List.findSome?_cons, List.findSome?_cons, h x List.mem_cons_self,
        ih fun y hy => h y (List.mem_cons_of_mem x hy)]

namespace Catalog

variable {cat : Catalog} {c : ClassDecl} {name : ClassName} {method : String}

/-- What a declaration of the name inherits is found below the name, too, where the class itself
counts as seen besides. -/
theorem found_search_supertypes (hidle : ∀ n, cat.Leads [] [name] n → n.key = c.name.key →
    cat.Idle method [name.key, c.name.key] n) {d : ClassDecl} (hd : d ∈ cat.declarations name)
    (hlacking : d.ownMethod? method = none) :
    (cat.search method [name.key, c.name.key] d.supertypes).found = cat.findMethod? d method := by
  have hname : cat.Leads [] [name] name := .given List.mem_cons_self List.not_mem_nil
  rw [findMethod?, hlacking, searchAbove, key_of_mem_declarations hd]
  apply found_search_of_idle
  · exact fun k hk => List.mem_cons.mpr (Or.inl (List.mem_singleton.mp hk))
  · intro n hn hmem
    -- The name itself is out of reach here, so it can only be the class.
    have hother : n.key ≠ name.key := List.ne_of_not_mem_cons hn.key_not_mem
    have hkey := (List.mem_cons.mp hmem).resolve_left hother
    exact hidle n (hname.of_supertypes hd hn) (List.mem_singleton.mp hkey)

/-- A class without such a method has the first one that the declarations of the only name above it
declare, or else the last one that they inherit. The class may be above itself, as long as nothing
is to be found there but the name once more. -/
theorem findMethod?_eq_or (hown : c.ownMethod? method = none) (habove : c.supertypes = [name])
    (hother : name.key ≠ c.name.key)
    (hidle : ∀ n, cat.Leads [] [name] n → n.key = c.name.key →
      cat.Idle method [name.key, c.name.key] n) :
    cat.findMethod? c method =
      ((cat.declarations name).findSome? fun d => d.ownMethod? method).or
        ((cat.declarations name).reverse.findSome? fun d => cat.findMethod? d method) := by
  have hfresh : name.key ∉ [c.name.key] := fun h => hother (List.mem_singleton.mp h)
  rw [findMethod?, hown, searchAbove, habove]
  cases hm : (cat.declarations name).findSome? fun d => d.ownMethod? method with
  | some m => rw [search_cons_of_found hfresh hm, Option.some_or]
  | none =>
      have hlacking := List.findSome?_eq_none_iff.mp hm
      rw [search_cons_of_lacking hfresh hm, Option.none_or, List.append_nil]
      change (cat.search method [name.key, c.name.key] _).found = _
      rw [found_search_flatMap]
      apply findSome?_congr
      intro d hd
      have hd := List.mem_reverse.mp hd
      exact found_search_supertypes hidle hd (hlacking d hd)

/-- The class inherits through the name: it has no such method itself and nothing above it but the
name, no declaration of the name has the method itself, and the name does not lead back to the
class. -/
structure InheritsThrough (cat : Catalog) (c : ClassDecl) (name : ClassName) (method : String) :
    Prop where
  own : c.ownMethod? method = none
  above : c.supertypes = [name]
  lacking : ∀ d ∈ cat.declarations name, d.ownMethod? method = none
  apart : ∀ n, cat.Leads [] [name] n → n.key ≠ c.name.key

/-- What is inherited through a name is what its last declaration that has the method inherits. -/
theorem findMethod?_eq_last (h : cat.InheritsThrough c name method) :
    cat.findMethod? c method =
      (cat.declarations name).reverse.findSome? fun d => cat.findMethod? d method := by
  have hother : name.key ≠ c.name.key := h.apart name (.given List.mem_cons_self List.not_mem_nil)
  rw [findMethod?_eq_or h.own h.above hother fun n hn hkey => absurd hkey (h.apart n hn)]
  rw [List.findSome?_eq_none_iff.mpr h.lacking, Option.none_or]

/-- A method that takes indexes of one type. -/
def keyedMethod (type : String) : Method := ⟨"offsetGet", [⟨"key", some (.ofTexts [type])⟩]⟩

/-- A class below a name that is declared twice. -/
def lidClass : ClassDecl := { name := ⟨"\\Lid"⟩, parents := [⟨"\\Box"⟩] }

/-- The declaration of the name that was put in first. -/
def firstBox : ClassDecl := { name := ⟨"\\Box"⟩, parents := [⟨"\\Ints"⟩] }

/-- The declaration of the name that was put in last. -/
def lastBox : ClassDecl := { name := ⟨"\\box"⟩, parents := [⟨"\\Texts"⟩] }

/-- The one declaration inherits the method for integers and the other one that for strings. -/
def boxSample : Catalog :=
  .ofList
    [firstBox, lastBox, { name := ⟨"\\Ints"⟩, methods := [keyedMethod "int"] },
      { name := ⟨"\\Texts"⟩, methods := [keyedMethod "string"] }]

theorem boxSample_inheritsThrough :
    boxSample.InheritsThrough lidClass ⟨"\\Box"⟩ "offsetGet" := by
  refine ⟨rfl, rfl, by decide, ?_⟩
  intro n hn hkey
  have hclosed : boxSample.Closed ["\\box", "\\ints", "\\texts"] := by decide
  have hmem := hclosed.key_mem_of_leads (by decide) hn
  rw [hkey] at hmem
  exact absurd hmem (by decide)

/-- The class takes strings, as the last declaration does. -/
theorem boxSample_last :
    boxSample.InheritsThrough lidClass ⟨"\\Box"⟩ "offsetGet" ∧
      boxSample.findMethod? lidClass "offsetGet" = some (keyedMethod "string") := by
  have hlast : boxSample.findMethod? lastBox "offsetGet" = some (keyedMethod "string") :=
    found_searchAbove_of_outcomeWithin? 1 rfl
  refine ⟨boxSample_inheritsThrough, ?_⟩
  rw [findMethod?_eq_last boxSample_inheritsThrough]
  change [lastBox, firstBox].findSome? (fun d => boxSample.findMethod? d "offsetGet") = _
  rw [List.findSome?_cons, hlast]

/-- What the first declaration of the name inherits is not what the class inherits. -/
theorem first_declaration_passed_over :
    ¬∀ (cat : Catalog) (c : ClassDecl) (name : ClassName) (method : String) (d : ClassDecl)
        (x : Method), cat.InheritsThrough c name method →
      (cat.declarations name).head? = some d → cat.findMethod? d method = some x →
        cat.findMethod? c method = some x := by
  intro h
  have hfirst : boxSample.findMethod? firstBox "offsetGet" = some (keyedMethod "int") :=
    found_searchAbove_of_outcomeWithin? 1 rfl
  have hlid : boxSample.findMethod? lidClass "offsetGet" = some (keyedMethod "string") :=
    found_searchAbove_of_outcomeWithin? 2 rfl
  have hsame := h boxSample lidClass ⟨"\\Box"⟩ "offsetGet" firstBox _ boxSample_inheritsThrough rfl
    hfirst
  rw [hlid] at hsame
  have htypes := congrArg (Option.map fun m => m.firstAccepted?.map TypeSet.text) hsame
  exact absurd htypes (by decide)

end Catalog

end SubscriptLint
