import SubscriptLint.Proofs.CandidateClasses
import SubscriptLint.Proofs.InheritedVerdict

/-!
# Unrelated classes

What a verdict depends on can be followed through the catalog: from the classes that the container
may be of to everything that the supertypes of their declarations lead to, over whatever cycles.
Catalogs that agree on these names find the same methods for the declarations of each of them
(`Catalog.AgreesFrom.findMethod?_eq`) and give the same verdict. So merging in classes of other
names has no influence, also if they lead to those names themselves
(`Catalog.unrelated_classes_unnoticed`).
-/

namespace SubscriptLint.Catalog

variable {cat other : Catalog} {names : List ClassName} {n : ClassName} {d : ClassDecl}

/-- The second catalog has the declarations of the first of all names that the given ones lead to
there. -/
def AgreesFrom (cat other : Catalog) (names : List ClassName) : Prop :=
  ∀ n, cat.Leads [] names n → other.declarations n = cat.declarations n

/-- A search above a declaration stays among the names that the name of the declaration leads to. -/
theorem AgreesFrom.findMethod?_eq (h : cat.AgreesFrom other names) (hn : cat.Leads [] names n)
    (hd : d ∈ cat.declarations n) (method : String) :
    other.findMethod? d method = cat.findMethod? d method := by
  have habove : other.searchAbove d method = cat.searchAbove d method :=
    search_eq_of_leads fun n' hn' => h n' (hn.of_supertypes hd hn')
  calc
    other.findMethod? d method = (d.ownMethod? method).or (other.searchAbove d method).found :=
      other.findMethod?_eq_own_or_above d method
    _ = (d.ownMethod? method).or (cat.searchAbove d method).found := by rw [habove]
    _ = cat.findMethod? d method := (cat.findMethod?_eq_own_or_above d method).symm

theorem AgreesFrom.classIndexTypes?_eq (h : cat.AgreesFrom other names)
    (hn : cat.Leads [] names n) : other.classIndexTypes? n = cat.classIndexTypes? n := by
  have htypes : (cat.declarations n).filterMap other.indexTypesOf? =
      (cat.declarations n).filterMap cat.indexTypesOf? := by
    apply List.filterMap_congr
    intro d hd
    have hfind : other.findMethod? d = cat.findMethod? d := funext (h.findMethod?_eq hn hd)
    rw [indexTypesOf?, indexTypesOf?, hfind]
  rw [classIndexTypes?, classIndexTypes?, h n hn, htypes]

/-- A container is judged the same if the catalogs agree from its classes on. -/
theorem AgreesFrom.verdict_eq {types : TypeSet} (h : cat.AgreesFrom other types.classNames) :
    other.verdict types = cat.verdict types :=
  verdict_congr fun _ hname => h.classIndexTypes?_eq (.given hname List.not_mem_nil)

/-- None of the names that the given ones lead to in the first catalog is declared in the second. -/
def Unrelated (cat added : Catalog) (names : List ClassName) : Prop :=
  ∀ n, cat.Leads [] names n → added.declarations n = []

theorem Unrelated.agreesFrom_merge {added : Catalog} (h : cat.Unrelated added names) :
    cat.AgreesFrom (cat.merge added) names := by
  intro n hn
  rw [declarations_merge, h n hn, List.append_nil]

/-- Names with keys of a closed list lead to nothing that declarations of other names declare. -/
theorem Closed.unrelated {keys : List String} {added : List ClassDecl} (hclosed : cat.Closed keys)
    (hnames : ∀ n ∈ names, n.key ∈ keys) (hadded : ∀ d ∈ added, d.name.key ∉ keys) :
    cat.Unrelated (.ofList added) names := by
  intro n hn
  rw [declarations_ofList, List.filter_eq_nil_iff]
  intro d hd hkey
  exact hadded d hd (of_decide_eq_true hkey ▸ hclosed.key_mem_of_leads hnames hn)

/-- Classes that are merged in have no influence on a container whose classes do not lead to them:
it is judged the same, down to the order of the types that are named, and every declaration on the
way has the same methods. -/
theorem unrelated_classes_unnoticed (known added : Catalog) (types : TypeSet)
    (h : known.Unrelated added types.classNames) :
    (known.merge added).verdict types = known.verdict types ∧
      ∀ n, known.Leads [] types.classNames n → ∀ d ∈ known.declarations n, ∀ method,
        (known.merge added).findMethod? d method = known.findMethod? d method := by
  constructor
  · exact h.agreesFrom_merge.verdict_eq
  · intro n hn d hd method
    exact h.agreesFrom_merge.findMethod?_eq hn hd method

/-- A class below the two that extend each other. It takes strings. -/
def bagClass : ClassDecl :=
  { name := ⟨"\\Bag"⟩, parents := [⟨"\\Lid"⟩], methods := [keyedMethod "string"] }

/-- With the class, either of the two others takes integers as before. -/
theorem ringSample_unnoticed :
    ringSample.Unrelated (.ofList [bagClass]) [⟨"\\BOX"⟩] ∧
      (ringSample.merge (.ofList [bagClass])).verdict (.ofTexts ["\\BOX"]) =
        .supported (.ofTexts ["int"]) ∧
      (ringSample.merge (.ofList [bagClass])).findMethod? lidClass "offsetGet" =
        some (keyedMethod "int") := by
  have hclosed : ringSample.Closed ["\\lid", "\\box", "\\ints"] := by decide
  have hunrelated : ringSample.Unrelated (.ofList [bagClass]) [⟨"\\BOX"⟩] :=
    hclosed.unrelated (by decide) (by decide)
  have hlid : ringSample.Leads [] [⟨"\\BOX"⟩] ⟨"\\lid"⟩ :=
    .above (d := ringBox) (.given List.mem_cons_self List.not_mem_nil) List.mem_cons_self
      List.mem_cons_self List.not_mem_nil
  have hget : ringSample.findMethod? lidClass "offsetGet" = some (keyedMethod "int") :=
    found_searchAbove_of_outcomeWithin? 5 rfl
  obtain ⟨hverdict, hmethods⟩ := unrelated_classes_unnoticed ringSample (.ofList [bagClass])
    (.ofTexts ["\\BOX"]) hunrelated
  refine ⟨hunrelated, hverdict.trans ?_, (hmethods _ hlid _ List.mem_cons_self _).trans hget⟩
  change ringSample.verdict (.ofList [.classLike ⟨"\\BOX"⟩]) = _
  rw [verdict_classLike, classIndexTypes?_ringSample rfl]
  rfl

end SubscriptLint.Catalog
