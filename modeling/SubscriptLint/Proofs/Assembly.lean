import SubscriptLint.Proofs.InheritedSearch
import Mathlib.Data.List.Basic

/-!
# Putting catalogs together

A catalog is put together from lists of declarations, by adding single ones, and by merging in other
catalogs that were put together in the same ways. Whatever was done, it answers as the list of all
declarations in the order in which they were put in does (`Assembly.answers_as_put_in`), and of that
order only what concerns declarations of one name matters.
-/

namespace SubscriptLint

/-- The lists have the same declarations under every name, in the same order. How declarations of
different names stand to each other is left open. -/
def SameRuns (ds es : List ClassDecl) : Prop :=
  ∀ name : ClassName,
    (ds.filter fun d => d.name.key = name.key) = es.filter fun d => d.name.key = name.key

namespace SameRuns

variable {ds es : List ClassDecl}

theorem refl (ds : List ClassDecl) : SameRuns ds ds := fun _ => rfl

/-- Two declarations of different names may change places. -/
theorem swap {c d : ClassDecl} (h : c.name.key ≠ d.name.key) (ds es : List ClassDecl) :
    SameRuns (ds ++ c :: d :: es) (ds ++ d :: c :: es) := by
  intro name
  simp only [List.filter_append, List.filter_cons, decide_eq_true_eq]
  by_cases hc : c.name.key = name.key
  · have hd : d.name.key ≠ name.key := fun hd => h (hc.trans hd.symm)
    simp only [hc, hd, if_true, if_false]
  · simp only [hc, if_false]

/-- Every declaration is under its own name, so nothing is gained or lost. -/
theorem perm (h : SameRuns ds es) : ds.Perm es := by
  classical
  apply List.perm_iff_count.mpr
  intro d
  calc
    ds.count d = (ds.filter fun e => e.name.key = d.name.key).count d :=
      (List.count_filter (by simp)).symm
    _ = (es.filter fun e => e.name.key = d.name.key).count d := by rw [h d.name]
    _ = es.count d := List.count_filter (by simp)

end SameRuns

namespace Bucket

theorem filter_declarations (b : Bucket) (k : String) :
    (b.declarations.filter fun d => d.name.key = k) = if b.key = k then b.declarations else [] := by
  split
  · next h =>
      apply List.filter_eq_self.mpr
      intro d hd
      exact decide_eq_true ((key_of_mem hd).trans h)
  · next h =>
      apply List.filter_eq_nil_iff.mpr
      intro d hd heq
      exact h ((key_of_mem hd).symm.trans (of_decide_eq_true heq))

/-- The declarations of all buckets that have a key are those of its bucket. -/
theorem filter_flatMap {bs : List Bucket} (h : (bs.map key).Nodup) (k : String) :
    ((bs.flatMap declarations).filter fun d => d.name.key = k) = lookup bs k := by
  induction bs with
  | nil => rfl
  | cons b bs ih =>
      rw [List.map_cons, List.nodup_cons] at h
      rw [List.flatMap_cons, List.filter_append, filter_declarations, ih h.2, lookup_cons]
      split
      · next hk => rw [lookup_eq_nil_of_not_mem (hk ▸ h.1), List.append_nil]
      · exact List.nil_append _

end Bucket

namespace Catalog

variable {cat other : Catalog} {ds : List ClassDecl}

/-- All declarations, bucket after bucket. -/
def listing (cat : Catalog) : List ClassDecl := cat.buckets.flatMap Bucket.declarations

theorem filter_listing (cat : Catalog) (name : ClassName) :
    (cat.listing.filter fun d => d.name.key = name.key) = cat.declarations name :=
  Bucket.filter_flatMap cat.distinct name.key

theorem isEmpty_iff : cat.isEmpty = true ↔ cat.size = 0 := by
  unfold isEmpty size
  cases cat.buckets with
  | nil => simp
  | cons b bs => simp [Bucket.declarations]

/-- The catalog answers as a list of declarations does: with those of a name in their order, with
the first of them, with how many there are, and with whether there are any. -/
structure AnswersAs (cat : Catalog) (ds : List ClassDecl) : Prop where
  declarations : ∀ name, cat.declarations name = ds.filter fun d => d.name.key = name.key
  size : cat.size = ds.length
  isEmpty : cat.isEmpty = true ↔ ds = []
  get? : ∀ raw, cat.get? raw =
    (TypeName.ofText raw).className?.bind fun name => ds.find? fun d => d.name.key = name.key

/-- Two catalogs answer all questions alike. -/
structure AnswersLike (cat other : Catalog) : Prop where
  declarations : ∀ name, cat.declarations name = other.declarations name
  size : cat.size = other.size
  isEmpty : cat.isEmpty = other.isEmpty
  get? : ∀ raw, cat.get? raw = other.get? raw
  findMethod? : ∀ c method, cat.findMethod? c method = other.findMethod? c method

theorem get?_eq (cat : Catalog) (raw : String) :
    cat.get? raw = (TypeName.ofText raw).className?.bind fun name => (cat.declarations name).head? := by
  unfold get?
  cases TypeName.ofText raw <;> rfl

/-- All answers follow from the declarations of each name. -/
theorem answersAs_of_declarations
    (h : ∀ name, cat.declarations name = ds.filter fun d => d.name.key = name.key) :
    cat.AnswersAs ds := by
  have hruns : SameRuns cat.listing ds := by
    intro name
    rw [filter_listing, h name]
  have hsize : cat.size = ds.length := hruns.perm.length_eq
  refine ⟨h, hsize, ?_, ?_⟩
  · rw [isEmpty_iff, hsize, List.length_eq_zero_iff]
  · intro raw
    rw [get?_eq]
    simp only [h, List.head?_filter]

theorem answersLike_of_declarations
    (h : ∀ name, cat.declarations name = other.declarations name) : cat.AnswersLike other := by
  have hsize : cat.size = other.size := by
    have hcat : cat.AnswersAs other.listing := by
      apply answersAs_of_declarations
      intro name
      rw [h name, filter_listing]
    exact hcat.size
  refine ⟨h, hsize, ?_, ?_, ?_⟩
  · rw [Bool.eq_iff_iff, isEmpty_iff, isEmpty_iff, hsize]
  · intro raw
    rw [get?_eq, get?_eq]
    simp only [h]
  · intro c method
    unfold findMethod? searchAbove
    rw [search_eq_of_leads fun n _ => h n]

/-- Catalogs that answer as lists with the same runs answer alike. -/
theorem AnswersAs.like {es : List ClassDecl} (h : cat.AnswersAs ds) (h' : other.AnswersAs es)
    (hruns : SameRuns ds es) : cat.AnswersLike other := by
  apply answersLike_of_declarations
  intro name
  rw [h.declarations, h'.declarations, hruns name]

/-- The buckets of a merged catalog may be filed in any order. -/
theorem answersLike_of_perm {bs : List Bucket} (h : bs.Perm other.buckets) :
    (bs.foldl absorb cat).AnswersLike (cat.merge other) := by
  have hkeys : (bs.map Bucket.key).Nodup := (h.map Bucket.key).nodup_iff.mpr other.distinct
  apply answersLike_of_declarations
  intro name
  rw [declarations_foldl_absorb hkeys, declarations_merge]
  apply congrArg (cat.declarations name ++ ·)
  by_cases hmem : name.key ∈ bs.map Bucket.key
  · obtain ⟨b, hb, hk⟩ := List.mem_map.mp hmem
    rw [declarations, ← hk, Bucket.lookup_of_mem hkeys hb,
      Bucket.lookup_of_mem other.distinct (h.mem_iff.mp hb)]
  · have hmem' : name.key ∉ other.buckets.map Bucket.key := by
      rw [← (h.map Bucket.key).mem_iff]
      exact hmem
    rw [declarations, Bucket.lookup_eq_nil_of_not_mem hmem, Bucket.lookup_eq_nil_of_not_mem hmem']

end Catalog

/-- How a catalog is put together. -/
inductive Assembly
  | listed (ds : List ClassDecl)
  | adding (earlier : Assembly) (d : ClassDecl)
  | merging (earlier other : Assembly)

namespace Assembly

variable {a b : Assembly} {ds es : List ClassDecl}

/-- The catalog that comes of it. -/
def catalog : Assembly → Catalog
  | listed ds => .ofList ds
  | adding earlier d => earlier.catalog.add d
  | merging earlier other => earlier.catalog.merge other.catalog

/-- The list has all declarations in the order in which they were put in. A merged catalog
contributes its own in any order in which those of one name stand as they were put into it. -/
inductive PutIn : Assembly → List ClassDecl → Prop
  | listed (ds : List ClassDecl) : PutIn (.listed ds) ds
  | adding {a : Assembly} {ds : List ClassDecl} (ha : PutIn a ds) (d : ClassDecl) :
      PutIn (.adding a d) (ds ++ [d])
  | merging {a b : Assembly} {ds es es' : List ClassDecl} (ha : PutIn a ds) (hb : PutIn b es)
      (h : SameRuns es es') : PutIn (.merging a b) (ds ++ es')

theorem exists_putIn (a : Assembly) : ∃ ds, a.PutIn ds := by
  induction a with
  | listed ds => exact ⟨ds, .listed ds⟩
  | adding a d ih =>
      obtain ⟨ds, hds⟩ := ih
      exact ⟨_, .adding hds d⟩
  | merging a b iha ihb =>
      obtain ⟨ds, hds⟩ := iha
      obtain ⟨es, hes⟩ := ihb
      exact ⟨_, .merging hds hes (.refl es)⟩

theorem declarations_catalog (h : a.PutIn ds) (name : ClassName) :
    a.catalog.declarations name = ds.filter fun d => d.name.key = name.key := by
  induction h with
  | listed ds => exact Catalog.declarations_ofList ds name
  | adding _ d ih =>
      rw [catalog, Catalog.declarations_add, ih, List.filter_append]
      by_cases hd : d.name.key = name.key <;> simp [hd]
  | merging _ _ hruns iha ihb =>
      rw [catalog, Catalog.declarations_merge, iha, ihb, hruns name, List.filter_append]

theorem answersAs (h : a.PutIn ds) : a.catalog.AnswersAs ds :=
  Catalog.answersAs_of_declarations (declarations_catalog h)

/-- A catalog answers as the list of what was put in, however it was put together: catalogs of two
lists merged as the catalog of both lists, and all catalogs alike that agree on the order of the
declarations of each name. In which order the buckets of a merged catalog are filed does not show. -/
theorem answers_as_put_in :
    (∀ a : Assembly, (∃ ds, a.PutIn ds) ∧ ∀ ds, a.PutIn ds → a.catalog.AnswersAs ds) ∧
    (∀ ds es : List ClassDecl,
      ((Catalog.ofList ds).merge (.ofList es)).AnswersLike (.ofList (ds ++ es))) ∧
    (∀ (a b : Assembly) (ds es : List ClassDecl), a.PutIn ds → b.PutIn es → SameRuns ds es →
      a.catalog.AnswersLike b.catalog) ∧
    ∀ (cat other : Catalog) (bs : List Bucket), bs.Perm other.buckets →
      (bs.foldl Catalog.absorb cat).AnswersLike (cat.merge other) := by
  refine ⟨?_, ?_, ?_, ?_⟩
  · intro a
    exact ⟨a.exists_putIn, fun ds h => answersAs h⟩
  · intro ds es
    have hmerged : (merging (listed ds) (listed es)).PutIn (ds ++ es) :=
      .merging (.listed ds) (.listed es) (.refl es)
    exact (answersAs hmerged).like (answersAs (.listed (ds ++ es))) (.refl (ds ++ es))
  · intro a b ds es ha hb h
    exact (answersAs ha).like (answersAs hb) h
  · intro cat other bs h
    exact Catalog.answersLike_of_perm h

/-- A class that is added, and a catalog that is merged in and has a trait of the same name. -/
def mergedSample : Assembly :=
  .merging (.adding (.listed [{ name := ⟨"\\B"⟩ }]) { name := ⟨"\\A"⟩ })
    (.listed [{ name := ⟨"\\a"⟩, kind := .trait }, { name := ⟨"\\C"⟩ }])

/-- What was put in, with the declarations of the merged catalog the other way round. -/
def mergedList : List ClassDecl :=
  [{ name := ⟨"\\B"⟩ }, { name := ⟨"\\A"⟩ }, { name := ⟨"\\C"⟩ }, { name := ⟨"\\a"⟩, kind := .trait }]

/-- The catalog answers as the list does, and like one of a list in yet another order. The class was
put in before the trait, so it is the class that is found under the shared name. -/
theorem mergedSample_answers :
    mergedSample.PutIn mergedList ∧ mergedSample.catalog.AnswersAs mergedList ∧
      mergedSample.catalog.AnswersLike
        (.ofList [{ name := ⟨"\\A"⟩ }, { name := ⟨"\\B"⟩ }, { name := ⟨"\\C"⟩ },
          { name := ⟨"\\a"⟩, kind := .trait }]) ∧
      (mergedSample.catalog.buckets.reverse.foldl Catalog.absorb ∅).AnswersLike
        ((∅ : Catalog).merge mergedSample.catalog) ∧
      (mergedSample.catalog.get? " \\a").map (fun d => (d.name.text, d.kind)) =
        some ("\\A", .ordinary) := by
  have hput : mergedSample.PutIn mergedList :=
    .merging (.adding (.listed _) _) (.listed _) (.swap (by decide) [] [])
  obtain ⟨hanswers, -, hlike, hperm⟩ := answers_as_put_in
  refine ⟨hput, (hanswers _).2 _ hput, ?_, ?_, rfl⟩
  · exact hlike _ (.listed _) _ _ hput (.listed _) (.swap (by decide) [] _)
  · exact hperm _ _ _ (List.reverse_perm _)

end Assembly

end SubscriptLint
