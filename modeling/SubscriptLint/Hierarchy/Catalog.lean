import SubscriptLint.Hierarchy.ClassDecl
/-!
# The class catalog

All declarations known to an analysis, filed under their names. A name may be declared more than
once; its declarations keep the order in which they were added. `declarations` is the view of a
catalog: `declarations_add`, `declarations_ofList` and `declarations_merge` say what the operations
do to it.
-/

namespace SubscriptLint

/-- The declarations of one name, of which there is at least one. -/
structure Bucket where
  first : ClassDecl
  later : List ClassDecl
  alike : ∀ d ∈ later, d.name.key = first.name.key

namespace Bucket

/-- The key of the name that is declared. -/
def key (b : Bucket) : String := b.first.name.key

/-- The declarations, oldest first. -/
def declarations (b : Bucket) : List ClassDecl := b.first :: b.later

/-- The bucket of a single declaration. -/
def single (d : ClassDecl) : Bucket := ⟨d, [], by simp⟩

/-- Both buckets in one, the declarations of the first before those of the second. -/
def append (b c : Bucket) (h : c.key = b.key) : Bucket :=
  ⟨b.first, b.later ++ c.declarations, by
    intro d hd
    rcases List.mem_append.1 hd with hd | hd
    · exact b.alike d hd
    · rcases List.mem_cons.1 hd with rfl | hd
      · exact h
      · exact (c.alike d hd).trans h⟩

@[simp] theorem key_append (b c : Bucket) (h : c.key = b.key) : (b.append c h).key = b.key := rfl

@[simp] theorem declarations_append (b c : Bucket) (h : c.key = b.key) :
    (b.append c h).declarations = b.declarations ++ c.declarations := rfl

theorem key_of_mem {b : Bucket} {d : ClassDecl} (h : d ∈ b.declarations) : d.name.key = b.key := by
  rcases List.mem_cons.1 h with rfl | h
  · rfl
  · exact b.alike d h

/-- Files a bucket among others: behind the one with its key, or else at the end. -/
def fileInto (b : Bucket) : List Bucket → List Bucket
  | [] => [b]
  | x :: xs => if h : b.key = x.key then x.append b h :: xs else x :: fileInto b xs

theorem mem_keys_fileInto {b : Bucket} {xs : List Bucket} {k : String} :
    k ∈ (b.fileInto xs).map key ↔ k = b.key ∨ k ∈ xs.map key := by
  induction xs with
  | nil => simp [fileInto]
  | cons x xs ih =>
    unfold fileInto
    split
    · next h =>
      simp only [List.map_cons, List.mem_cons, key_append, h, or_self_left]
    · simp only [List.map_cons, List.mem_cons, ih]
      exact or_left_comm

theorem nodup_fileInto {b : Bucket} {xs : List Bucket} (h : (xs.map key).Nodup) :
    ((b.fileInto xs).map key).Nodup := by
  induction xs with
  | nil => simp [fileInto]
  | cons x xs ih =>
    rw [List.map_cons, List.nodup_cons] at h
    unfold fileInto
    split
    · simpa using h
    · next hne =>
      rw [List.map_cons, List.nodup_cons]
      refine ⟨?_, ih h.2⟩
      rw [mem_keys_fileInto]
      rintro (heq | hmem)
      · exact hne heq.symm
      · exact h.1 hmem

/-- The declarations of the bucket with a key, if there is one. -/
def lookup (xs : List Bucket) (k : String) : List ClassDecl :=
  match xs.find? fun b => b.key == k with
  | some b => b.declarations
  | none => []

theorem lookup_nil (k : String) : lookup [] k = [] := rfl

theorem lookup_cons (x : Bucket) (xs : List Bucket) (k : String) :
    lookup (x :: xs) k = if x.key = k then x.declarations else lookup xs k := by
  unfold lookup
  rw [List.find?_cons]
  by_cases h : x.key = k
  · simp [h]
  · rw [if_neg h, beq_eq_false_iff_ne.2 h]

theorem lookup_eq_nil_of_not_mem {xs : List Bucket} {k : String} (h : k ∉ xs.map key) :
    lookup xs k = [] := by
  induction xs with
  | nil => rfl
  | cons x xs ih =>
    simp only [List.map_cons, List.mem_cons, not_or] at h
    rw [lookup_cons, if_neg (Ne.symm h.1), ih h.2]

/-- Where no two buckets are for one name, every bucket is found under its own. -/
theorem lookup_of_mem {xs : List Bucket} (h : (xs.map key).Nodup) {b : Bucket} (hb : b ∈ xs) :
    lookup xs b.key = b.declarations := by
  induction xs with
  | nil => simp at hb
  | cons x xs ih =>
    rw [List.map_cons, List.nodup_cons] at h
    rw [lookup_cons]
    rcases List.mem_cons.1 hb with rfl | hb
    · exact if_pos rfl
    · have hne : x.key ≠ b.key := fun heq => h.1 (heq ▸ List.mem_map_of_mem hb)
      rw [if_neg hne, ih h.2 hb]

/-- Filing a bucket puts its declarations behind those of its name and changes no other name. -/
theorem lookup_fileInto (b : Bucket) (xs : List Bucket) (k : String) :
    lookup (b.fileInto xs) k = lookup xs k ++ if b.key = k then b.declarations else [] := by
  induction xs with
  | nil => simp [fileInto, lookup_cons, lookup_nil]
  | cons x xs ih =>
    unfold fileInto
    split
    · next h =>
      rw [lookup_cons, lookup_cons, key_append, declarations_append]
      by_cases hk : x.key = k
      · simp [hk, h]
      · simp [hk, h]
    · next h =>
      rw [lookup_cons, lookup_cons, ih]
      by_cases hk : x.key = k
      · subst hk
        simp [h]
      · simp [hk]

end Bucket

/-- The known declarations. No two buckets are for one name. -/
structure Catalog where
  buckets : List Bucket
  distinct : (buckets.map Bucket.key).Nodup

namespace Catalog

/-- The catalog without declarations. -/
def empty : Catalog := ⟨[], List.nodup_nil⟩

instance : EmptyCollection Catalog := ⟨empty⟩
instance : Inhabited Catalog := ⟨empty⟩

/-- The catalog with a bucket filed. -/
def absorb (cat : Catalog) (b : Bucket) : Catalog :=
  ⟨b.fileInto cat.buckets, Bucket.nodup_fileInto cat.distinct⟩

/-- The catalog with one more declaration, the last of its name. -/
def add (cat : Catalog) (d : ClassDecl) : Catalog :=
  cat.absorb (.single d)

/-- The catalog of the listed declarations. -/
def ofList (ds : List ClassDecl) : Catalog :=
  ds.foldl add empty

/-- The catalog with all declarations of another one added behind its own. -/
def merge (cat other : Catalog) : Catalog :=
  other.buckets.foldl absorb cat

/-- The declarations of a name, oldest first. -/
def declarations (cat : Catalog) (name : ClassName) : List ClassDecl :=
  Bucket.lookup cat.buckets name.key

/-- The first declaration of the class that a raw text names. -/
def get? (cat : Catalog) (raw : String) : Option ClassDecl :=
  match TypeName.ofText raw with
  | .classLike name => (cat.declarations name).head?
  | _ => none

/-- The number of declarations. -/
def size (cat : Catalog) : Nat :=
  (cat.buckets.flatMap Bucket.declarations).length

/-- Whether there are no declarations. -/
def isEmpty (cat : Catalog) : Bool := cat.buckets.isEmpty

@[simp] theorem declarations_empty (name : ClassName) :
    (∅ : Catalog).declarations name = [] := rfl

theorem declarations_absorb (cat : Catalog) (b : Bucket) (name : ClassName) :
    (cat.absorb b).declarations name =
      cat.declarations name ++ if b.key = name.key then b.declarations else [] :=
  Bucket.lookup_fileInto b cat.buckets name.key

/-- A declaration is added behind those of its name. -/
theorem declarations_add (cat : Catalog) (d : ClassDecl) (name : ClassName) :
    (cat.add d).declarations name =
      cat.declarations name ++ if d.name.key = name.key then [d] else [] :=
  declarations_absorb cat (.single d) name

/-- A catalog lists the declarations of a name in the order in which they were put in. -/
theorem declarations_ofList (ds : List ClassDecl) (name : ClassName) :
    (ofList ds).declarations name = ds.filter fun d => d.name.key = name.key := by
  have hfold : ∀ cat : Catalog, (ds.foldl add cat).declarations name =
      cat.declarations name ++ ds.filter fun d => d.name.key = name.key := by
    induction ds with
    | nil => simp
    | cons d ds ih =>
      intro cat
      rw [List.foldl_cons, ih, declarations_add, List.filter_cons, List.append_assoc]
      by_cases h : d.name.key = name.key <;> simp [h]
  exact (hfold ∅).trans (List.nil_append _)

theorem declarations_foldl_absorb {bs : List Bucket} (h : (bs.map Bucket.key).Nodup)
    (cat : Catalog) (name : ClassName) :
    (bs.foldl absorb cat).declarations name =
      cat.declarations name ++ Bucket.lookup bs name.key := by
  induction bs generalizing cat with
  | nil => simp [Bucket.lookup_nil]
  | cons b bs ih =>
    rw [List.map_cons, List.nodup_cons] at h
    rw [List.foldl_cons, ih h.2, declarations_absorb, Bucket.lookup_cons, List.append_assoc]
    split
    · next hk =>
      rw [← hk, Bucket.lookup_eq_nil_of_not_mem h.1, List.append_nil]
    · simp

/-- Merging puts the declarations of the other catalog behind those of the first. -/
theorem declarations_merge (cat other : Catalog) (name : ClassName) :
    (cat.merge other).declarations name = cat.declarations name ++ other.declarations name :=
  declarations_foldl_absorb other.distinct cat name

/-- Whatever is declared under a name is in the bucket of that name. -/
theorem exists_bucket_of_mem_declarations {cat : Catalog} {name : ClassName} {d : ClassDecl}
    (h : d ∈ cat.declarations name) :
    ∃ b ∈ cat.buckets, b.key = name.key ∧ d ∈ b.declarations := by
  unfold declarations Bucket.lookup at h
  split at h
  · next b hb => exact ⟨b, List.mem_of_find?_eq_some hb, by simpa using List.find?_some hb, h⟩
  · simp at h

/-- Whatever is declared under a name has that name. -/
theorem key_of_mem_declarations {cat : Catalog} {name : ClassName} {d : ClassDecl}
    (h : d ∈ cat.declarations name) : d.name.key = name.key := by
  obtain ⟨b, -, hkey, hd⟩ := exists_bucket_of_mem_declarations h
  exact (Bucket.key_of_mem hd).trans hkey

end Catalog

end SubscriptLint
