/-!
# Side tables

Values recorded for the expressions of numbered modules. A table has a row for each module and a
slot for each expression, and grows as needed; growing loses nothing (`get?_reserve`, `get?_set`).
Numbers of expressions fit in 32 bits, and so does one more than each: `set?` refuses others.
-/

namespace SubscriptLint

/-- Rows of slots, of which some hold a value. -/
structure SideTable (α : Type) where
  rows : List (List (Option α))

namespace SideTable

variable {α : Type}

/-- The table without rows. -/
def empty : SideTable α := ⟨[]⟩

instance : EmptyCollection (SideTable α) := ⟨empty⟩
instance : Inhabited (SideTable α) := ⟨empty⟩

/-- A list with `filler` at its end until it has `n` entries at least. -/
def padTo {β : Type} (n : Nat) (filler : β) (xs : List β) : List β :=
  xs ++ List.replicate (n - xs.length) filler

/-- The table with room for `count` expressions of a module. -/
def reserve (t : SideTable α) (module count : Nat) : SideTable α :=
  ⟨(padTo (module + 1) [] t.rows).modify module (padTo count none)⟩

/-- The table with a value recorded for an expression. -/
def set (t : SideTable α) (module expr : Nat) (value : α) : SideTable α :=
  ⟨(t.reserve module (expr + 1)).rows.modify module fun row => row.set expr (some value)⟩

/-- The number from which on expressions have no slots. -/
def limit : Nat := 0xFFFFFFFF

/-- The table with a value recorded for an expression, if there can be a slot for it. -/
def set? (t : SideTable α) (module expr : Nat) (value : α) : Option (SideTable α) :=
  if expr < limit then some (t.set module expr value) else none

/-- The value recorded for an expression. -/
def get? (t : SideTable α) (module expr : Nat) : Option α :=
  (t.rows[module]?.bind fun row => row[expr]?).join

theorem join_getElem?_padTo (n : Nat) (row : List (Option α)) (i : Nat) :
    ((padTo n none row)[i]?).join = (row[i]?).join := by
  unfold padTo
  rw [List.getElem?_append]
  split
  · rfl
  · next h =>
    rw [List.getElem?_eq_none (Nat.le_of_not_lt h), List.getElem?_replicate]
    split <;> rfl

theorem getElem?_padTo_of_lt {β : Type} (n : Nat) (filler : β) (xs : List β) (i : Nat)
    (h : i < n) : (padTo n filler xs)[i]? = some (xs[i]?.getD filler) := by
  unfold padTo
  rw [List.getElem?_append]
  split
  · next hi => simp [hi]
  · next hi =>
    rw [List.getElem?_replicate, if_pos (by omega), List.getElem?_eq_none (Nat.le_of_not_lt hi)]
    rfl

/-- Rows that are not there read as empty, before and after growth. -/
theorem getD_getElem?_padTo {β : Type} (n : Nat) (filler : β) (xs : List β) (i : Nat) :
    ((padTo n filler xs)[i]?).getD filler = (xs[i]?).getD filler := by
  by_cases h : i < n
  · simp [getElem?_padTo_of_lt n filler xs i h]
  · unfold padTo
    rw [List.getElem?_append]
    split
    · rfl
    · next hi =>
      rw [List.getElem?_replicate, if_neg (by omega), List.getElem?_eq_none (Nat.le_of_not_lt hi)]

/-- A value is read from the row of its module, which is empty where there is none. -/
theorem get?_eq (t : SideTable α) (m e : Nat) :
    t.get? m e = ((t.rows[m]?.getD [])[e]?).join := by
  unfold get?
  cases t.rows[m]? <;> simp

/-- Making room changes no value. -/
theorem get?_reserve (t : SideTable α) (module count m e : Nat) :
    (t.reserve module count).get? m e = t.get? m e := by
  rw [get?_eq, get?_eq, reserve, List.getElem?_modify, ← getD_getElem?_padTo (module + 1) [] t.rows m]
  by_cases h : module = m
  · subst h
    rw [getElem?_padTo_of_lt (module + 1) [] t.rows module (Nat.lt_succ_self _)]
    simpa using join_getElem?_padTo count _ e
  · simp [h]

/-- Recording a value changes what is read at its place and nowhere else. -/
theorem get?_set (t : SideTable α) (module expr : Nat) (value : α) (m e : Nat) :
    (t.set module expr value).get? m e =
      if module = m ∧ expr = e then some value else t.get? m e := by
  rw [← get?_reserve t module (expr + 1) m e, get?_eq, get?_eq, set, List.getElem?_modify]
  by_cases hm : module = m
  · subst hm
    have hrow : (t.reserve module (expr + 1)).rows[module]? =
        some (padTo (expr + 1) none (t.rows[module]?.getD [])) := by
      rw [reserve, List.getElem?_modify,
        getElem?_padTo_of_lt (module + 1) [] t.rows module (Nat.lt_succ_self _)]
      simp
    have hlen : expr < (padTo (expr + 1) none (t.rows[module]?.getD [])).length := by
      simp only [padTo, List.length_append, List.length_replicate]
      omega
    rw [hrow]
    simp only [if_true, Option.map_eq_map, Option.map_some, Option.getD_some, List.getElem?_set]
    by_cases he : expr = e
    · subst he
      simp [hlen]
    · simp [he]
  · simp [hm]

/-- Below the limit every value can be recorded. -/
theorem set?_eq_some_iff {t u : SideTable α} {module expr : Nat} {value : α} :
    t.set? module expr value = some u ↔ expr < limit ∧ t.set module expr value = u := by
  simp [set?]

end SideTable

end SubscriptLint
