import Mathlib.Data.List.Basic

/-!
# Documents

Objects and arrays nested to any depth, with leaves: what is at a path of one. Text that is
parsed has no key twice in an object; lookups then find whatever is there.
-/

namespace Doc

/-- A document, its fields and elements in order. -/
inductive Value (Leaf : Type)
  | leaf (a : Leaf)
  | array (items : List (Value Leaf))
  | object (fields : List (String × Value Leaf))

inductive Step
  | key (name : String)
  | index (i : ℕ)
  deriving DecidableEq

abbrev Path := List Step

inductive Value.At {Leaf : Type} : Value Leaf → Path → Value Leaf → Prop
  | here : At t [] t
  | key : (name, child) ∈ fields → At child path t → At (.object fields) (.key name :: path) t
  | index : items[i]? = some child → At child path t → At (.array items) (.index i :: path) t

variable {Leaf : Type} {t u child : Value Leaf} {path rest : Path} {name : String} {i : ℕ}
variable {items : List (Value Leaf)} {fields : List (String × Value Leaf)}

def Value.field? (t : Value Leaf) (name : String) : Option (Value Leaf) :=
  match t with
  | .object fields => fields.lookup name
  | _ => none

/-- No object has a key twice. -/
def Value.Distinct (t : Value Leaf) : Prop :=
  ∀ path fields, t.At path (.object fields) → (fields.map Prod.fst).Nodup

-- ---------------------------------------------------------------------------
-- Lookups
-- ---------------------------------------------------------------------------

theorem mem_of_lookup {entries : List (String × α)} {a : α} (h : entries.lookup name = some a) :
    (name, a) ∈ entries := by
  obtain ⟨before, after, rfl, -⟩ := List.lookup_eq_some_iff.mp h
  simp

theorem lookup_of_mem {entries : List (String × α)} {a : α} (h : (name, a) ∈ entries)
    (hdistinct : (entries.map Prod.fst).Nodup) : entries.lookup name = some a := by
  induction entries with
  | nil => cases h
  | cons entry entries ih =>
    obtain ⟨key, b⟩ := entry
    rw [List.map_cons, List.nodup_cons] at hdistinct
    rw [List.lookup_cons]
    cases h with
    | head => simp
    | tail _ hrest =>
      have hne : name ≠ key := by
        rintro rfl
        exact hdistinct.1 (List.mem_map.mpr ⟨_, hrest, rfl⟩)
      rw [beq_eq_false_iff_ne.mpr hne]
      exact ih hrest hdistinct.2

theorem Value.field?_object (h : t.field? name = some child) :
    ∃ fields, t = .object fields ∧ (name, child) ∈ fields := by
  cases t with
  | object fields => exact ⟨fields, rfl, mem_of_lookup h⟩
  | leaf | array => cases h

-- ---------------------------------------------------------------------------
-- Paths
-- ---------------------------------------------------------------------------

theorem Value.At.trans (h : t.At path u) (h' : u.At rest child) : t.At (path ++ rest) child := by
  induction h with
  | here => exact h'
  | key hmem _ ih => exact .key hmem (ih h')
  | index hget _ ih => exact .index hget (ih h')

theorem Value.At.field (h : t.field? name = some child) : t.At [.key name] child := by
  obtain ⟨fields, rfl, hmem⟩ := Value.field?_object h
  exact .key hmem .here

theorem Value.Distinct.below (h : t.Distinct) (hat : t.At path u) : u.Distinct :=
  fun rest fields hu => h (path ++ rest) fields (hat.trans hu)

theorem Value.Distinct.lookup (h : t.Distinct) (hat : t.At path (.object fields))
    (hmem : (name, child) ∈ fields) : fields.lookup name = some child :=
  lookup_of_mem hmem (h path fields hat)

theorem Value.At.sizeOf_le [SizeOf Leaf] (h : t.At path u) : sizeOf u ≤ sizeOf t := by
  induction h with
  | here => exact Nat.le_refl _
  | key hmem _ ih =>
    have hfield := List.sizeOf_lt_of_mem hmem
    simp only [Prod.mk.sizeOf_spec] at hfield
    simp only [object.sizeOf_spec]
    omega
  | index hget _ ih =>
    have hitem := List.sizeOf_lt_of_mem (List.mem_of_getElem? hget)
    simp only [array.sizeOf_spec]
    omega

theorem Value.At.sizeOf_lt [SizeOf Leaf] (h : t.At path u) (hne : path ≠ []) :
    sizeOf u < sizeOf t := by
  cases h with
  | here => exact absurd rfl hne
  | key hmem hrest =>
    have hle := hrest.sizeOf_le
    have hfield := List.sizeOf_lt_of_mem hmem
    simp only [Prod.mk.sizeOf_spec] at hfield
    simp only [object.sizeOf_spec]
    omega
  | index hget hrest =>
    have hle := hrest.sizeOf_le
    have hitem := List.sizeOf_lt_of_mem (List.mem_of_getElem? hget)
    simp only [array.sizeOf_spec]
    omega

end Doc
