import Mathlib.Data.List.Basic

/-! JSON values as a deserializer gets them, and the keys that stand in them. -/

universe u

namespace ControlPlane.Serde

/-- A JSON value; an object lists its entries in the order in which its map iterates. -/
inductive Value (N : Type u) : Type u
  | null
  | bool (value : Bool)
  | number (value : N)
  | string (value : String)
  | array (values : List (Value N))
  | object (values : List (String × Value N))

class Deserialize (N : Type u) (T : Type) where
  fromValue : Value N → Except String T

namespace Value

variable {N : Type u} {key : String}

/-- Induction over a value, with the hypothesis for all values in an array or an object. -/
@[elab_as_elim]
theorem induction {motive : Value N → Prop} (null : motive .null)
    (bool : ∀ value, motive (.bool value)) (number : ∀ value, motive (.number value))
    (string : ∀ value, motive (.string value))
    (array : ∀ values, (∀ nested ∈ values, motive nested) → motive (.array values))
    (object : ∀ values : List (String × Value N), (∀ entry ∈ values, motive entry.2) →
      motive (.object values)) (value : Value N) : motive value := by
  refine @Value.rec N motive (fun values => ∀ nested ∈ values, motive nested)
    (fun values => ∀ entry ∈ values, motive entry.2) (fun entry => motive entry.2)
    null bool number string array object ?_ ?_ ?_ ?_ ?_ value
  · exact List.forall_mem_nil _
  · exact fun nested values hnested hvalues => List.forall_mem_cons.2 ⟨hnested, hvalues⟩
  · exact List.forall_mem_nil _
  · exact fun entry values hentry hvalues => List.forall_mem_cons.2 ⟨hentry, hvalues⟩
  · exact fun name nested hnested => hnested

inductive HasKey (key : String) : Value N → Prop
  | here {values : List (String × Value N)} {nested : Value N} (h : (key, nested) ∈ values) :
    HasKey key (.object values)
  | inObject {values : List (String × Value N)} {name : String} {nested : Value N}
    (h : (name, nested) ∈ values) (hkey : HasKey key nested) : HasKey key (.object values)
  | inArray {values : List (Value N)} {nested : Value N} (h : nested ∈ values)
    (hkey : HasKey key nested) : HasKey key (.array values)

def EntriesHaveKey (key : String) (values : List (String × Value N)) : Prop :=
  ∃ entry ∈ values, entry.1 = key ∨ entry.2.HasKey key

theorem hasKey_object_iff {values : List (String × Value N)} :
    (object values).HasKey key ↔ EntriesHaveKey key values := by
  constructor
  · intro h
    cases h with
    | here h => exact ⟨_, h, .inl rfl⟩
    | inObject h hkey => exact ⟨_, h, .inr hkey⟩
  · intro h
    obtain ⟨entry, hentry, hkey | hkey⟩ := h
    · subst hkey
      exact .here hentry
    · exact .inObject hentry hkey

theorem hasKey_array_iff {values : List (Value N)} :
    (array values).HasKey key ↔ ∃ nested ∈ values, nested.HasKey key := by
  constructor
  · intro h
    cases h with
    | inArray h hkey => exact ⟨_, h, hkey⟩
  · intro h
    obtain ⟨nested, hnested, hkey⟩ := h
    exact .inArray hnested hkey

theorem entriesHaveKey_cons_iff {name : String} {nested : Value N}
    {values : List (String × Value N)} :
    EntriesHaveKey key ((name, nested) :: values) ↔
      name = key ∨ nested.HasKey key ∨ EntriesHaveKey key values := by
  simp only [EntriesHaveKey, List.exists_mem_cons_iff, or_assoc]

end Value

end ControlPlane.Serde
