-- SUMMARY: JSON values, and codings of types as JSON that are put together from the fields of a record.
import Mathlib.Algebra.Ring.Nat
import Mathlib.Data.List.Nodup
import Mathlib.Data.List.Lookmap

/-!
# JSON

A `Coding` writes the values of a type as JSON and reads them back. The codings
of records are put together from those of their fields in the way derived
implementations do it: a record is written as an object; it is read from an
object, whatever the order of its members and whatever else is in it, or from an
array of exactly its fields.
-/

inductive Json where
  | null
  | bool (b : Bool)
  /-- A number without fraction and exponent. -/
  | integer (n : Int)
  | decimal (literal : String)
  | string (s : String)
  | array (elements : List Json)
  | object (members : List (String × Json))

structure Coding (α : Type) where
  serialize : α → Json
  deserialize : Json → Option α

namespace Coding

variable {α β : Type}

/-- The value is read back from what is written of it. -/
def Carries (c : Coding α) (a : α) : Prop := c.deserialize (c.serialize a) = some a

/-- Whatever is read, it has the property `P`. -/
def Yields (c : Coding α) (P : α → Prop) : Prop := ∀ j a, c.deserialize j = some a → P a

theorem yields_true (c : Coding α) : c.Yields fun _ => True := fun _ _ _ => trivial

/-! ## Scalars -/

/-- Natural numbers of so many bits. -/
def unsigned (bits : Nat) : Coding Nat where
  serialize n := .integer n
  deserialize
    | .integer n => if 0 ≤ n ∧ n.toNat < 2 ^ bits then some n.toNat else none
    | _ => none

theorem unsigned_carries {bits n : Nat} (h : n < 2 ^ bits) : (unsigned bits).Carries n := by
  have hrange : 0 ≤ (n : Int) ∧ n < 2 ^ bits := ⟨Int.natCast_nonneg n, h⟩
  simp only [Carries, unsigned, Int.toNat_natCast, if_pos hrange]

theorem unsigned_yields (bits : Nat) : (unsigned bits).Yields (· < 2 ^ bits) := by
  intro j n h
  cases j with
  | integer m =>
      simp only [unsigned, Option.ite_none_right_eq_some, Option.some.injEq] at h
      obtain ⟨⟨-, hlt⟩, rfl⟩ := h
      exact hlt
  | _ => cases h

def unit : Coding Unit where
  serialize _ := .null
  deserialize
    | .null => some ()
    | _ => none

def string : Coding String where
  serialize := .string
  deserialize
    | .string s => some s
    | _ => none

theorem string_carries (s : String) : string.Carries s := rfl

/-- Nothing is written as null. -/
def option (c : Coding α) : Coding (Option α) where
  serialize
    | none => .null
    | some a => c.serialize a
  deserialize
    | .null => some none
    | j => (c.deserialize j).map some

theorem option_deserialize {c : Coding α} {j : Json} (h : j ≠ .null) :
    c.option.deserialize j = (c.deserialize j).map some := by
  cases j with
  | null => exact absurd rfl h
  | _ => rfl

theorem option_carries {c : Coding α} {o : Option α}
    (h : ∀ a, o = some a → c.serialize a ≠ .null ∧ c.Carries a) : c.option.Carries o := by
  cases o with
  | none => rfl
  | some a =>
      obtain ⟨hne, ha⟩ := h a rfl
      have hread : c.deserialize (c.serialize a) = some a := ha
      exact (option_deserialize hne).trans (by rw [hread, Option.map_some])

/-- A type with only one field is written as that field. -/
def wrap (c : Coding α) (f : α → β) (g : β → α) : Coding β where
  serialize b := c.serialize (g b)
  deserialize j := (c.deserialize j).map f

theorem wrap_carries {c : Coding α} {f : α → β} {g : β → α} {b : β} (h : c.Carries (g b))
    (hfg : f (g b) = b) : (c.wrap f g).Carries b := by
  simp only [Carries, wrap]
  rw [h, Option.map_some, hfg]

/-- A variant without fields is written as its name. It is read from its name, or
from an object with that one member. -/
def variants (name : α → String) (ofName : String → Option α) : Coding α where
  serialize a := .string (name a)
  deserialize
    | .string s => ofName s
    | .object [(s, .null)] => ofName s
    | _ => none

end Coding

/-! ## Records -/

/-- The fields of a record. They are read from what was found under their names. -/
structure Fields (α : Type) where
  names : List String
  serialize : α → List Json
  deserialize : List (Option Json) → Option α

namespace Fields

variable {α β : Type}

/-- The fields of the value are read back from what is written of them. -/
structure Carries (fs : Fields α) (a : α) : Prop where
  length : (fs.serialize a).length = fs.names.length
  deserialize : fs.deserialize ((fs.serialize a).map some) = some a

/-- Whatever is read, it has the property `P`. -/
def Yields (fs : Fields α) (P : α → Prop) : Prop := ∀ found a, fs.deserialize found = some a → P a

theorem yields_true (fs : Fields α) : fs.Yields fun _ => True := fun _ _ _ => trivial

def nil : Fields Unit where
  names := []
  serialize _ := []
  deserialize
    | [] => some ()
    | _ => none

/-- One more field. `absent` is its value if it is not found. -/
def cons (name : String) (c : Coding α) (absent : Option α) (fs : Fields β) : Fields (α × β) where
  names := name :: fs.names
  serialize ab := c.serialize ab.1 :: fs.serialize ab.2
  deserialize
    | [] => none
    | found :: rest => do
      let a ← found.elim absent c.deserialize
      let b ← fs.deserialize rest
      return (a, b)

/-- The fields of two records in one object. -/
def append (fs : Fields α) (gs : Fields β) : Fields (α × β) where
  names := fs.names ++ gs.names
  serialize ab := fs.serialize ab.1 ++ gs.serialize ab.2
  deserialize found := do
    let a ← fs.deserialize (found.take fs.names.length)
    let b ← gs.deserialize (found.drop fs.names.length)
    return (a, b)

def wrap (fs : Fields α) (f : α → β) (g : β → α) : Fields β where
  names := fs.names
  serialize b := fs.serialize (g b)
  deserialize found := (fs.deserialize found).map f

def rename (rule : String → String) (fs : Fields α) : Fields α where
  names := fs.names.map rule
  serialize := fs.serialize
  deserialize := fs.deserialize

theorem nil_carries (a : Unit) : nil.Carries a := ⟨rfl, rfl⟩

theorem cons_carries {name : String} {c : Coding α} {absent : Option α} {fs : Fields β} {a : α}
    {b : β} (ha : c.Carries a) (hb : fs.Carries b) : (cons name c absent fs).Carries (a, b) where
  length := congrArg (· + 1) hb.length
  deserialize := by
    have hread : c.deserialize (c.serialize a) = some a := ha
    simp only [cons, List.map_cons, Option.elim_some, hread, hb.deserialize, Option.bind_eq_bind,
      Option.bind_some, Option.pure_def]

theorem append_carries {fs : Fields α} {gs : Fields β} {a : α} {b : β} (ha : fs.Carries a)
    (hb : gs.Carries b) : (fs.append gs).Carries (a, b) where
  length := by simp [append, ha.length, hb.length]
  deserialize := by
    have hlength : fs.names.length = ((fs.serialize a).map some).length := by
      rw [List.length_map, ha.length]
    simp only [append, List.map_append, hlength, List.take_left, List.drop_left]
    rw [ha.deserialize, hb.deserialize]
    rfl

theorem wrap_carries {fs : Fields α} {f : α → β} {g : β → α} {b : β} (h : fs.Carries (g b))
    (hfg : f (g b) = b) : (fs.wrap f g).Carries b where
  length := h.length
  deserialize := by
    simp only [wrap]
    rw [h.deserialize, Option.map_some, hfg]

theorem rename_carries {rule : String → String} {fs : Fields α} {a : α} (h : fs.Carries a) :
    (fs.rename rule).Carries a where
  length := by simpa [rename] using h.length
  deserialize := h.deserialize

theorem cons_yields {name : String} {c : Coding α} {absent : Option α} {fs : Fields β}
    {P : α → Prop} {Q : β → Prop} (hP : c.Yields P) (habsent : ∀ a, absent = some a → P a)
    (hQ : fs.Yields Q) : (cons name c absent fs).Yields fun ab => P ab.1 ∧ Q ab.2 := by
  rintro found ⟨a, b⟩ h
  cases found with
  | nil => cases h
  | cons j rest =>
      simp only [cons, Option.bind_eq_bind, Option.bind_eq_some_iff, Option.pure_def,
        Option.some.injEq, Prod.mk.injEq] at h
      obtain ⟨_, ha, _, hb, rfl, rfl⟩ := h
      refine ⟨?_, hQ rest _ hb⟩
      cases j with
      | some j => exact hP j _ ha
      | none => exact habsent _ ha

theorem wrap_yields {fs : Fields α} {f : α → β} {g : β → α} {P : α → Prop} {Q : β → Prop}
    (h : fs.Yields P) (hPQ : ∀ a, P a → Q (f a)) : (fs.wrap f g).Yields Q := by
  intro found b hread
  obtain ⟨a, ha, rfl⟩ := Option.map_eq_some_iff.mp hread
  exact hPQ a (h found a ha)

theorem rename_yields {rule : String → String} {fs : Fields α} {P : α → Prop} (h : fs.Yields P) :
    (fs.rename rule).Yields P := h

/-- The members of an object that are named after a field. -/
def known (fs : Fields α) (members : List (String × Json)) : List (String × Json) :=
  members.filter (·.1 ∈ fs.names)

/-- Read an object in which no field occurs twice. -/
def deserializeObject (fs : Fields α) (members : List (String × Json)) : Option α :=
  if ((fs.known members).map (·.1)).Nodup then
    fs.deserialize (fs.names.map fun name => (fs.known members).lookup name)
  else none

/-- The coding of a record with these fields. -/
def struct (fs : Fields α) : Coding α where
  serialize a := .object (fs.names.zip (fs.serialize a))
  deserialize
    | .object members => fs.deserializeObject members
    | .array elements =>
      if elements.length = fs.names.length then fs.deserialize (elements.map some) else none
    | _ => none

/-- The coding of a record that contains the fields of another one. It is not read
from an array. -/
def flattened (fs : Fields α) : Coding α where
  serialize a := .object (fs.names.zip (fs.serialize a))
  deserialize
    | .object members => fs.deserializeObject members
    | _ => none

end Fields

/-! ## Reading what was written -/

theorem lookup_eq_some_of_mem {l : List (String × Json)} (hl : (l.map (·.1)).Nodup) {k : String}
    {j : Json} (h : (k, j) ∈ l) : l.lookup k = some j := by
  induction l with
  | nil => cases h
  | cons entry l ih =>
      obtain ⟨k', j'⟩ := entry
      obtain ⟨hnew, hl⟩ := List.nodup_cons.mp hl
      rcases List.mem_cons.mp h with heq | hmem
      · cases heq
        exact List.lookup_cons_self
      · have hne : k ≠ k' := by
          rintro rfl
          exact hnew (List.mem_map.mpr ⟨(k, j), hmem, rfl⟩)
        rw [List.lookup_cons, beq_eq_false_iff_ne.mpr hne]
        exact ih hl hmem

theorem mem_of_lookup_eq_some {l : List (String × Json)} {k : String} {j : Json}
    (h : l.lookup k = some j) : (k, j) ∈ l := by
  obtain ⟨l₁, l₂, rfl, -⟩ := List.lookup_eq_some_iff.mp h
  exact List.mem_append_right _ List.mem_cons_self

/-- What is found in an object does not depend on the order of its members. -/
theorem lookup_eq_of_perm {l l' : List (String × Json)} (hl : (l.map (·.1)).Nodup)
    (hperm : l.Perm l') (k : String) : l.lookup k = l'.lookup k := by
  have hl' : (l'.map (·.1)).Nodup := (hperm.map _).nodup_iff.mp hl
  cases h : l'.lookup k with
  | some j => exact lookup_eq_some_of_mem hl (hperm.mem_iff.mpr (mem_of_lookup_eq_some h))
  | none =>
      cases h' : l.lookup k with
      | none => rfl
      | some j =>
          have hsome := lookup_eq_some_of_mem hl' (hperm.mem_iff.mp (mem_of_lookup_eq_some h'))
          rw [h] at hsome
          cases hsome

theorem map_lookup_zip {names : List String} (hnames : names.Nodup) {js : List Json}
    (hlength : js.length = names.length) :
    names.map (fun name => (names.zip js).lookup name) = js.map some := by
  apply List.ext_getElem
  · rw [List.length_map, List.length_map, hlength]
  · intro i h h'
    rw [List.length_map] at h h'
    rw [List.getElem_map, List.getElem_map]
    have hkeys : (names.zip js).map (·.1) = names := List.map_fst_zip (Nat.le_of_eq hlength.symm)
    apply lookup_eq_some_of_mem (hkeys.symm ▸ hnames)
    have hi : i < (names.zip js).length := by rw [List.length_zip]; omega
    rw [← List.getElem_zip (h := hi)]
    exact List.getElem_mem hi

namespace Fields

variable {α : Type} {fs : Fields α}

theorem known_zip (js : List Json) : fs.known (fs.names.zip js) = fs.names.zip js := by
  apply List.filter_eq_self.mpr
  rintro ⟨name, j⟩ hmem
  exact decide_eq_true (List.of_mem_zip hmem).1

theorem deserializeObject_serialize (hnames : fs.names.Nodup) {a : α} (h : fs.Carries a) :
    fs.deserializeObject (fs.names.zip (fs.serialize a)) = some a := by
  have hkeys : (fs.names.zip (fs.serialize a)).map (·.1) = fs.names :=
    List.map_fst_zip (Nat.le_of_eq h.length.symm)
  rw [deserializeObject, known_zip, hkeys, if_pos hnames, map_lookup_zip hnames h.length,
    h.deserialize]

theorem struct_carries (hnames : fs.names.Nodup) {a : α} (h : fs.Carries a) :
    fs.struct.Carries a :=
  deserializeObject_serialize hnames h

/-- Objects with the same known members, in any order and among any others, are read
as the same record. -/
theorem deserializeObject_of_perm {members members' : List (String × Json)}
    (h : (fs.known members).Perm (fs.known members')) :
    fs.deserializeObject members = fs.deserializeObject members' := by
  have hiff : ((fs.known members).map (·.1)).Nodup ↔ ((fs.known members').map (·.1)).Nodup :=
    (h.map _).nodup_iff
  unfold deserializeObject
  by_cases hnodup : ((fs.known members).map (·.1)).Nodup
  · rw [if_pos hnodup, if_pos (hiff.mp hnodup)]
    congr 1
    apply List.map_congr_left
    intro name _
    exact lookup_eq_of_perm hnodup h name
  · rw [if_neg hnodup, if_neg (hiff.not.mp hnodup)]

/-- The members that are named after a field are those of the value, in any order. -/
def Shows (fs : Fields α) (members : List (String × Json)) (a : α) : Prop :=
  (fs.known members).Perm (fs.names.zip (fs.serialize a))

theorem deserializeObject_of_shows (hnames : fs.names.Nodup) {members : List (String × Json)}
    {a : α} (h : fs.Carries a) (hshows : fs.Shows members a) :
    fs.deserializeObject members = some a := by
  rw [← deserializeObject_serialize hnames h]
  exact deserializeObject_of_perm (hshows.trans (.of_eq (known_zip _).symm))

theorem deserializeObject_yields {P : α → Prop} (h : fs.Yields P) {members : List (String × Json)}
    {a : α} (hread : fs.deserializeObject members = some a) : P a := by
  rw [deserializeObject] at hread
  split at hread
  · exact h _ _ hread
  · cases hread

theorem struct_yields {P : α → Prop} (h : fs.Yields P) : fs.struct.Yields P := by
  intro j a hread
  cases j with
  | object members => exact deserializeObject_yields h hread
  | array elements =>
      simp only [struct] at hread
      split at hread
      · exact h _ _ hread
      · cases hread
  | _ => cases hread

end Fields
