import Depot.Json.Decode

set_option autoImplicit false

/-!
# Dictionaries

Maps from texts to values, with one entry for each key and the keys in ascending order.

## Main definitions

* `Dict` — dictionaries.
* `Dict.get?`, `Dict.insert`, `Dict.erase`, `Dict.ofList` — their operations.

## Main results

* `Dict.get?_insert_self`, `Dict.get?_insert_of_ne` — a dictionary holds what was put last.
* `Dict.get?_erase_self`, `Dict.get?_erase_of_ne` — it no longer holds what was removed.
* `Dict.mem_keys_ofList` — the keys of a dictionary that is made of a list.
* `Dict.ext_get?` — a dictionary is what its keys stand for.
-/

namespace Depot

/-- A map from texts to values, kept as its entries in ascending order of their keys. -/
structure Dict (α : Type) where
  /-- The entries. -/
  entries : List (String × α)
  /-- The keys ascend. -/
  ascending : entries.Pairwise (·.1 < ·.1)

namespace Dict

variable {α : Type}

/-- The dictionary without entries. -/
def empty : Dict α := ⟨[], .nil⟩

instance : Inhabited (Dict α) := ⟨empty⟩

instance [BEq α] : BEq (Dict α) := ⟨fun a b => a.entries == b.entries⟩

/-- The value of a key. -/
def get? (d : Dict α) (key : String) : Option α := d.entries.lookup key

/-- Puts an entry into its place. -/
def insertEntry (key : String) (value : α) : List (String × α) → List (String × α)
  | [] => [(key, value)]
  | (k, v) :: rest =>
    if key < k then (key, value) :: (k, v) :: rest
    else if key = k then (key, value) :: rest
    else (k, v) :: insertEntry key value rest

/-- After an insertion there is no entry but the new one and those of before. -/
theorem mem_insertEntry {key : String} {value : α} {entries : List (String × α)}
    {e : String × α} (h : e ∈ insertEntry key value entries) : e = (key, value) ∨ e ∈ entries := by
  induction entries with
  | nil => simpa [insertEntry] using h
  | cons head rest ih =>
    obtain ⟨k, v⟩ := head
    simp only [insertEntry] at h
    split at h
    · simpa using h
    · split at h
      · rcases List.mem_cons.1 h with h | h
        · exact .inl h
        · exact .inr (List.mem_cons_of_mem _ h)
      · rcases List.mem_cons.1 h with h | h
        · exact .inr (h ▸ List.mem_cons_self)
        · exact (ih h).imp id (List.mem_cons_of_mem _)

/-- An insertion keeps the entries in ascending order of their keys.

**Proof sketch.** By induction on the entries. The new entry stands before the first larger key, and
takes the place of an equal one; behind a smaller key it is larger than that key, and so is what was
there. -/
theorem pairwise_insertEntry (key : String) (value : α) {entries : List (String × α)}
    (h : entries.Pairwise (·.1 < ·.1)) : (insertEntry key value entries).Pairwise (·.1 < ·.1) := by
  induction entries with
  | nil => simp [insertEntry]
  | cons head rest ih =>
    obtain ⟨k, v⟩ := head
    rw [List.pairwise_cons] at h
    simp only [insertEntry]
    split
    · rename_i hlt
      refine List.pairwise_cons.2 ⟨?_, List.pairwise_cons.2 h⟩
      intro e he
      rcases List.mem_cons.1 he with rfl | he
      · exact hlt
      · exact String.lt_trans hlt (h.1 e he)
    · split
      · rename_i heq
        exact List.pairwise_cons.2 ⟨fun e he => heq ▸ h.1 e he, h.2⟩
      · rename_i hlt hne
        refine List.pairwise_cons.2 ⟨?_, ih h.2⟩
        intro e he
        rcases mem_insertEntry he with rfl | he
        · rcases String.le_total key k with hle | hle
          · exact absurd (String.le_antisymm hle (String.not_lt.1 hlt)) hne
          · exact String.not_le.1 fun hle' => hne (String.le_antisymm hle' hle)
        · exact h.1 e he

/-- An entry with a new key is put between the others. -/
theorem perm_insertEntry {key : String} {entries : List (String × α)}
    (h : ∀ e ∈ entries, e.1 ≠ key) (value : α) :
    (insertEntry key value entries).Perm ((key, value) :: entries) := by
  induction entries with
  | nil => exact .refl _
  | cons head rest ih =>
    obtain ⟨k, v⟩ := head
    obtain ⟨hk, hrest⟩ := List.forall_mem_cons.1 h
    simp only [insertEntry]
    split
    · exact .refl _
    · rw [if_neg (Ne.symm hk)]
      exact ((ih hrest).cons (k, v)).trans (.swap ..)

/-- Sets the value of a key. -/
def insert (d : Dict α) (key : String) (value : α) : Dict α :=
  ⟨insertEntry key value d.entries, pairwise_insertEntry key value d.ascending⟩

/-- Removes a key. -/
def erase (d : Dict α) (key : String) : Dict α :=
  ⟨d.entries.filter (·.1 != key), d.ascending.filter _⟩

/-- The dictionary of a list of entries, of which the last one for a key counts. -/
def ofList (entries : List (String × α)) : Dict α :=
  entries.foldl (fun d (k, v) => d.insert k v) empty

/-- Whether a key has a value. -/
def contains (d : Dict α) (key : String) : Bool := (d.get? key).isSome

/-- The keys in ascending order. -/
def keys (d : Dict α) : List String := d.entries.map (·.1)

/-- A dictionary as a JSON object. -/
def toJson (encode : α → Json) (d : Dict α) : Json :=
  .object (d.entries.map fun (k, v) => (k, encode v))

/-- The key just set has the value set. -/
theorem get?_insert_self (d : Dict α) (key : String) (value : α) :
    (d.insert key value).get? key = some value := by
  simp only [get?, insert]
  induction d.entries with
  | nil => simp [insertEntry]
  | cons head rest ih =>
    obtain ⟨k, v⟩ := head
    simp only [insertEntry]
    split
    · simp
    · split
      · simp
      · rename_i hne
        rw [List.lookup_cons, beq_false_of_ne hne]
        exact ih

/-- The other keys keep their values.

**Proof sketch.** By induction on the entries: the new entry is put in front, takes the place of one
with its own key, or goes behind the first one, and a look-up of another key passes over it in each
case. -/
theorem get?_insert_of_ne (d : Dict α) {key other : String} (value : α) (h : other ≠ key) :
    (d.insert key value).get? other = d.get? other := by
  simp only [get?, insert]
  have hb : (other == key) = false := beq_false_of_ne h
  induction d.entries with
  | nil => simp [insertEntry, List.lookup_cons, hb]
  | cons head rest ih =>
    obtain ⟨k, v⟩ := head
    simp only [insertEntry]
    split
    · simp [List.lookup_cons, hb]
    · split
      · rename_i heq
        subst heq
        simp [List.lookup_cons, hb]
      · simp only [List.lookup_cons]
        split
        · rfl
        · exact ih

/-- A key that was removed has no value. -/
theorem get?_erase_self (d : Dict α) (key : String) : (d.erase key).get? key = none := by
  simp only [get?, erase]
  induction d.entries with
  | nil => rfl
  | cons head rest ih =>
    rw [List.filter_cons]
    split
    · rename_i hne
      have hb : (key == head.1) = false := beq_false_of_ne (Ne.symm (by simpa using hne))
      rw [List.lookup_cons, hb]
      exact ih
    · exact ih

/-- The other keys keep their values when one is removed. -/
theorem get?_erase_of_ne (d : Dict α) {key other : String} (h : other ≠ key) :
    (d.erase key).get? other = d.get? other := by
  simp only [get?, erase]
  induction d.entries with
  | nil => rfl
  | cons head rest ih =>
    rw [List.filter_cons]
    split
    · rw [List.lookup_cons, List.lookup_cons, ih]
    · rename_i heq
      have hb : (other == head.1) = false := by
        refine beq_false_of_ne ?_
        rw [show head.1 = key by simpa using heq]
        exact h
      rw [List.lookup_cons, hb]
      exact ih

/-- The keys are what has a value. -/
theorem mem_keys {d : Dict α} {key : String} : key ∈ d.keys ↔ (d.get? key).isSome := by
  simp only [keys, get?]
  induction d.entries with
  | nil => simp
  | cons head rest ih =>
    rw [List.map_cons, List.mem_cons, List.lookup_cons, ih]
    split
    · rename_i heq
      simp [eq_of_beq heq]
    · rename_i hne
      simp [ne_of_beq_false hne]

/-- With an entry that is set, its key is among the keys. -/
theorem mem_keys_insert {d : Dict α} {key other : String} {value : α} :
    other ∈ (d.insert key value).keys ↔ other = key ∨ other ∈ d.keys := by
  rw [mem_keys, mem_keys]
  by_cases h : other = key
  · rw [h, get?_insert_self]
    simp
  · rw [get?_insert_of_ne d value h]
    simp [h]

/-- The keys of a dictionary are those of the list that it is made of. -/
theorem mem_keys_ofList {entries : List (String × α)} {key : String} :
    key ∈ (ofList entries).keys ↔ key ∈ entries.map (·.1) := by
  suffices h : ∀ d : Dict α, key ∈ (entries.foldl (fun d (k, v) => d.insert k v) d).keys ↔
      key ∈ d.keys ∨ key ∈ entries.map (·.1) by
    rw [ofList, h]
    exact or_iff_right (List.not_mem_nil)
  induction entries with
  | nil => simp
  | cons e rest ih =>
    intro d
    rw [List.foldl_cons, ih, mem_keys_insert, List.map_cons, List.mem_cons, or_assoc,
      or_left_comm]

/-- A key below all others has no value. -/
theorem lookup_eq_none_of_lt {entries : List (String × α)} {key : String}
    (h : ∀ e ∈ entries, key < e.1) : entries.lookup key = none := by
  rw [List.lookup_eq_none_iff]
  intro e he
  simpa using String.ne_of_lt (h e he)

/-- A look-up finds the value of the first entry by its key. -/
theorem lookup_head (e : String × α) (rest : List (String × α)) :
    (e :: rest).lookup e.1 = some e.2 := List.lookup_cons_self

/-- The first key of entries that say the same is not the smaller one. -/
theorem not_lt_of_lookup_eq {d e : String × α} {a b : List (String × α)}
    (hb : ∀ x ∈ b, e.1 < x.1) (h : (d :: a).lookup d.1 = (e :: b).lookup d.1) : ¬ d.1 < e.1 := by
  intro hlt
  rw [lookup_head, lookup_eq_none_of_lt
    (List.forall_mem_cons.2 ⟨hlt, fun x hx => String.lt_trans hlt (hb x hx)⟩)] at h
  cases h

/-- Entries in ascending order follow from the values of the keys.

**Proof sketch.** By induction on both lists. Of two first keys neither is below the other, since
the list without the smaller one would not know it; the values are then what a look-up of this key
finds. A key other than the first is looked up in the rest of both lists, and the first key is in
neither rest. -/
theorem entries_ext {a b : List (String × α)} (ha : a.Pairwise (·.1 < ·.1))
    (hb : b.Pairwise (·.1 < ·.1)) (h : ∀ key, a.lookup key = b.lookup key) : a = b := by
  induction a generalizing b with
  | nil =>
    cases b with
    | nil => rfl
    | cons e b => cases (h e.1).trans (lookup_head e b)
  | cons d a ih =>
    cases b with
    | nil => cases (h d.1).symm.trans (lookup_head d a)
    | cons e b =>
      rw [List.pairwise_cons] at ha hb
      have hkey : d.1 = e.1 := String.le_antisymm
        (String.not_lt.1 (not_lt_of_lookup_eq ha.1 (h e.1).symm))
        (String.not_lt.1 (not_lt_of_lookup_eq hb.1 (h d.1)))
      have hvalue : d.2 = e.2 := by
        have hd := h d.1
        rw [lookup_head, hkey, lookup_head] at hd
        exact Option.some.inj hd
      refine List.cons_eq_cons.2 ⟨Prod.ext hkey hvalue, ih ha.2 hb.2 fun key => ?_⟩
      by_cases hk : key = d.1
      · rw [hk, lookup_eq_none_of_lt ha.1, hkey, lookup_eq_none_of_lt hb.1]
      · have hd := h key
        rwa [List.lookup_cons, beq_false_of_ne hk, List.lookup_cons,
          beq_false_of_ne (hkey ▸ hk)] at hd

/-- **A dictionary is what its keys stand for.** -/
theorem ext_get? {a b : Dict α} (h : ∀ key, a.get? key = b.get? key) : a = b := by
  obtain ⟨as, ha⟩ := a
  obtain ⟨bs, hb⟩ := b
  obtain rfl : as = bs := entries_ext ha hb h
  rfl

end Dict

end Depot
