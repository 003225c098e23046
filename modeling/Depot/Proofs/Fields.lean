import Depot.Json.Decode
import Depot.Proofs.Printing

set_option autoImplicit false

/-!
# Readers that invert writers

A record is written as an object with its fields in their order, of which some may be left out. A
typed reader finds each field again, and reads every value of the domain from what it was written
as.

## Main definitions

* `Json.Encodes` — a JSON value is read as a value of the domain, also from its text.
* `Json.Fits` — the members of an object are known fields, in their order.

## Main results

* `Json.Encodes.decode_print` — a value of the domain is read back from the text that it is written
  as.
* `Json.record_object` — the fields of a record are the members of its object.
* `Json.Encodes.name`, `Json.Encodes.list`, `Json.Encodes.record` — names, lists and records are
  read as what they were written from.

## Design

The readers of the domain differ only in the fields they ask for. What is asked for is found in the
literal list of members by `simp`, with one rule for a member that is always written and one for a
member that may be left out, so the proof for a record does not repeat its fields.
-/

namespace Depot.Json

variable {α β : Type}

/-! ## Reading what was written -/

/-- The JSON value is not null and is read as `a`, also from its text. -/
structure Encodes (read : Json → Decoded α) (v : Json) (a : α) : Prop where
  textual : v.IsTextual
  ne_null : v ≠ .null
  read_eq : read v = .ok a

namespace Encodes

variable {read : Json → Decoded α} {v : Json} {a : α}

/-- **A value of the domain is read back from its text.** -/
theorem decode_print (h : Encodes read v a) : decode read (print v) = .ok a := by
  rw [decode, parse?_print h.textual]
  exact h.read_eq

/-- A text is read back. -/
lemma text (s : String) : Encodes string (.text s) s := ⟨.text s, nofun, rfl⟩

/-- A name from a fixed set is read as what it names. -/
theorem name {ofName? : String → Option α} {s : String} (h : ofName? s = some a) :
    Encodes (variant ofName?) (.text s) a :=
  ⟨.text s, nofun, by simp [variant, Json.text, h]⟩

/-- What may be null is read like the value, as that is not written as null. -/
lemma nullable_eq (h : Encodes read v a) : nullable read v = .ok (some a) := by
  cases v with
  | null => exact absurd rfl h.ne_null
  | _ =>
    simp only [nullable, h.read_eq]
    rfl

/-- A list is read item by item. -/
theorem list {write : α → Json} {xs : List α} (h : ∀ x ∈ xs, Encodes read (write x) x) :
    Encodes (Json.list read) (.arr (xs.map write)) xs := by
  refine ⟨.arr fun v hv => ?_, nofun, ?_⟩
  · obtain ⟨x, hx, rfl⟩ := List.mem_map.1 hv
    exact (h x hx).textual
  · rw [Json.list]
    induction xs with
    | nil => rfl
    | cons x xs ih =>
      rw [List.map_cons, List.mapM_cons, (h x (List.mem_cons_self ..)).read_eq,
        ih fun y hy => h y (List.mem_cons_of_mem _ hy)]
      rfl

end Encodes

/-! ## Members of an object -/

/-- The members of an object are known fields, in the order of their names. -/
structure Fits (members : List (String × Json)) (names : List String) : Prop where
  sublist : (members.map (·.1)).Sublist names
  textual : ∀ m ∈ members, m.2.IsTextual

section

variable {members : List (String × Json)} {names : List String}

/-- No members fit all fields. -/
@[simp]
lemma fits_nil (names : List String) : Fits [] names := ⟨List.nil_sublist _, nofun⟩

/-- A member of the first field fits if its value does, and the others fit the other fields. -/
@[simp]
lemma fits_cons {name : String} {v : Json} :
    Fits ((name, v) :: members) (name :: names) ↔ v.IsTextual ∧ Fits members names where
  mp h := ⟨h.textual _ (List.mem_cons_self ..), List.cons_sublist_cons.1 h.sublist,
    fun m hm => h.textual m (List.mem_cons_of_mem _ hm)⟩
  mpr h := ⟨List.cons_sublist_cons.2 h.2.sublist, List.forall_mem_cons.2 ⟨h.1, h.2.textual⟩⟩

/-- A field may be left out. -/
lemma Fits.optional {read : Json → Decoded α} {write : α → Json}
    (h : ∀ a, Encodes read (write a) a) {name : String} {x : Option α} (hf : Fits members names) :
    Fits (Json.optional name (x.map write) ++ members) (name :: names) := by
  cases x with
  | none => exact ⟨hf.sublist.cons name, hf.textual⟩
  | some a => exact fits_cons.2 ⟨(h a).textual, hf⟩

/-- The last field may be left out. -/
lemma Fits.last {read : Json → Decoded α} {write : α → Json}
    (h : ∀ a, Encodes read (write a) a) {name : String} {x : Option α} :
    Fits (Json.optional name (x.map write)) [name] := by
  simpa using Fits.optional h (fits_nil [])

/-- Known fields that are given once are collected as they are.

**Proof sketch.** By induction on the members: the first one is known, and its name is not among the
others, so it is put in front of what was collected of them. -/
lemma collect_of_nodup (h : ∀ m ∈ members, m.1 ∈ names) (hd : (members.map (·.1)).Nodup) :
    collect names (members.map fun (k, v) => (some k, v)) = .ok members := by
  induction members with
  | nil => rfl
  | cons m ms ih =>
    obtain ⟨k, v⟩ := m
    rw [List.map_cons, List.nodup_cons] at hd
    have hk : k ∈ names := h (k, v) (List.mem_cons_self ..)
    have hnew : ms.lookup k = none := by
      rw [List.lookup_eq_none_iff]
      rintro ⟨k', w⟩ hm
      have : k ≠ k' := by
        rintro rfl
        exact hd.1 (List.mem_map.2 ⟨(k, w), hm, rfl⟩)
      simpa using this
    rw [List.map_cons, collect, ih (fun m hm => h m (List.mem_cons_of_mem _ hm)) hd.2]
    simp [hk, hnew]

/-- **The fields of a record are the members of its object.** -/
theorem record_object (h : Fits members names) (hd : names.Nodup) :
    record names (.object members) = .ok ⟨members⟩ := by
  have hmem : ∀ m ∈ members, m.1 ∈ names :=
    fun m hm => h.sublist.subset (List.mem_map_of_mem hm)
  simp only [record, object, collect_of_nodup hmem (h.sublist.nodup hd)]
  rfl

/-- A record is read as what is built from its members. -/
theorem Encodes.record {build : Fields → Decoded α} {a : α} (h : Fits members names)
    (hd : names.Nodup) (hb : build ⟨members⟩ = .ok a) :
    Encodes (fun v => Json.record names v >>= build) (.object members) a where
  textual := .object h.textual
  ne_null := nofun
  read_eq := by
    rw [record_object h hd]
    exact hb

end

/-! ## Finding fields -/

attribute [simp] Fields.required Fields.orDefault Fields.orEmpty

namespace Fields

/-- A look-up finds the first member or goes on with the others. -/
@[simp]
lemma get?_cons (n m : String) (v : Json) (ms : List (String × Json)) :
    get? ⟨(m, v) :: ms⟩ n = if n = m then some v else get? ⟨ms⟩ n := by
  by_cases h : n = m
  · simp [get?, h]
  · simp [get?, List.lookup_cons, h, beq_false_of_ne h]

/-- Nothing is found among no members. -/
@[simp]
lemma get?_nil (n : String) : get? ⟨[]⟩ n = none := rfl

/-- A member that may be left out is found, or the look-up goes on with the others. -/
@[simp]
lemma get?_optional_append (n m : String) (x : Option Json) (ms : List (String × Json)) :
    get? ⟨optional m x ++ ms⟩ n = if n = m then x.or (get? ⟨ms⟩ n) else get? ⟨ms⟩ n := by
  cases x <;> simp [optional]

/-- A member that may be left out is found if it is there. -/
@[simp]
lemma get?_optional (n m : String) (x : Option Json) :
    get? ⟨optional m x⟩ n = if n = m then x else none := by
  simpa using get?_optional_append n m x []

end Fields

/-! ## Reading fields -/

/-- What was read is gone on with. -/
@[simp]
lemma ok_bind (a : α) (f : α → Decoded β) : (Except.ok a : Decoded α) >>= f = f a := rfl

/-- What was read is mapped. -/
@[simp]
lemma ok_map (a : α) (f : α → β) : f <$> (Except.ok a : Decoded α) = .ok (f a) := rfl

/-- A text is read as it is. -/
@[simp]
lemma string_text (s : String) : string (.text s) = .ok s := rfl

/-- A truth value is read as it is. -/
@[simp]
lemma boolean_bool (b : Bool) : boolean (.bool b) = .ok b := rfl

/-- What a field that may be missing or null is read as, from its member. -/
def ofMember (read : Json → Decoded α) : Option Json → Decoded (Option α)
  | none => .ok none
  | some v => nullable read v

/-- A field that may be absent is read as a member that may be absent. -/
@[simp]
lemma Fields.orNone_eq (fs : Fields) (name : String) (read : Json → Decoded α) :
    fs.orNone name read = ofMember read (fs.get? name) := by
  rw [orNone, orDefault]
  cases fs.get? name <;> rfl

/-- A field that is left out if there is no value. -/
lemma ofMember_map {read : Json → Decoded α} {write : α → Json}
    (h : ∀ a, Encodes read (write a) a) (x : Option α) :
    ofMember read (x.map write) = .ok x := by
  cases x with
  | none => rfl
  | some a => exact (h a).nullable_eq

/-- A field that is null if there is no text. -/
@[simp]
lemma ofMember_textOrNull (x : Option String) :
    ofMember string (some (textOrNull x)) = .ok x := by
  cases x with
  | none => rfl
  | some s => exact (Encodes.text s).nullable_eq

/-- A text, or null without one, can be written. -/
@[simp]
lemma textOrNull_textual (x : Option String) : (textOrNull x).IsTextual := by
  cases x with
  | none => exact .null
  | some s => exact .text s

attribute [simp] IsTextual.text IsTextual.bool

/-! ## What a reader has read -/

variable {read : Json → Decoded α}

/-- What a text is read as is read from its value. -/
lemma exists_of_decode {s : String} {a : α} (h : decode read s = .ok a) :
    ∃ v, read v = .ok a := by
  unfold decode at h
  split at h
  · cases h
  · exact ⟨_, h⟩

/-- One reader after another succeeds only if both do. -/
lemma bind_eq_ok {x : Decoded α} {f : α → Decoded β} {b : β} :
    x >>= f = .ok b ↔ ∃ a, x = .ok a ∧ f a = .ok b := by
  rcases x with e | a
  · simp only [reduceCtorEq, false_and, exists_false, iff_false]
    nofun
  · simp

/-- A field with a default has it, or was read from a value. -/
lemma exists_of_orDefault {fs : Fields} {name : String} {default a : α}
    (h : fs.orDefault name default read = .ok a) : a = default ∨ ∃ v, read v = .ok a := by
  unfold Fields.orDefault at h
  split at h
  · exact .inr ⟨_, h⟩
  · cases h
    exact .inl rfl

/-- What may be null and is not was read from the value. -/
lemma of_nullable_eq_some {v : Json} {a : α} (h : nullable read v = .ok (some a)) :
    read v = .ok a := by
  unfold nullable at h
  split at h
  · cases h
  · cases hr : read v with
    | error e =>
      rw [hr] at h
      cases h
    | ok b =>
      rw [hr] at h
      cases h
      rfl

/-- A field that is not absent was read from a value. -/
lemma exists_of_orNone {fs : Fields} {name : String} {a : α}
    (h : fs.orNone name read = .ok (some a)) : ∃ v, read v = .ok a := by
  rcases exists_of_orDefault h with h | ⟨v, hv⟩
  · cases h
  · exact ⟨v, of_nullable_eq_some hv⟩

/-- Every item of a list was read.

**Proof sketch.** By induction on the items: the first one was read, and so were the others. -/
lemma exists_of_list {v : Json} {xs : List α} (h : list read v = .ok xs) :
    ∀ x ∈ xs, ∃ w, read w = .ok x := by
  unfold list at h
  split at h
  · next items =>
    induction items generalizing xs with
    | nil =>
      cases h
      nofun
    | cons w items ih =>
      rw [List.mapM_cons] at h
      obtain ⟨y, hy, h⟩ := bind_eq_ok.1 h
      obtain ⟨ys, hys, h⟩ := bind_eq_ok.1 h
      cases h
      rintro x (- | ⟨_, hx⟩)
      · exact ⟨w, hy⟩
      · exact ih hys x hx
  · cases h

end Depot.Json
