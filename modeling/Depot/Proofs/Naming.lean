import Depot.Naming
import Mathlib.Data.List.Chain
import Mathlib.Data.List.DropRight

set_option autoImplicit false

/-!
# Names that are legal and never tried twice

Sanitizing leaves letters, digits and single dashes between them, but for one dash that may stand at
the end. Shortening takes that one away, so the part of a name before the random digits is legal by
itself, and so is what a dash joins to it.

The name of a storage account has room for 24 characters and no dashes. Before the random digits
stand at most 16 characters of the name of the cluster and the product, so that the digits are never
cut.

## Main definitions

* `Naming.IsLegal` — letters and digits, with single dashes between them.
* `Naming.IsUuid` — the random digits that a name ends with are taken from.
* `Naming.IsStem` — the part of a name before the random digits.
* `Naming.IsStorageName`, `Naming.IsAccountName` — what names are like.

## Main results

* `Naming.follows_sanitizeAfter`, `Naming.IsLegal.sanitize_eq` — what sanitizing leaves, and what it
  leaves as it is.
* `Naming.prefix_truncate` — nothing longer than what shortening leaves fits and ends in no dash.
* `Naming.storageName_legal`, `Naming.accountName_legal` — when there is a name, and what it is.
-/

namespace Depot.Naming

/-! ## Letters and digits -/

variable {c d : Char} {cs ds : List Char}

/-- A dash is no letter or digit. -/
lemma ne_dash (h : isNameChar c) : c ≠ '-' := by
  rintro rfl
  exact absurd h (by decide)

/-- A letter or digit of a name is one of ASCII. -/
lemma isAlphanumeric_of_isNameChar (h : isNameChar c) : isAlphanumeric c := by
  simp only [isNameChar, isAlphanumeric, Bool.or_eq_true] at h ⊢
  exact h.elim (fun hletter => .inl (.inl hletter)) .inr

/-- The letters and digits by their numbers. -/
lemma isAlphanumeric_iff : isAlphanumeric c ↔
    (97 ≤ c.toNat ∧ c.toNat ≤ 122 ∨ 65 ≤ c.toNat ∧ c.toNat ≤ 90) ∨
      48 ≤ c.toNat ∧ c.toNat ≤ 57 := by
  simp only [isAlphanumeric, Bool.or_eq_true, Bool.and_eq_true, decide_eq_true_eq, Char.le_def,
    UInt32.le_iff_toNat_le]
  rfl

/-- A letter or digit is not blank. -/
lemma isBlank_of_isAlphanumeric (h : isAlphanumeric c) : Text.isBlank c = false := by
  rw [isAlphanumeric_iff] at h
  simp [Text.isBlank]
  omega

/-- A letter or digit of a name stays when it is put in lowercase. -/
lemma lower_eq (h : isNameChar c) : lower c = c := by
  refine if_neg fun hupper => ?_
  simp only [isNameChar, Bool.or_eq_true, Bool.and_eq_true, decide_eq_true_eq, Char.le_def,
    UInt32.le_iff_toNat_le] at h hupper
  have h : 97 ≤ c.toNat ∧ c.toNat ≤ 122 ∨ 48 ≤ c.toNat ∧ c.toNat ≤ 57 := h
  have hupper : 65 ≤ c.toNat ∧ c.toNat ≤ 90 := hupper
  omega

/-! ## Legal texts -/

/-- Not both characters are dashes. -/
def Apart (c d : Char) : Prop := c ≠ '-' ∨ d ≠ '-'

/-- The text has letters in lowercase, digits and dashes only, and no two dashes stand in a row,
also not if the character stands before it. -/
structure Follows (c : Char) (cs : List Char) : Prop where
  /-- There are no other characters. -/
  chars : ∀ d ∈ cs, isNameChar d ∨ d = '-'
  /-- No two dashes stand in a row. -/
  apart : (c :: cs).IsChain Apart

/-- Letters in lowercase and digits, with single dashes between them. -/
structure IsLegal (cs : List Char) : Prop where
  /-- There are no characters but letters, digits and dashes. -/
  chars : ∀ c ∈ cs, isNameChar c ∨ c = '-'
  /-- The first is a letter or digit. -/
  first : ∃ c ∈ cs.head?, isNameChar c
  /-- So is the last. -/
  last : ∃ c ∈ cs.getLast?, isNameChar c
  /-- No two dashes stand in a row. -/
  single : ¬ ['-', '-'] <:+: cs

/-- No two dashes stand in a row if no dash is next to one. -/
lemma isChain_apart_iff : cs.IsChain Apart ↔ ¬ ['-', '-'] <:+: cs := by
  rw [List.isChain_iff_forall_rel_of_append_cons_cons]
  constructor
  · rintro h ⟨xs, ys, rfl⟩
    have happart : Apart '-' '-' := h (List.append_assoc xs ['-', '-'] ys)
    exact happart.elim (· rfl) (· rfl)
  · rintro h c d xs ys rfl
    by_contra hdash
    obtain ⟨rfl, rfl⟩ : c = '-' ∧ d = '-' := by simpa [Apart, not_or] using hdash
    exact h ⟨xs, ys, by simp⟩

/-- A legal text can stand at the start and after a dash, and ends in a letter or digit.

**Proof sketch.** The first character is a letter or digit exactly if it may stand after a dash, and
the text has no two dashes in a row exactly if neighbours are apart. -/
lemma isLegal_iff : IsLegal cs ↔ Follows '-' cs ∧ ∃ c ∈ cs.getLast?, isNameChar c := by
  constructor
  · rintro ⟨hchars, ⟨c, hc, hfirst⟩, hlast, hsingle⟩
    obtain ⟨rest, rfl⟩ := List.head?_eq_some_iff.1 hc
    have happart : Apart '-' c := .inr (ne_dash hfirst)
    exact ⟨⟨hchars, List.isChain_cons_cons.2 ⟨happart, isChain_apart_iff.2 hsingle⟩⟩, hlast⟩
  · rintro ⟨⟨hchars, hchain⟩, l, hl, hlast⟩
    cases cs with
    | nil => cases hl
    | cons c rest =>
      obtain ⟨happart, hrest⟩ := List.isChain_cons_cons.1 hchain
      have hc : c ≠ '-' := happart.resolve_left (· rfl)
      have hfirst : isNameChar c := (hchars c List.mem_cons_self).resolve_right hc
      exact ⟨hchars, ⟨c, rfl, hfirst⟩, ⟨l, hl, hlast⟩, isChain_apart_iff.1 hrest⟩

/-- A dash joins legal texts to a legal text.

**Proof sketch.** With `isLegal_iff`: the first text ends in a letter or digit, so the dash stands
apart from it, and the second text may stand after a dash. -/
lemma IsLegal.join (h : IsLegal cs) (h' : IsLegal ds) : IsLegal (cs ++ '-' :: ds) := by
  obtain ⟨hcs, c, hc, hclast⟩ := isLegal_iff.1 h
  obtain ⟨hds, d, hd, hdlast⟩ := isLegal_iff.1 h'
  have hne : ds ≠ [] := List.ne_nil_of_mem (List.mem_of_getLast? hd)
  refine isLegal_iff.2 ⟨⟨?_, ?_⟩, d, ?_, hdlast⟩
  · exact List.forall_mem_append.2 ⟨hcs.chars, List.forall_mem_cons.2 ⟨.inr rfl, hds.chars⟩⟩
  · rw [← List.cons_append, List.isChain_append]
    refine ⟨hcs.apart, hds.apart, fun x hx y hy => .inl ?_⟩
    have hcs : cs ≠ [] := List.ne_nil_of_mem (List.mem_of_getLast? hc)
    rw [List.getLast?_cons_of_ne_nil hcs] at hx
    obtain rfl : c = x := Option.mem_unique hc hx
    exact ne_dash hclast
  · rw [List.getLast?_append_of_ne_nil _ (List.cons_ne_nil _ _), List.getLast?_cons_of_ne_nil hne]
    exact hd

/-- Dashes join any number of legal texts to a legal text.

**Proof sketch.** By induction on the parts, joining the first one to a legal text. -/
lemma isLegal_intercalate {s : String} {parts : List String}
    (h : ∀ p ∈ s :: parts, IsLegal p.toList) :
    IsLegal (String.intercalate "-" (s :: parts)).toList := by
  induction parts generalizing s with
  | nil =>
    rw [String.intercalate_singleton]
    exact h s List.mem_cons_self
  | cons t parts ih =>
    obtain ⟨hs, hrest⟩ := List.forall_mem_cons.1 h
    have hjoin := hs.join (ih hrest)
    rw [String.intercalate_cons_cons, String.toList_append, String.toList_append]
    simpa using hjoin

/-! ## Sanitizing -/

/-- **What sanitizing leaves** has no dash after a dash, whichever character stands before.

**Proof sketch.** By induction on the text, with the character before it general. A letter or digit
is kept and may follow anything; any other character becomes a dash, or nothing if a dash stands
before it, and what is left follows a dash. -/
theorem follows_sanitizeAfter (c : Char) (cs : List Char) :
    Follows c (sanitizeAfter (c = '-') cs) := by
  induction cs generalizing c with
  | nil => exact ⟨List.forall_mem_nil _, List.isChain_singleton c⟩
  | cons d cs ih =>
    rw [sanitizeAfter]
    split
    · rename_i hname
      obtain ⟨hchars, happart⟩ := ih (lower d)
      rw [decide_eq_false (ne_dash hname)] at hchars happart
      refine ⟨List.forall_mem_cons.2 ⟨.inl hname, hchars⟩, ?_⟩
      exact List.isChain_cons_cons.2 ⟨.inr (ne_dash hname), happart⟩
    · have hdash := ih '-'
      rw [decide_eq_true rfl] at hdash
      split
      · rename_i hc
        obtain rfl : c = '-' := of_decide_eq_true hc
        exact hdash
      · rename_i hc
        have hc : c ≠ '-' := by simpa using hc
        refine ⟨List.forall_mem_cons.2 ⟨.inr rfl, hdash.chars⟩, ?_⟩
        exact List.isChain_cons_cons.2 ⟨.inl hc, hdash.apart⟩

/-- Sanitizing leaves a text as it is that needs no change.

**Proof sketch.** By induction on the text, along with the character before: a dash never follows a
dash, so none is dropped. -/
lemma Follows.sanitizeAfter_eq (h : Follows c cs) : sanitizeAfter (c = '-') cs = cs := by
  induction cs generalizing c with
  | nil => rfl
  | cons d cs ih =>
    obtain ⟨hd, hchars⟩ := List.forall_mem_cons.1 h.chars
    obtain ⟨hcd, happart⟩ := List.isChain_cons_cons.1 h.apart
    have hrest := ih ⟨hchars, happart⟩
    rcases hd with hname | rfl
    · rw [decide_eq_false (ne_dash hname)] at hrest
      rw [sanitizeAfter, lower_eq hname, if_pos hname, hrest]
    · have hc : c ≠ '-' := hcd.resolve_right (· rfl)
      rw [decide_eq_true rfl] at hrest
      rw [sanitizeAfter, if_neg (by decide), if_neg (by simpa using hc), hrest]

/-- Sanitizing keeps all letters and digits, in lowercase and in their order.

**Proof sketch.** By induction on the text: a letter or digit is kept, and a dash is dropped by the
filter on both sides. -/
lemma filter_sanitizeAfter (dashed : Bool) (cs : List Char) :
    (sanitizeAfter dashed cs).filter isNameChar = (cs.map lower).filter isNameChar := by
  induction cs generalizing dashed with
  | nil => rfl
  | cons c cs ih =>
    have hdash : ¬ isNameChar '-' := by decide
    rw [sanitizeAfter, List.map_cons]
    split
    · rename_i hname
      rw [List.filter_cons_of_pos hname, List.filter_cons_of_pos hname, ih]
    · rename_i hname
      rw [List.filter_cons_of_neg hname]
      split
      · exact ih true
      · rw [List.filter_cons_of_neg hdash, ih]

/-- Sanitizing leaves a legal text as it is. -/
theorem IsLegal.sanitize_eq (h : IsLegal cs) : sanitize cs = cs :=
  (isLegal_iff.1 h).1.sanitizeAfter_eq

/-- What sanitizing leaves as it is is legal if it ends in a letter or digit. -/
lemma isLegal_of_sanitize_eq (h : sanitize cs = cs) (hlast : ∃ c ∈ cs.getLast?, isNameChar c) :
    IsLegal cs := by
  have hfollows : Follows '-' (sanitize cs) := follows_sanitizeAfter '-' cs
  rw [h] at hfollows
  exact isLegal_iff.2 ⟨hfollows, hlast⟩

/-! ## Shortening -/

variable {n : Nat} {p : List Char}

/-- A shortened text is what the characters that fit begin with. -/
lemma truncate_prefix_take (n : Nat) (cs : List Char) : truncate n cs <+: cs.take n :=
  List.rdropWhile_prefix _ _

/-- A text begins with what it is shortened to. -/
lemma truncate_begins (n : Nat) (cs : List Char) : truncate n cs <+: cs :=
  (truncate_prefix_take n cs).trans (List.take_prefix n cs)

/-- A shortened text fits. -/
lemma length_truncate_le (n : Nat) (cs : List Char) : (truncate n cs).length ≤ n :=
  (truncate_prefix_take n cs).length_le.trans (List.length_take_le n cs)

/-- A shortened text does not end in a dash. -/
lemma getLast?_truncate (n : Nat) (cs : List Char) : (truncate n cs).getLast? ≠ some '-' := by
  intro hlast
  have hne : truncate n cs ≠ [] := List.ne_nil_of_mem (List.mem_of_getLast? hlast)
  have hdash := List.rdropWhile_last_not (· = '-') (cs.take n) hne
  rw [List.getLast?_eq_some_getLast hne] at hlast
  exact hdash (decide_eq_true (Option.some.inj hlast))

/-- **Nothing longer fits** that ends in no dash: what shortening takes away of the characters that
fit are dashes.

**Proof sketch.** The characters that fit are the shortened text and dashes behind it. A beginning
of them is part of the shortened text, or reaches into the dashes and then ends in one. -/
theorem prefix_truncate (hp : p <+: cs) (hlength : p.length ≤ n) (hlast : p.getLast? ≠ some '-') :
    p <+: truncate n cs := by
  have hsplit : truncate n cs ++ (cs.take n).rtakeWhile (· = '-') = cs.take n :=
    List.rdropWhile_append_rtakeWhile
  have htake : p <+: cs.take n := List.prefix_take_iff.2 ⟨hp, hlength⟩
  rcases Nat.le_total p.length (truncate n cs).length with hle | hle
  · exact List.prefix_of_prefix_length_le htake (truncate_prefix_take n cs) hle
  · obtain ⟨q, rfl⟩ := List.prefix_of_prefix_length_le (truncate_prefix_take n cs) htake hle
    rw [← hsplit, List.prefix_append_right_inj] at htake
    rcases List.eq_nil_or_concat q with rfl | ⟨q, c, rfl⟩
    · exact (List.append_nil (truncate n cs)).symm ▸ List.prefix_refl _
    · have hc : c ∈ (cs.take n).rtakeWhile (· = '-') := htake.mem (by simp)
      have hdash := List.mem_rtakeWhile_imp hc
      obtain rfl : c = '-' := of_decide_eq_true hdash
      exact absurd (by simp) hlast

/-- Shortening leaves a legal text as it is that fits. -/
lemma IsLegal.truncate_eq (h : IsLegal cs) (hlength : cs.length ≤ n) : truncate n cs = cs := by
  obtain ⟨c, hc, hname⟩ := h.last
  have hlast : cs.getLast? ≠ some '-' := fun hdash =>
    ne_dash hname (Option.mem_unique hc hdash)
  have hprefix := prefix_truncate (List.prefix_refl cs) hlength hlast
  exact (truncate_begins n cs).eq_of_length_le hprefix.length_le

/-! ## Names -/

/-- A hexadecimal digit in lowercase. -/
def isHexDigit (c : Char) : Bool := ('0' ≤ c && c ≤ '9') || ('a' ≤ c && c ≤ 'f')

/-- The text of 32 random hexadecimal digits. -/
structure IsUuid (random : List Char) : Prop where
  /-- There are 32 of them. -/
  length : random.length = 32
  /-- They are hexadecimal digits. -/
  digits : random.all isHexDigit

/-- The part of a name before the random digits, if it need not be shortened. -/
def fullStem (infra : String) (extras : List String) : List Char :=
  sanitize (String.intercalate "-" (infra :: product :: extras.filter (· ≠ ""))).toList

/-- The part of a name of at most `maxLength` characters before the random digits. -/
structure IsStem (infra : String) (extras : List String) (maxLength : Nat) (stem : List Char) :
    Prop where
  /-- There is such a part. -/
  ne_nil : stem ≠ []
  /-- It is the start of what it would be if it were not shortened. -/
  start : stem <+: fullStem infra extras
  /-- It leaves room for a dash and the digits. -/
  fits : stem.length + 13 ≤ maxLength
  /-- It does not end in a dash. -/
  last : stem.getLast? ≠ some '-'
  /-- There is no longer one. -/
  longest : ∀ p, p <+: fullStem infra extras → p.length + 13 ≤ maxLength →
    p.getLast? ≠ some '-' → p.length ≤ stem.length

variable {infra : String} {extras : List String} {maxLength : Nat} {random : List Char}

/-- Random digits may stand in a name. -/
lemma IsUuid.chars (h : IsUuid random) : ∀ c ∈ random, isNameChar c := by
  intro c hc
  have hdigit : isHexDigit c := List.all_eq_true.1 h.digits c hc
  simp only [isHexDigit, isNameChar, Bool.or_eq_true, Bool.and_eq_true, decide_eq_true_eq,
    Char.le_def, UInt32.le_iff_toNat_le] at hdigit ⊢
  have hdigit : 48 ≤ c.toNat ∧ c.toNat ≤ 57 ∨ 97 ≤ c.toNat ∧ c.toNat ≤ 102 := hdigit
  change 97 ≤ c.toNat ∧ c.toNat ≤ 122 ∨ 48 ≤ c.toNat ∧ c.toNat ≤ 57
  omega

/-- The digits at the end of a name are legal by themselves. -/
lemma IsUuid.isLegal (h : IsUuid random) : IsLegal (random.take randomLength) := by
  have hlength : (random.take randomLength).length = 12 := by
    rw [List.length_take, h.length]
    rfl
  have hname : ∀ c ∈ random.take randomLength, isNameChar c := fun c hc =>
    h.chars c (List.mem_of_mem_take hc)
  have hne : random.take randomLength ≠ [] := List.ne_nil_of_length_pos (by omega)
  refine ⟨fun c hc => .inl (hname c hc), ?_, ?_, ?_⟩
  · exact ⟨_, List.head?_eq_some_head hne, hname _ (List.head_mem hne)⟩
  · exact ⟨_, List.getLast?_eq_some_getLast hne, hname _ (List.getLast_mem hne)⟩
  · intro hdash
    exact ne_dash (hname '-' (hdash.mem List.mem_cons_self)) rfl

/-- The name of the product is found in every name. -/
lemma fullStem_ne_nil (infra : String) (extras : List String) : fullStem infra extras ≠ [] := by
  have hmem : 'i' ∈ (fullStem infra extras).filter isNameChar := by
    have htext : 'i' ∈ (String.intercalate "-"
        (infra :: product :: extras.filter (· ≠ ""))).toList := by
      cases extras.filter (· ≠ "") <;> simp [product]
    rw [fullStem, sanitize, filter_sanitizeAfter]
    exact List.mem_filter.2 ⟨List.mem_map.2 ⟨'i', htext, by decide⟩, by decide⟩
  exact List.ne_nil_of_mem (List.mem_of_mem_filter hmem)

/-- The part before the digits starts with a letter or digit, so it does not vanish when it is
shortened.

**Proof sketch.** That nothing longer fits is `prefix_truncate`. The full text begins with a letter
or digit, as it may stand after a dash; that character alone fits, so the part is not empty. It
inherits from the full text all but its last character, which is no dash. -/
lemma isStem_storageStem (h : 13 < maxLength) :
    IsStem infra extras maxLength (storageStem infra extras (maxLength - 13)) ∧
      IsLegal (storageStem infra extras (maxLength - 13)) := by
  let stem := truncate (maxLength - 13) (fullStem infra extras)
  have hstart : stem <+: fullStem infra extras := truncate_begins ..
  have hlast : stem.getLast? ≠ some '-' := getLast?_truncate _ _
  have hlongest : ∀ p, p <+: fullStem infra extras → p.length + 13 ≤ maxLength →
      p.getLast? ≠ some '-' → p.length ≤ stem.length := fun p hp hlength hdash =>
    (prefix_truncate hp (by omega) hdash).length_le
  have hfollows : Follows '-' (fullStem infra extras) := follows_sanitizeAfter '-' _
  have hne : stem ≠ [] := by
    obtain ⟨c, rest, hfull⟩ := List.exists_cons_of_ne_nil (fullStem_ne_nil infra extras)
    rw [hfull] at hfollows
    have hc : c ≠ '-' := (List.isChain_cons_cons.1 hfollows.apart).1.resolve_left (· rfl)
    have hone := hlongest [c] (hfull ▸ ⟨rest, rfl⟩) (by simp; omega) (by simpa using hc)
    exact List.ne_nil_of_length_pos hone
  have hfits : stem.length + 13 ≤ maxLength := by
    have hle : stem.length ≤ maxLength - 13 := length_truncate_le ..
    omega
  refine ⟨⟨hne, hstart, hfits, hlast, hlongest⟩, isLegal_iff.2 ⟨⟨?_, ?_⟩, ?_⟩⟩
  · exact fun c hc => hfollows.chars c (hstart.mem hc)
  · exact hfollows.apart.prefix ((List.prefix_append_right_inj ['-']).2 hstart)
  · have hl := List.getLast?_eq_some_getLast hne
    refine ⟨_, hl, (hfollows.chars _ (hstart.mem (List.getLast_mem hne))).resolve_right ?_⟩
    exact fun hdash => hlast (hl.trans (congrArg some hdash))

/-- What a name for a bucket or container is like. -/
structure IsStorageName (infra : String) (extras : List String) (maxLength : Nat)
    (random : List Char) (name : String) : Prop where
  /-- It is not too long. -/
  length : name.length ≤ maxLength
  /-- It has letters in lowercase and digits, with single dashes between them. -/
  legal : IsLegal name.toList
  /-- It ends with twelve digits, and what comes before is as long as possible. -/
  parts : ∃ stem, IsStem infra extras maxLength stem ∧ (random.take 12).length = 12 ∧
    name.toList = stem ++ '-' :: random.take 12

/-- How a name is made up, or why not.

**Proof sketch.** The two conditions are checked one after the other, and otherwise the name is put
together. -/
lemma storageName_cases (infra : String) (extras : List String) (maxLength : Nat)
    (random : List Char) :
    ((∀ c ∈ infra.toList, Text.isBlank c) ∨ maxLength ≤ 13) ∧
        (∃ e, storageName infra extras maxLength random = .error e) ∨
      ¬ ((∀ c ∈ infra.toList, Text.isBlank c) ∨ maxLength ≤ 13) ∧
        storageName infra extras maxLength random = .ok (String.ofList
          (storageStem infra extras (maxLength - 13) ++ '-' :: random.take 12)) := by
  rw [storageName]
  split
  · rename_i hblank
    exact .inl ⟨.inl (List.all_eq_true.1 hblank), _, rfl⟩
  · rename_i hblank
    split
    · rename_i hmax
      exact .inl ⟨.inr hmax, _, rfl⟩
    · rename_i hmax
      refine .inr ⟨?_, rfl⟩
      rintro (hall | hle)
      · exact hblank (List.all_eq_true.2 hall)
      · exact hmax hle

/-- The name of a bucket or container is not empty. -/
lemma storageName_ne_empty {name : String}
    (h : storageName infra extras maxLength random = .ok name) : name ≠ "" := by
  rcases storageName_cases infra extras maxLength random with ⟨-, e, he⟩ | ⟨-, hok⟩
  · cases he.symm.trans h
  · obtain rfl := Except.ok.inj (hok.symm.trans h)
    rw [ne_eq, String.ofList_eq_empty_iff]
    exact List.append_ne_nil_of_right_ne_nil _ (List.cons_ne_nil _ _)

/-- There is no name if the name of the cluster is blank or there is no room, and only then. -/
lemma exists_storageName_eq_error_iff :
    (∃ e, storageName infra extras maxLength random = .error e) ↔
      (∀ c ∈ infra.toList, Text.isBlank c) ∨ maxLength ≤ 13 := by
  rcases storageName_cases infra extras maxLength random with ⟨hfails, he⟩ | ⟨hnot, hok⟩
  · exact iff_of_true he hfails
  · refine iff_of_false ?_ hnot
    rintro ⟨e, he⟩
    cases he.symm.trans hok

/-- A name is legal, fits, and ends with its digits.

**Proof sketch.** Since the name was made up there is room for the digits, and the part before them
is legal and as long as fits (`isStem_storageStem`); the digits are legal, and are joined by a
dash. -/
lemma isStorageName_of_eq_ok (hrandom : IsUuid random) {name : String}
    (h : storageName infra extras maxLength random = .ok name) :
    IsStorageName infra extras maxLength random name := by
  rcases storageName_cases infra extras maxLength random with ⟨-, e, he⟩ | ⟨hnot, hok⟩
  · cases he.symm.trans h
  · obtain rfl := Except.ok.inj (hok.symm.trans h)
    have hroom : 13 < maxLength := Nat.not_le.1 fun hle => hnot (.inr hle)
    obtain ⟨hstem, hlegal⟩ := @isStem_storageStem infra extras _ hroom
    have hdigits : (random.take 12).length = 12 := by
      rw [List.length_take, hrandom.length]
      rfl
    constructor
    · have hfits := hstem.fits
      rw [String.length_ofList, List.length_append, List.length_cons, hdigits]
      omega
    · rw [String.toList_ofList]
      exact hlegal.join hrandom.isLegal
    · exact ⟨_, hstem, hdigits, String.toList_ofList⟩

/-- The digits can be read off a name. -/
lemma IsStorageName.digits_eq {infra' : String} {extras' : List String} {maxLength' : Nat}
    {random' : List Char} {name : String} (h : IsStorageName infra extras maxLength random name)
    (h' : IsStorageName infra' extras' maxLength' random' name) :
    random.take 12 = random'.take 12 := by
  obtain ⟨stem, -, hlength, hname⟩ := h.parts
  obtain ⟨stem', -, hlength', hname'⟩ := h'.parts
  have hsame : ('-' :: random.take 12).length = ('-' :: random'.take 12).length := by
    rw [List.length_cons, List.length_cons, hlength, hlength']
  exact List.tail_eq_of_cons_eq (List.append_inj_right' (hname.symm.trans hname') hsame)

/-- A legal text is not blank. -/
lemma IsLegal.not_blank (h : IsLegal cs) : ¬ ∀ c ∈ cs, Text.isBlank c := by
  obtain ⟨c, hc, hname⟩ := h.first
  intro hall
  have hblank := hall c (List.mem_of_head? hc)
  rw [isBlank_of_isAlphanumeric (isAlphanumeric_of_isNameChar hname)] at hblank
  cases hblank

/-- Neither the name of the cluster nor what else identifies the resource is changed if they are
legal and fit.

**Proof sketch.** Legal texts joined by dashes are legal, so sanitizing leaves them as they are;
what is legal and fits is not shortened either. -/
lemma storageStem_eq (hinfra : IsLegal infra.toList) (hextras : ∀ e ∈ extras, IsLegal e.toList)
    (hfits : (String.intercalate "-" (infra :: product :: extras)).length + 13 ≤ maxLength) :
    storageStem infra extras (maxLength - 13) =
      (String.intercalate "-" (infra :: product :: extras)).toList := by
  have hproduct : IsLegal product.toList :=
    isLegal_of_sanitize_eq (by decide +kernel) ⟨'y', by decide +kernel, by decide⟩
  have hkept : extras.filter (· ≠ "") = extras := by
    refine List.filter_eq_self.2 fun e he => decide_eq_true ?_
    rintro rfl
    obtain ⟨c, hc, -⟩ := (hextras "" he).first
    cases hc
  have hlegal := isLegal_intercalate (List.forall_mem_cons.2
    ⟨hinfra, List.forall_mem_cons.2 ⟨hproduct, hextras⟩⟩)
  rw [storageStem, hkept, hlegal.sanitize_eq]
  exact hlegal.truncate_eq (by rw [String.length_toList]; omega)

/-- What is legal already and fits is part of the name as it is.

**Proof sketch.** A legal text is not blank and the product alone takes some room, so a name is made
up; the part before the digits is the joined text (`storageStem_eq`). -/
lemma storageName_eq_intercalate (hinfra : IsLegal infra.toList)
    (hextras : ∀ e ∈ extras, IsLegal e.toList)
    (hfits : (String.intercalate "-" (infra :: product :: extras)).length + 13 ≤ maxLength) :
    storageName infra extras maxLength random = .ok (String.intercalate "-"
      (infra :: product :: extras ++ [String.ofList (random.take 12)])) := by
  rcases storageName_cases infra extras maxLength random with ⟨hblank | hle, -⟩ | ⟨-, hok⟩
  · exact absurd hblank hinfra.not_blank
  · have hdash : "-".length = 1 := rfl
    rw [String.intercalate_cons_cons, String.length_append, String.length_append] at hfits
    omega
  · rw [hok, storageStem_eq hinfra hextras hfits,
      String.intercalate_append_of_ne_nil (List.cons_ne_nil _ _) (List.cons_ne_nil _ _),
      String.intercalate_singleton, List.append_cons, String.ofList_append, String.ofList_append,
      String.ofList_toList]

/-- **A name for a bucket or container is legal and ends with all of its random digits.** There is
one unless the name of the cluster is blank or there is no room; the digits tell any two names
apart, and what is legal already is part of the name as it is.

**Proof sketch.** What sanitizing leaves is legal but for a dash at the end
(`follows_sanitizeAfter`), and has the letters of the product (`fullStem_ne_nil`). Shortening takes
that dash away and no more than it has to (`prefix_truncate`), and the digits are legal too, so that
a dash joins both (`IsLegal.join`). The last twelve characters are the digits whatever comes before
(`IsStorageName.digits_eq`). A legal text is changed neither by sanitizing nor, if it fits, by
shortening (`storageStem_eq`). -/
theorem storageName_legal (infra : String) (extras : List String) (maxLength : Nat)
    {random : List Char} (hrandom : IsUuid random) :
    ((∃ e, storageName infra extras maxLength random = .error e) ↔
      (∀ c ∈ infra.toList, Text.isBlank c) ∨ maxLength ≤ 13) ∧
    (∀ name, storageName infra extras maxLength random = .ok name →
      IsStorageName infra extras maxLength random name) ∧
    (∀ infra' extras' maxLength' random' name, IsUuid random' →
      random.take 12 ≠ random'.take 12 →
      storageName infra extras maxLength random = .ok name →
      storageName infra' extras' maxLength' random' ≠ .ok name) ∧
    (IsLegal infra.toList → (∀ e ∈ extras, IsLegal e.toList) →
      (String.intercalate "-" (infra :: "image-registry" :: extras)).length + 13 ≤ maxLength →
      storageName infra extras maxLength random = .ok (String.intercalate "-"
        (infra :: "image-registry" :: extras ++ [String.ofList (random.take 12)]))) := by
  refine ⟨exists_storageName_eq_error_iff, fun _ => isStorageName_of_eq_ok hrandom, ?_,
    storageName_eq_intercalate⟩
  intro infra' extras' maxLength' random' name hrandom' hne hname hname'
  have h := isStorageName_of_eq_ok hrandom hname
  exact hne (h.digits_eq (isStorageName_of_eq_ok hrandom' hname'))

/-- Names of a cluster whose name has to be sanitized, and cut next to a dash, and of one whose name
is legal. -/
theorem storageName_legal_cut :
    let digits := "0123456789abcdef0123456789abcdef".toList
    let others := "0123456789aaaaaaaaaaaaaaaaaaaaaa".toList
    let cut := "my-cluster-x-image-registry-0123456789ab"
    (IsUuid digits ∧ IsUuid others ∧ digits.take 12 ≠ others.take 12) ∧
    (storageName "My__Cluster..x" ["", "Zone A"] 41 digits = .ok cut ∧
      IsStorageName "My__Cluster..x" ["", "Zone A"] 41 digits cut ∧
      storageName "my-cluster-x" [] 62 others ≠ .ok cut) ∧
    (IsLegal "infra".toList ∧ IsLegal "us-east-1".toList ∧
      storageName "infra" ["us-east-1"] 62 digits =
        .ok "infra-image-registry-us-east-1-0123456789ab") := by
  intro digits others cut
  have hdigits : IsUuid digits := ⟨by decide +kernel, by decide +kernel⟩
  have hothers : IsUuid others := ⟨by decide +kernel, by decide +kernel⟩
  have hne : digits.take 12 ≠ others.take 12 := by decide +kernel
  have hinfra : IsLegal "infra".toList :=
    isLegal_of_sanitize_eq (by decide +kernel) ⟨'a', by decide +kernel, by decide⟩
  have hzone : IsLegal "us-east-1".toList :=
    isLegal_of_sanitize_eq (by decide +kernel) ⟨'1', by decide +kernel, by decide⟩
  obtain ⟨-, hnamed, hapart, -⟩ := storageName_legal "My__Cluster..x" ["", "Zone A"] 41 hdigits
  obtain ⟨-, -, -, hkept⟩ := storageName_legal "infra" ["us-east-1"] 62 hdigits
  have hcut : storageName "My__Cluster..x" ["", "Zone A"] 41 digits = .ok cut := by decide +kernel
  refine ⟨⟨hdigits, hothers, hne⟩, ⟨hcut, hnamed cut hcut, ?_⟩, hinfra, hzone, ?_⟩
  · exact hapart "my-cluster-x" [] 62 others cut hothers hne hcut
  · rw [hkept hinfra (List.forall_mem_singleton.2 hzone) (by decide +kernel)]
    decide +kernel

/-! ## Names of storage accounts -/

/-- What stands for the cluster in the name of a storage account: the letters and digits of ASCII of
its name, in lowercase. -/
def accountStem (infra : String) : List Char :=
  (infra.toList.filter Char.isAlphanum).map Char.toLower

/-- What a name for a storage account is like. -/
structure IsAccountName (infra : String) (random : List Char) (name : String) : Prop where
  /-- It has letters in lowercase and digits only. -/
  chars : ∀ c ∈ name.toList, isNameChar c
  /-- It is neither too short nor too long. -/
  length : 17 ≤ name.length ∧ name.length ≤ 24
  /-- It ends with eight digits, after the first 16 characters of the name of the cluster and the
  product, or all of them if there are fewer. -/
  parts : (random.take 8).length = 8 ∧
    name.toList = (accountStem infra ++ "registry".toList).take 16 ++ random.take 8

/-- The letters and digits are those of ASCII. -/
lemma isAlphanumeric_eq (c : Char) : isAlphanumeric c = c.isAlphanum := by
  have halphanum : c.isAlphanum =
      (decide ('A' ≤ c ∧ c ≤ 'Z') || ('a' ≤ c && c ≤ 'z') || ('0' ≤ c && c ≤ '9')) := rfl
  rw [halphanum, Bool.decide_and, isAlphanumeric, Bool.or_comm ('a' ≤ c && c ≤ 'z')]

/-- What holds for the letters and digits among the first characters holds for all that there are
in ASCII. -/
lemma of_isAlphanum {P : Char → Prop}
    (hfirst : ∀ n < 123, (Char.ofNat n).isAlphanum → P (Char.ofNat n)) (h : c.isAlphanum) :
    P c := by
  have hlt : c.toNat < 123 := by
    rw [← isAlphanumeric_eq, isAlphanumeric_iff] at h
    omega
  have hc := hfirst c.toNat hlt
  rw [Char.ofNat_toNat] at hc
  exact hc h

/-- The two ways to put a letter or digit in lowercase agree. -/
lemma lower_eq_toLower (h : c.isAlphanum) : lower c = c.toLower :=
  of_isAlphanum (P := fun c => lower c = c.toLower) (by decide +kernel) h

/-- A letter or digit of ASCII may stand in a name when it is put in lowercase. -/
lemma isNameChar_toLower (h : c.isAlphanum) : isNameChar c.toLower :=
  of_isAlphanum (P := fun c => isNameChar c.toLower) (by decide +kernel) h

/-- The letters and digits of a name in lowercase are those that the name of an account keeps. -/
lemma map_lower_filter (infra : String) :
    (infra.toList.filter isAlphanumeric).map lower = accountStem infra := by
  rw [accountStem, funext isAlphanumeric_eq]
  exact List.map_congr_left fun c hc => lower_eq_toLower (List.of_mem_filter hc)

/-- Nothing is kept of a name without letters and digits. -/
lemma accountStem_eq_nil_iff :
    accountStem infra = [] ↔ ∀ c ∈ infra.toList, ¬ c.isAlphanum := by
  rw [accountStem, List.map_eq_nil_iff, List.filter_eq_nil_iff]

/-- What is kept is in lowercase. -/
lemma isNameChar_of_mem_accountStem (h : c ∈ accountStem infra) : isNameChar c := by
  obtain ⟨d, hd, rfl⟩ := List.mem_map.1 h
  exact isNameChar_toLower (List.of_mem_filter hd)

/-- How the name of a storage account is made up, or why not.

**Proof sketch.** The name fails to be made up only if nothing is kept; otherwise at most 16
characters stand before eight digits, so that the last cut leaves them all. -/
lemma accountName_cases (infra : String) (random : List Char) :
    accountStem infra = [] ∧ accountName infra random = .error (.configuration
        ("cannot generate storage account name from infrastructure name " ++ Text.quoted infra)) ∨
      accountStem infra ≠ [] ∧ accountName infra random = .ok (String.ofList
        ((accountStem infra ++ "registry".toList).take 16 ++ random.take 8)) := by
  -- what is kept of the text before the digits leaves room for them, so the last cut does nothing
  have hfits : ((accountStem infra ++ "registry".toList).take 16 ++ random.take 8).length ≤ 24 := by
    rw [List.length_append, List.length_take, List.length_take]
    omega
  rw [accountName, map_lower_filter]
  split
  · rename_i hnil
    exact .inl ⟨List.isEmpty_iff.1 hnil, rfl⟩
  · rename_i hne
    refine .inr ⟨fun hnil => hne (List.isEmpty_iff.2 hnil), ?_⟩
    exact congrArg (fun cs => Except.ok (String.ofList cs)) (List.take_of_length_le hfits)

/-- The name of a storage account is not empty. -/
lemma accountName_ne_empty {name : String} (h : accountName infra random = .ok name) :
    name ≠ "" := by
  rcases accountName_cases infra random with ⟨-, herror⟩ | ⟨hstem, hok⟩
  · cases herror.symm.trans h
  · obtain rfl := Except.ok.inj (hok.symm.trans h)
    rw [ne_eq, String.ofList_eq_empty_iff]
    simp [hstem]

/-- A name is legal and ends with its digits.

**Proof sketch.** Every character is kept from the cluster's name, part of the product's name, or a
digit. One character at least is kept, which with the product's eight and the eight digits makes
17. -/
lemma isAccountName_of_eq_ok (hrandom : IsUuid random) {name : String}
    (h : accountName infra random = .ok name) : IsAccountName infra random name := by
  rcases accountName_cases infra random with ⟨-, herror⟩ | ⟨hstem, hok⟩
  · cases herror.symm.trans h
  · obtain rfl := Except.ok.inj (hok.symm.trans h)
    have hdigits : (random.take 8).length = 8 := by
      rw [List.length_take, hrandom.length]
      rfl
    have hpos : 0 < (accountStem infra).length := List.length_pos_iff.2 hstem
    have hproduct : "registry".toList.length = 8 := by decide +kernel
    refine ⟨?_, ?_, hdigits, String.toList_ofList⟩
    · intro c hc
      rw [String.toList_ofList] at hc
      rcases List.mem_append.1 hc with hc | hc
      · rcases List.mem_append.1 (List.mem_of_mem_take hc) with hc | hc
        · exact isNameChar_of_mem_accountStem hc
        · have hall : "registry".toList.all isNameChar := by decide +kernel
          exact List.all_eq_true.1 hall c hc
      · exact hrandom.chars c (List.mem_of_mem_take hc)
    · rw [String.length_ofList, List.length_append, List.length_take, List.length_append, hdigits,
        hproduct]
      omega

/-- The digits can be read off the name of a storage account. -/
lemma IsAccountName.digits_eq {infra' : String} {random' : List Char} {name : String}
    (h : IsAccountName infra random name) (h' : IsAccountName infra' random' name) :
    random.take 8 = random'.take 8 := by
  obtain ⟨hlength, hname⟩ := h.parts
  obtain ⟨hlength', hname'⟩ := h'.parts
  exact List.append_inj_right' (hname.symm.trans hname') (hlength.trans hlength'.symm)

/-- **A name for a storage account is legal and ends with all of its random digits.** There is one
unless the name of the cluster has no letter or digit of ASCII, and the digits tell any two names
apart.

**Proof sketch.** Of what comes before the digits at most 16 characters are kept, so that all eight
fit (`accountName_cases`); they are at least nine, because a letter or digit of the cluster comes
before those of the product. All are letters in lowercase and digits
(`isNameChar_of_mem_accountStem`). The last eight characters are the digits whatever comes before
(`IsAccountName.digits_eq`). -/
theorem accountName_legal (infra : String) {random : List Char} (hrandom : IsUuid random) :
    (accountName infra random = .error (.configuration
        ("cannot generate storage account name from infrastructure name " ++ Text.quoted infra)) ↔
      ∀ c ∈ infra.toList, ¬ c.isAlphanum) ∧
    ((∃ c ∈ infra.toList, c.isAlphanum) →
      ∃ name, accountName infra random = .ok name ∧ IsAccountName infra random name) ∧
    (∀ infra' random' name, IsUuid random' → random.take 8 ≠ random'.take 8 →
      accountName infra random = .ok name → accountName infra' random' ≠ .ok name) := by
  rw [← accountStem_eq_nil_iff]
  refine ⟨?_, ?_, ?_⟩
  · rcases accountName_cases infra random with ⟨hstem, herror⟩ | ⟨hstem, hok⟩
    · exact iff_of_true herror hstem
    · exact iff_of_false (fun herror => nomatch hok.symm.trans herror) hstem
  · rintro ⟨c, hc, halphanum⟩
    rcases accountName_cases infra random with ⟨hstem, -⟩ | ⟨-, hok⟩
    · exact absurd halphanum (accountStem_eq_nil_iff.1 hstem c hc)
    · exact ⟨_, hok, isAccountName_of_eq_ok hrandom hok⟩
  · intro infra' random' name hrandom' hne hname hname'
    have h := isAccountName_of_eq_ok hrandom hname
    exact hne (h.digits_eq (isAccountName_of_eq_ok hrandom' hname'))

/-- Names of a cluster with one letter, of one whose name is cut, and none of one without letters
and digits of ASCII. -/
theorem accountName_legal_cut :
    let digits := "0123456789abcdef0123456789abcdef".toList
    let others := "76543210aaaaaaaaaaaaaaaaaaaaaaaa".toList
    let cut := "myclusterx7k2pre01234567"
    (IsUuid digits ∧ IsUuid others ∧ digits.take 8 ≠ others.take 8) ∧
    (accountName "é-X" digits = .ok "xregistry01234567" ∧
      IsAccountName "é-X" digits "xregistry01234567") ∧
    (accountName "My-Cluster-x7k2p" digits = .ok cut ∧
      accountName "mycluster.x7k2p" others ≠ .ok cut) ∧
    accountName "--é" digits = .error (.configuration
      "cannot generate storage account name from infrastructure name \"--é\"") := by
  intro digits others cut
  have hdigits : IsUuid digits := ⟨by decide +kernel, by decide +kernel⟩
  have hothers : IsUuid others := ⟨by decide +kernel, by decide +kernel⟩
  have hne : digits.take 8 ≠ others.take 8 := by decide +kernel
  obtain ⟨-, hnamed, -⟩ := accountName_legal "é-X" hdigits
  obtain ⟨-, -, hapart⟩ := accountName_legal "My-Cluster-x7k2p" hdigits
  obtain ⟨hfails, -, -⟩ := accountName_legal "--é" hdigits
  have hshort : accountName "é-X" digits = .ok "xregistry01234567" := by decide +kernel
  have hcut : accountName "My-Cluster-x7k2p" digits = .ok cut := by decide +kernel
  have hnone : "--é".toList.any Char.isAlphanum = false := by decide +kernel
  refine ⟨⟨hdigits, hothers, hne⟩, ⟨hshort, ?_⟩, ⟨hcut, ?_⟩, ?_⟩
  · obtain ⟨name, hok, hname⟩ := hnamed ⟨'X', by decide +kernel, by decide⟩
    obtain rfl := Except.ok.inj (hok.symm.trans hshort)
    exact hname
  · exact hapart "mycluster.x7k2p" others cut hothers hne hcut
  · rw [hfails.2 (List.any_eq_false.1 hnone)]
    decide +kernel

end Depot.Naming
