import Depot.Text.Percent
import Mathlib.Tactic.Lemma

set_option autoImplicit false

/-!
# Percent-encoding loses nothing

An encoded segment of a path can be decoded, and has no slash, so from an address it can be read
which texts its segments stand for.

## Main definitions

* `decodeText?` — the text that an encoded segment stands for.
* `path`, `pathTexts?` — the path with given texts, and the texts of a path.

## Main results

* `decodeSegment?_flatMap` — bytes are decoded from their encoding.
* `decodeText?_encodeSegment`, `encodeSegment_injective` — a text is decoded from its encoding, so
  different texts are encoded differently.
* `pathTexts?_path` — the texts of a path are read from it.
* `eq_of_lastSegment` — the last segment of an address determines its text.
-/

namespace Depot.Text.Percent

/-! ## Decoding -/

/-- What follows an encoded text is decoded apart from it.

**Proof sketch.** Along the recursion of the decoding. The text is not cut inside an escape, since
what comes before decodes by itself. -/
lemma decodeSegment?_append {xs : List Char} {bs : List UInt8} (h : decodeSegment? xs = some bs)
    (cs : List Char) : decodeSegment? (xs ++ cs) = (decodeSegment? cs).map (bs ++ ·) := by
  fun_induction decodeSegment? xs generalizing bs with
  | case1 =>
    cases h
    simp
  | case2 a b rest ih =>
    simp only [Option.bind_eq_bind, Option.bind_eq_some_iff, Option.pure_def,
      Option.some.injEq] at h
    obtain ⟨hi, ha, lo, hb, ds, hds, rfl⟩ := h
    rw [List.cons_append, List.cons_append, List.cons_append, decodeSegment?, ih hds]
    simp [ha, hb]
    cases decodeSegment? cs <;> rfl
  | case3 c rest hc hbad => cases h
  | case4 c rest hc hgood ih =>
    obtain ⟨ds, hds, rfl⟩ := Option.map_eq_some_iff.1 h
    have hne : c ≠ '%' := fun h => hgood (.inl h)
    rw [List.cons_append, decodeSegment?, if_neg hgood, ih hds]
    · cases decodeSegment? cs <;> rfl
    · rintro a b rest' rfl
      exact absurd rfl hne

/-- A byte is decoded from its encoding, which has no slash and no question mark. -/
lemma decodeSegment?_segmentByte (b : UInt8) :
    decodeSegment? (segmentByte b) = some [b] ∧ '/' ∉ segmentByte b := by
  have h : ∀ n < 256, decodeSegment? (segmentByte (UInt8.ofNat n)) = some [UInt8.ofNat n] ∧
      '/' ∉ segmentByte (UInt8.ofNat n) := by decide +kernel
  simpa using h b.toNat b.toNat_lt

/-- Bytes are decoded from their encoding. -/
theorem decodeSegment?_flatMap (bs : List UInt8) :
    decodeSegment? (bs.flatMap segmentByte) = some bs := by
  induction bs with
  | nil => rfl
  | cons b bs ih =>
    rw [List.flatMap_cons, decodeSegment?_append (decodeSegment?_segmentByte b).1, ih]
    rfl

/-- The bytes of an array are listed from the first on.

**Proof sketch.** Along the recursion of the loop, which lists the bytes in reverse. -/
lemma toList_loop (bs : ByteArray) (i : Nat) (r : List UInt8) :
    ByteArray.toList.loop bs i r = r.reverse ++ bs.data.toList.drop i := by
  fun_induction ByteArray.toList.loop bs i r with
  | case1 i r hi ih =>
    have hi : i < bs.data.toList.length := hi
    have hget : bs.get! i = bs.data.toList[i] := getElem!_pos bs.data i hi
    rw [ih, List.drop_eq_getElem_cons hi, List.reverse_cons, List.append_assoc, hget]
    rfl
  | case2 i r hi =>
    have hi : bs.data.toList.length ≤ i := Nat.le_of_not_lt hi
    rw [List.drop_eq_nil_of_le hi, List.append_nil]

/-- A text is read from its bytes. -/
lemma fromUTF8?_toUTF8 (s : String) : String.fromUTF8? ⟨s.toUTF8.toList.toArray⟩ = some s := by
  have hlist : s.toUTF8.toList = s.toByteArray.data.toList := toList_loop s.toUTF8 0 []
  have hbytes : (⟨s.toUTF8.toList.toArray⟩ : ByteArray) = s.toByteArray := by
    rw [hlist, Array.toArray_toList]
  rw [hbytes, String.fromUTF8?, dif_pos s.isValidUTF8]
  rfl

/-- The text that an encoded segment stands for; none if its bytes are no text. -/
def decodeText? (cs : List Char) : Option String :=
  (decodeSegment? cs).bind fun bs => String.fromUTF8? ⟨bs.toArray⟩

/-- **A text is decoded from its encoding.** -/
theorem decodeText?_encodeSegment (s : String) : decodeText? (encodeSegment s).toList = some s := by
  rw [decodeText?, encodeSegment, String.toList_ofList, decodeSegment?_flatMap, Option.bind_some,
    fromUTF8?_toUTF8]

/-- Different texts are encoded differently. -/
theorem encodeSegment_injective {s t : String} (h : encodeSegment s = encodeSegment t) : s = t := by
  have h := congrArg (fun u => decodeText? u.toList) h
  simp only [decodeText?_encodeSegment] at h
  exact Option.some.inj h

/-- An encoded segment has no slash. -/
lemma slash_notMem_encodeSegment (s : String) : '/' ∉ (encodeSegment s).toList := by
  rw [encodeSegment, String.toList_ofList]
  intro h
  obtain ⟨b, -, hb⟩ := List.mem_flatMap.1 h
  exact (decodeSegment?_segmentByte b).2 hb

/-! ## Paths -/

/-- The path whose segments stand for the given texts. -/
def path (texts : List String) : String := "/".intercalate (texts.map encodeSegment)

/-- The texts that the segments of a path stand for: what stands between its slashes, decoded. -/
def pathTexts? (path : String) : Option (List String) :=
  (path.toList.splitOn '/').mapM decodeText?

/-- The slashes of a path stand between its segments only. -/
lemma splitOn_path {texts : List String} (h : texts ≠ []) :
    (path texts).toList.splitOn '/' = texts.map fun t => (encodeSegment t).toList := by
  have hslash : ∀ cs ∈ texts.map fun t => (encodeSegment t).toList, '/' ∉ cs := by
    intro cs hcs
    obtain ⟨t, -, rfl⟩ := List.mem_map.1 hcs
    exact slash_notMem_encodeSegment t
  rw [path, String.toList_intercalate, List.map_map]
  exact List.splitOn_intercalate '/' hslash (by simpa using h)

/-- **The texts of a path are read from it.** -/
theorem pathTexts?_path {texts : List String} (h : texts ≠ []) :
    pathTexts? (path texts) = some texts := by
  rw [pathTexts?, splitOn_path h, List.mapM_map]
  simp only [Function.comp_def, decodeText?_encodeSegment]
  exact (List.mapM_pure (m := Option)).trans (congrArg some (List.map_id texts))

/-! ## Addresses -/

/-- What follows the last slash of a text is determined by the text. -/
lemma eq_of_lastSlash {xs ys as bs : List Char} (h : xs ++ '/' :: as = ys ++ '/' :: bs)
    (ha : '/' ∉ as) (hb : '/' ∉ bs) : as = bs := by
  rcases List.append_eq_append_iff.1 h with ⟨cs, -, hcs⟩ | ⟨cs, -, hcs⟩
  · rcases List.cons_eq_append_iff.1 hcs with ⟨rfl, hcs⟩ | ⟨ds, rfl, rfl⟩
    · exact (List.cons.inj hcs).2
    · exact absurd (List.mem_append_right ds List.mem_cons_self) ha
  · rcases List.cons_eq_append_iff.1 hcs with ⟨rfl, hcs⟩ | ⟨ds, rfl, rfl⟩
    · exact (List.cons.inj hcs).2.symm
    · exact absurd (List.mem_append_right ds List.mem_cons_self) hb

/-- **The last segment of an address determines its text.** -/
theorem eq_of_lastSegment {a b s t : String}
    (h : a ++ "/" ++ encodeSegment s = b ++ "/" ++ encodeSegment t) : s = t := by
  refine encodeSegment_injective (String.toList_inj.1 ?_)
  have h := congrArg String.toList h
  simp only [String.toList_append, List.append_assoc] at h
  exact eq_of_lastSlash h (slash_notMem_encodeSegment s) (slash_notMem_encodeSegment t)

end Depot.Text.Percent
