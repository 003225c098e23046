import Depot.Json.Parser
import Depot.Json.Printer
import Mathlib.Tactic.Lemma

set_option autoImplicit false

/-!
# Printed JSON is read back

The compact text of a value is read as the same value. Escapes in string literals are inverted
character by character, and the machine that reads tokens is followed through arrays and objects.

## Main definitions

* `Json.IsTextual` — the values without numbers.
* `Json.Lexes` — the tokens of a part of a text, whatever stands around it.
* `Json.Parses` — the value that a part of the tokens writes, whatever is open around it.

## Main results

* `Json.lexes_stringChars` — a string literal is one token, of its text.
* `Json.parse?_print` — a value without numbers is read back from its text.

## Design

Numbers are left out: a number takes all digits that follow it, so its token depends on what stands
behind it, and the operator writes no numbers into its resources.
-/

namespace Depot.Json

/-- A value of texts, truth values and null only, in which every literal denotes a text. -/
inductive IsTextual : Json → Prop where
  | null : IsTextual .null
  | bool (b : Bool) : IsTextual (.bool b)
  | text (s : String) : IsTextual (.text s)
  | arr {items : List Json} (h : ∀ v ∈ items, IsTextual v) : IsTextual (.arr items)
  | object {members : List (String × Json)} (h : ∀ m ∈ members, IsTextual m.2) :
      IsTextual (.object members)

/-! ## String literals -/

namespace Printer

/-- The characters that have an escape of one letter. -/
def lettered : List Char := ['"', '\\', '\x08', '\t', '\n', '\x0c', '\r']

/-- The unit of a string literal that a character is written as. -/
def unitOf (c : Char) : Token.Unit :=
  if c.toNat < 0x20 ∧ c ∉ lettered then .inr c.toNat else .inl c

/-- An escape with four digits is read as the number of its character. -/
lemma hexUnit?_hexDigit {n : Nat} (h : n < 0x20) :
    Token.hexUnit? '0' '0' (hexDigit (n / 16)) (hexDigit (n % 16)) = some n := by
  have : ∀ n < 0x20,
      Token.hexUnit? '0' '0' (hexDigit (n / 16)) (hexDigit (n % 16)) = some n := by decide +kernel
  exact this n h

/-- What a character is written as is read as its unit.

**Proof sketch.** There are characters that are written with a letter after the backslash, other
control characters, which are written by their number, and all others, which stand for themselves.
In each case the reader takes what was written as one unit. -/
lemma scanUnits_charEscape (done : List Token.Unit) (c : Char) (rest : List Char) :
    Token.scanUnits done (charEscape c ++ rest) = Token.scanUnits (unitOf c :: done) rest := by
  by_cases hl : c ∈ lettered
  · simp only [lettered, List.mem_cons, List.not_mem_nil, or_false] at hl
    rcases hl with rfl | rfl | rfl | rfl | rfl | rfl | rfl <;> rfl
  have hne := hl
  simp only [lettered, List.mem_cons, List.not_mem_nil, or_false, not_or] at hne
  by_cases h : c.toNat < 0x20
  · have hu : unitOf c = .inr c.toNat := if_pos ⟨h, hl⟩
    simp only [charEscape, hne, h, if_true, if_false, List.cons_append, List.nil_append,
      Token.scanUnits, hexUnit?_hexDigit h, hu]
  · have hu : unitOf c = .inl c := if_neg fun hc => h hc.1
    simp only [charEscape, hne, h, if_false, List.singleton_append, hu]
    rw [Token.scanUnits, if_neg (by simp [h, hne])]
    all_goals simp_all

/-- The closing quote ends the literal. -/
lemma scanUnits_flatMap (cs : List Char) (done : List Token.Unit) (rest : List Char) :
    Token.scanUnits done (cs.flatMap charEscape ++ '"' :: rest)
      = some (done.reverse ++ cs.map unitOf, rest) := by
  induction cs generalizing done with
  | nil => simp [Token.scanUnits]
  | cons c cs ih =>
    rw [List.flatMap_cons, List.append_assoc, scanUnits_charEscape, ih]
    simp

/-- The unit of a character is joined as the character: the escapes in use are no halves of
surrogate pairs. -/
lemma joinUnits_unitOf (done : List Char) (c : Char) (us : List Token.Unit) :
    Token.joinUnits done (unitOf c :: us) = Token.joinUnits (c :: done) us := by
  unfold unitOf
  split
  · next h =>
    have hh : Token.isHighHalf c.toNat = false := by simp [Token.isHighHalf]; omega
    have hl : Token.isLowHalf c.toNat = false := by simp [Token.isLowHalf]; omega
    rcases us with - | ⟨- | -, us⟩ <;> simp [Token.joinUnits, hh, hl, Char.ofNat_toNat]
  · rw [Token.joinUnits]

/-- The units of some characters are joined to their text. -/
lemma joinUnits_map (cs done : List Char) :
    Token.joinUnits done (cs.map unitOf) = some (String.ofList (done.reverse ++ cs)) := by
  induction cs generalizing done with
  | nil => simp [Token.joinUnits]
  | cons c cs ih =>
    rw [List.map_cons, joinUnits_unitOf, ih]
    simp

end Printer

/-! ## Tokens -/

/-- The tokens of a part of a text are these, whatever stands before and behind it. -/
def Lexes (cs : List Char) (ts : List Token) : Prop :=
  ∀ done rest, Token.scanFrom done (cs ++ rest) = Token.scanFrom (ts.reverse ++ done) rest

/-- Texts one after another are read as their tokens one after another. -/
lemma Lexes.append {cs ds : List Char} {ts us : List Token} (h : Lexes cs ts)
    (h' : Lexes ds us) : Lexes (cs ++ ds) (ts ++ us) := by
  intro done rest
  rw [List.append_assoc, h, h', List.reverse_append, List.append_assoc]

/-- A text that is read as tokens wherever it stands is so on its own. -/
lemma Lexes.scan_eq {cs : List Char} {ts : List Token} (h : Lexes cs ts) :
    Token.scan (String.ofList cs) = some ts := by
  have := h [] []
  simpa [Token.scan, Token.scanFrom] using this

/-- A part of a text that starts with no space is one token if it is read as one. -/
lemma lexes_of_next? {c : Char} {cs : List Char} {t : Token} (hs : Token.isSpace c = false)
    (h : ∀ rest, Token.next? (c :: cs ++ rest) = some (t, rest)) : Lexes (c :: cs) [t] := by
  intro done rest
  have h := h rest
  rw [List.cons_append] at h ⊢
  rw [Token.scanFrom, hs, if_neg Bool.false_ne_true]
  split
  · next hn => simp [hn] at h
  · next t' after hn =>
    obtain ⟨rfl, rfl⟩ : t' = t ∧ after = rest := by simpa [hn] using h
    rfl

/-- A punctuation mark is one token. -/
lemma lexes_punctuation {c : Char} {t : Token} (hs : Token.isSpace c = false)
    (h : Token.punctuation? c = some t) : Lexes [c] [t] :=
  lexes_of_next? hs fun rest => by simp [Token.next?, h]

/-- **A string literal is one token**, of its text. -/
theorem lexes_stringChars (s : String) :
    Lexes (Printer.stringChars (some s)) [.str (some s)] := by
  refine lexes_of_next? rfl fun rest => ?_
  have hu := Printer.scanUnits_flatMap s.toList [] rest
  have hj := Printer.joinUnits_map s.toList []
  simp only [List.reverse_nil, List.nil_append, String.ofList_toList] at hu hj
  simp [Token.next?, Token.punctuation?, hu, hj]

/-- A name is one token. -/
lemma lexes_name {c : Char} {name : List Char} {t : Token} (hs : Token.isSpace c = false)
    (h : ∀ cs, Token.next? (c :: cs) = Token.scanName? name t cs) : Lexes (c :: name) [t] :=
  lexes_of_next? hs fun rest => by
    simp [h, Token.scanName?, Token.afterName?, List.isPrefixOf_iff_prefix]

/-! ## Values -/

/-- The tokens write this value, whatever is open around it. -/
def Parses (ts : List Token) (v : Json) : Prop :=
  ∀ stack more, Reader.run (.value stack) (ts ++ more) = Reader.run (.complete v stack) more

/-- The tokens of a value are at least one, and the first one closes nothing. -/
lemma Parses.exists_cons {ts : List Token} {v : Json} (h : Parses ts v) :
    ∃ t us, ts = t :: us ∧ t ≠ .closeBracket := by
  have h := h [] []
  rcases ts with - | ⟨t, us⟩
  · cases h
  · refine ⟨t, us, rfl, ?_⟩
    rintro rfl
    cases h

/-- The first item of an array is read as any value. -/
lemma Parses.first {ts : List Token} {v : Json} (h : Parses ts v) (stack : List Reader.Frame)
    (more : List Token) :
    Reader.run (.firstItem stack) (ts ++ more)
      = Reader.run (.complete v (.arr [] :: stack)) more := by
  rw [← h]
  obtain ⟨t, us, rfl, ht⟩ := h.exists_cons
  have hstep : Reader.step (.firstItem stack) t = Reader.step (.value (.arr [] :: stack)) t := by
    cases t <;> first | rfl | exact absurd rfl ht
  rw [List.cons_append, Reader.run, Reader.run, hstep]

/-- The characters write this value. -/
def Writes (cs : List Char) (v : Json) : Prop := ∃ ts, Lexes cs ts ∧ Parses ts v

/-- One token that is a value writes it. -/
lemma Lexes.writes {cs : List Char} {t : Token} {v : Json} (h : Lexes cs [t])
    (hb : ∀ stack, Reader.begin? stack t = some (.complete v stack)) : Writes cs v :=
  ⟨[t], h, fun stack more => by simp [Reader.run, Reader.step, hb]⟩

/-- What follows an item of an array: further items and the closing bracket.

**Proof sketch.** By induction on the items. The closing bracket ends the array with what was read
so far; a further item follows a comma, and its tokens complete it on top of the stack. -/
lemma itemChars_writes {vs : List Json} (h : ∀ v ∈ vs, Writes (Printer.chars v) v) :
    ∃ ts, Lexes (Printer.itemChars vs) ts ∧ ∀ u done stack more,
      Reader.run (.complete u (.arr done :: stack)) (ts ++ more)
        = Reader.run (.complete (.arr ((u :: done).reverse ++ vs)) stack) more := by
  induction vs with
  | nil =>
    refine ⟨[.closeBracket], ?_, fun u done stack more => ?_⟩
    · simpa [Printer.itemChars] using lexes_punctuation (c := ']') rfl rfl
    · simp [Reader.run, Reader.step]
  | cons v vs ih =>
    obtain ⟨ts, hl, hp⟩ := h v (List.mem_cons_self ..)
    obtain ⟨us, hl', hp'⟩ := ih fun w hw => h w (List.mem_cons_of_mem _ hw)
    refine ⟨.comma :: ts ++ us, ?_, fun u done stack more => ?_⟩
    · rw [Printer.itemChars]
      exact ((lexes_punctuation (c := ',') rfl rfl).append hl).append hl'
    · rw [List.append_assoc, List.cons_append, Reader.run]
      simp only [Reader.step]
      rw [hp, hp']
      simp

/-- What follows a member of an object: further members and the closing brace.

**Proof sketch.** As for items, with the name of the member and a colon before its value. -/
lemma memberChars_writes {ms : List (String × Json)}
    (h : ∀ m ∈ ms, Writes (Printer.chars m.2) m.2) :
    ∃ ts, Lexes (Printer.memberChars (ms.map fun (k, v) => (some k, v))) ts ∧
      ∀ u done k stack more,
        Reader.run (.complete u (.obj done k :: stack)) (ts ++ more)
          = Reader.run (.complete (.obj (((k, u) :: done).reverse
              ++ ms.map fun (k, v) => (some k, v))) stack) more := by
  induction ms with
  | nil =>
    refine ⟨[.closeBrace], ?_, fun u done k stack more => ?_⟩
    · simpa [Printer.memberChars] using lexes_punctuation (c := '\x7d') rfl rfl
    · simp [Reader.run, Reader.step]
  | cons m ms ih =>
    obtain ⟨ts, hl, hp⟩ := h m (List.mem_cons_self ..)
    obtain ⟨us, hl', hp'⟩ := ih fun w hw => h w (List.mem_cons_of_mem _ hw)
    refine ⟨.comma :: .str (some m.1) :: .colon :: ts ++ us, ?_, fun u done k stack more => ?_⟩
    · have hk := lexes_stringChars m.1
      have hc := (lexes_punctuation (c := ',') rfl rfl).append hk
      have hv := (lexes_punctuation (c := ':') rfl rfl).append hl
      simpa [Printer.memberChars] using (hc.append hv).append hl'
    · simp only [List.cons_append, List.append_assoc, Reader.run, Reader.step]
      rw [hp, hp']
      simp

/-- An array is written if its items are.

**Proof sketch.** An array without items is its brackets. Otherwise the first item is begun behind
the opening bracket, and what follows it is read by `itemChars_writes`. -/
lemma arr_writes {items : List Json} (h : ∀ v ∈ items, Writes (Printer.chars v) v) :
    Writes (Printer.chars (.arr items)) (.arr items) := by
  have hopen : Lexes ['['] [.openBracket] := lexes_punctuation rfl rfl
  cases items with
  | nil =>
    have hclose : Lexes [']'] [.closeBracket] := lexes_punctuation rfl rfl
    refine ⟨[.openBracket, .closeBracket], ?_, fun stack more => rfl⟩
    simpa [Printer.chars] using hopen.append hclose
  | cons v vs =>
    obtain ⟨ts, hl, hp⟩ := h v (List.mem_cons_self ..)
    obtain ⟨us, hl', hp'⟩ := itemChars_writes fun w hw => h w (List.mem_cons_of_mem _ hw)
    refine ⟨.openBracket :: ts ++ us, ?_, fun stack more => ?_⟩
    · simpa [Printer.chars] using (hopen.append hl).append hl'
    · simp only [List.cons_append, List.append_assoc, Reader.run, Reader.step, Reader.begin?]
      rw [hp.first, hp']
      rfl

/-- An object is written if the values of its members are.

**Proof sketch.** As for arrays, with the name of the first member and a colon before its value. -/
lemma object_writes {members : List (String × Json)}
    (h : ∀ m ∈ members, Writes (Printer.chars m.2) m.2) :
    Writes (Printer.chars (.object members)) (.object members) := by
  have hopen : Lexes ['\x7b'] [.openBrace] := lexes_punctuation rfl rfl
  cases members with
  | nil =>
    have hclose : Lexes ['\x7d'] [.closeBrace] := lexes_punctuation rfl rfl
    refine ⟨[.openBrace, .closeBrace], ?_, fun stack more => rfl⟩
    simpa [object, Printer.chars] using hopen.append hclose
  | cons m ms =>
    obtain ⟨ts, hl, hp⟩ := h m (List.mem_cons_self ..)
    obtain ⟨us, hl', hp'⟩ := memberChars_writes fun w hw => h w (List.mem_cons_of_mem _ hw)
    have hkey := hopen.append (lexes_stringChars m.1)
    have hvalue := (lexes_punctuation (c := ':') rfl rfl).append hl
    refine ⟨.openBrace :: .str (some m.1) :: .colon :: ts ++ us, ?_, fun stack more => ?_⟩
    · simpa [object, Printer.chars] using (hkey.append hvalue).append hl'
    · simp only [List.cons_append, List.append_assoc, Reader.run, Reader.step, Reader.begin?]
      rw [hp, hp']
      rfl

/-- **The characters of a value write it.**

**Proof sketch.** By induction on the value. Null and the truth values are names, a text is a
string; arrays and objects are written if their parts are, as the induction hypothesis says. -/
lemma IsTextual.writes {v : Json} (h : v.IsTextual) : Writes (Printer.chars v) v := by
  induction h with
  | null =>
    have hl : Lexes ['n', 'u', 'l', 'l'] [.null] := lexes_name rfl fun _ => rfl
    simpa [Printer.chars] using hl.writes fun _ => rfl
  | bool b =>
    cases b with
    | true =>
      have hl : Lexes ['t', 'r', 'u', 'e'] [.bool true] := lexes_name rfl fun _ => rfl
      simpa [Printer.chars] using hl.writes fun _ => rfl
    | false =>
      have hl : Lexes ['f', 'a', 'l', 's', 'e'] [.bool false] := lexes_name rfl fun _ => rfl
      simpa [Printer.chars] using hl.writes fun _ => rfl
  | text s =>
    rw [Json.text, Printer.chars]
    exact (lexes_stringChars s).writes fun _ => rfl
  | @arr items _ ih => exact arr_writes ih
  | @object members _ ih => exact object_writes ih

/-- **A value without numbers is read back from its text.** -/
theorem parse?_print {v : Json} (h : v.IsTextual) : parse? (print v) = some v := by
  obtain ⟨ts, hl, hp⟩ := h.writes
  have hr : Reader.run (.value []) ts = some (.complete v []) := by
    simpa [Reader.run] using hp [] []
  simp only [parse?, print, hl.scan_eq, ofTokens?, hr]

end Depot.Json
