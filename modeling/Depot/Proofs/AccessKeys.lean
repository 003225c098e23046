import Depot.Proofs.Percent
import Depot.Proofs.Precedence
import Depot.S3.Storage

set_option autoImplicit false

/-!
# What a credentials file says about access keys

The registry finds its access keys in a file of three lines: a heading, the identifier and the
secret. The two texts come from a secret of the cluster and are written into their lines as they
are. The file has just these lines, and tells both texts, as long as neither has a line break in it;
otherwise a break adds a line, and the end of the identifier can be taken for the beginning of the
secret.

## Main definitions

* `Text.lines` — the lines of a text.
* `S3.profile` — the lines that a credentials file should have.
* `S3.Shifted` — a part of a credentials file that belongs to the identifier of the one and to the
  secret of the other.

## Main results

* `append_separated_iff` — how two texts can agree that are put together with a separator.
* `S3.length_lines` — each line break of the access keys is one more line.
* `S3.credentialsFile_tells` — when two files are the same, and when a file has three lines.
* `S3.credentialsFile_ambiguous` — two access keys that can be found have the same file of four
  lines.
-/

namespace Depot

/-! ## Texts with a separator -/

/-- Texts that are put together with a separator agree if their parts do, or if one first part goes
on with the separator: then what follows it is also found before the separator in the second part of
the other.

The separator begins with a character that it does not have again, so it does not overlap itself.

**Proof sketch.** If one first part is longer, its end and what follows are the separator and the
other second part. That end is empty, or the whole separator and more: if it were only a part of it,
the separator would have its first character again. -/
theorem append_separated_iff {x : Char} {sep as bs cs ds : List Char} (hx : x ∉ sep) :
    as ++ x :: sep ++ bs = cs ++ x :: sep ++ ds ↔
      (as = cs ∧ bs = ds) ∨
      (∃ us, cs = as ++ x :: sep ++ us ∧ bs = us ++ x :: sep ++ ds) ∨
      ∃ us, as = cs ++ x :: sep ++ us ∧ ds = us ++ x :: sep ++ bs := by
  -- The end of the longer first part, up to the separator of the other, is the separator.
  have hlonger : ∀ {bs ds vs : List Char}, x :: sep ++ bs = vs ++ (x :: sep ++ ds) →
      vs = [] ∧ bs = ds ∨ ∃ us, vs = x :: sep ++ us ∧ bs = us ++ x :: sep ++ ds := by
    intro bs ds vs h
    rcases vs with _ | ⟨y, vs⟩
    · exact .inl ⟨rfl, List.append_cancel_left h⟩
    obtain ⟨rfl, htail⟩ := List.cons.inj h
    rcases List.append_eq_append_iff.1 htail with ⟨us, rfl, rfl⟩ | ⟨us, rfl, hus⟩
    · exact .inr ⟨us, rfl, (List.append_assoc ..).symm⟩
    · rcases us with _ | ⟨z, us⟩
      · exact .inr ⟨[], by simp, by simpa using hus.symm⟩
      · obtain ⟨rfl, -⟩ := List.cons.inj hus
        exact absurd (List.mem_append_right vs List.mem_cons_self) hx
  constructor
  · intro h
    rw [List.append_assoc, List.append_assoc] at h
    rcases List.append_eq_append_iff.1 h with ⟨vs, rfl, hvs⟩ | ⟨vs, rfl, hvs⟩
    · rcases hlonger hvs with ⟨rfl, rfl⟩ | ⟨us, rfl, rfl⟩
      · exact .inl ⟨(List.append_nil as).symm, rfl⟩
      · exact .inr (.inl ⟨us, (List.append_assoc ..).symm, rfl⟩)
    · rcases hlonger hvs with ⟨rfl, rfl⟩ | ⟨us, rfl, rfl⟩
      · exact .inl ⟨List.append_nil cs, rfl⟩
      · exact .inr (.inr ⟨us, (List.append_assoc ..).symm, rfl⟩)
  · rintro (⟨rfl, rfl⟩ | ⟨us, rfl, rfl⟩ | ⟨us, rfl, rfl⟩)
    · rfl
    · simp only [List.append_assoc]
    · simp only [List.append_assoc]

/-! ## Lines -/

namespace Text

/-- The lines of a text: what stands before each of its line breaks, and what follows the last one
unless that is nothing. -/
def lines (s : String) : List String :=
  let parts := (s.toList.splitOn '\n').map String.ofList
  if parts.getLast? = some "" then parts.dropLast else parts

/-- The number of line breaks in a text. -/
def breaks (s : String) : Nat := s.toList.count '\n'

/-- A text has no line breaks exactly if the character is not in it. -/
lemma breaks_eq_zero_iff {s : String} : breaks s = 0 ↔ '\n' ∉ s.toList := List.count_eq_zero

/-- A line break ends a line. -/
lemma lines_append_break (s : String) :
    lines (s ++ "\n") = (s.toList.splitOn '\n').map String.ofList := by
  have hparts : ((s ++ "\n").toList.splitOn '\n').map String.ofList =
      (s.toList.splitOn '\n').map String.ofList ++ [""] := by
    rw [String.toList_append, show "\n".toList = '\n' :: [] from rfl,
      List.splitOn_append_cons_self, List.splitOn_nil, List.map_append]
    rfl
  rw [lines, hparts, List.getLast?_concat, if_pos rfl, List.dropLast_concat]

/-- There is one line more than there are line breaks. -/
lemma length_splitOn_break (cs : List Char) :
    (cs.splitOn '\n').length = cs.count '\n' + 1 := by
  induction cs with
  | nil => rfl
  | cons c cs ih =>
    rw [List.splitOn_cons_eq_if_modifyHead, List.count_cons]
    split
    · rw [List.length_cons, ih]
    · rw [List.length_modifyHead, ih, Nat.add_zero]

end Text

namespace S3

open Text (lines breaks)

/-! ## The file -/

/-- The heading of a credentials file. -/
def heading : String := "[default]"

/-- The beginning of the line for an identifier. -/
def idLabel : String := "aws_access_key_id = "

/-- The beginning of the line for a secret. -/
def secretLabel : String := "aws_secret_access_key = "

/-- The lines that a credentials file should have. -/
def profile (c : Credentials) : List String :=
  [heading, idLabel ++ c.accessKeyId, secretLabel ++ c.secretAccessKey]

/-- Two access keys have the same identifier and the same secret. -/
def Credentials.Same (c d : Credentials) : Prop :=
  c.accessKeyId = d.accessKeyId ∧ c.secretAccessKey = d.secretAccessKey

/-- The identifier of the second access keys is that of the first, a line break, the beginning of
the line for a secret, and more. In the file of the first, the same follows its identifier, because
its secret is what there is more, with another such line for the secret of the second. -/
def Shifted (c d : Credentials) : Prop :=
  ∃ more : String, d.accessKeyId = c.accessKeyId ++ "\n" ++ secretLabel ++ more ∧
    c.secretAccessKey = more ++ "\n" ++ secretLabel ++ d.secretAccessKey

/-- A credentials file has a heading and two labels with a text each. -/
lemma credentialsFile_eq (c : Credentials) :
    credentialsFile c = heading ++ "\n" ++ (idLabel ++ c.accessKeyId) ++ "\n"
      ++ (secretLabel ++ c.secretAccessKey) ++ "\n" := by
  have hfirst : heading ++ "\n" ++ idLabel = "[default]\naws_access_key_id = " :=
    String.toList_inj.1 rfl
  have hsecond : "\n" ++ secretLabel = "\naws_secret_access_key = " := String.toList_inj.1 rfl
  calc credentialsFile c = (heading ++ "\n" ++ idLabel) ++ c.accessKeyId
        ++ ("\n" ++ secretLabel) ++ c.secretAccessKey ++ "\n" := by
        rw [hfirst, hsecond]
        rfl
    _ = _ := by simp only [String.append_assoc]

/-! ## Two files -/

/-- A line break is one character. -/
lemma toList_break : "\n".toList = ['\n'] := rfl

/-- What differs in two credentials files stands around the line break and the second label. -/
lemma credentialsFile_eq_iff_toList {c d : Credentials} :
    credentialsFile c = credentialsFile d ↔
      c.accessKeyId.toList ++ '\n' :: secretLabel.toList ++ c.secretAccessKey.toList =
        d.accessKeyId.toList ++ '\n' :: secretLabel.toList ++ d.secretAccessKey.toList := by
  have htoList (c : Credentials) : (credentialsFile c).toList =
      (heading.toList ++ '\n' :: idLabel.toList) ++
        (c.accessKeyId.toList ++ '\n' :: secretLabel.toList ++ c.secretAccessKey.toList) ++
          ['\n'] := by
    rw [credentialsFile_eq]
    simp only [String.toList_append, toList_break, List.append_assoc, List.cons_append,
      List.nil_append]
  rw [← String.toList_inj, htoList, htoList, List.append_left_inj, List.append_right_inj]

/-- That the label is moved from one key into the other can be said of the characters. -/
lemma shifted_iff {c d : Credentials} :
    Shifted c d ↔
      ∃ us, d.accessKeyId.toList = c.accessKeyId.toList ++ '\n' :: secretLabel.toList ++ us ∧
        c.secretAccessKey.toList =
          us ++ '\n' :: secretLabel.toList ++ d.secretAccessKey.toList := by
  constructor
  · rintro ⟨more, hid, hsecret⟩
    refine ⟨more.toList, ?_, ?_⟩
    · simp [hid, String.toList_append, toList_break]
    · simp [hsecret, String.toList_append, toList_break]
  · rintro ⟨us, hid, hsecret⟩
    refine ⟨String.ofList us, String.toList_inj.1 ?_, String.toList_inj.1 ?_⟩
    · simp [hid, String.toList_append, toList_break]
    · simp [hsecret, String.toList_append, toList_break]

/-- **Two credentials files are the same** if the access keys are, or if a part of the one file
belongs to the identifier and the same part of the other to the secret. -/
lemma credentialsFile_eq_iff {c d : Credentials} :
    credentialsFile c = credentialsFile d ↔ c.Same d ∨ Shifted c d ∨ Shifted d c := by
  have hlabel : '\n' ∉ secretLabel.toList := by decide
  rw [credentialsFile_eq_iff_toList, append_separated_iff hlabel, shifted_iff, shifted_iff,
    String.toList_inj, String.toList_inj, Credentials.Same]

/-! ## The lines of a file -/

/-- The lines of a credentials file are the heading and those of its two parts. -/
lemma lines_credentialsFile (c : Credentials) :
    lines (credentialsFile c) =
      (heading.toList.splitOn '\n' ++ ((idLabel ++ c.accessKeyId).toList.splitOn '\n' ++
        (secretLabel ++ c.secretAccessKey).toList.splitOn '\n')).map String.ofList := by
  rw [credentialsFile_eq, Text.lines_append_break]
  simp only [String.toList_append, toList_break, List.append_assoc, List.singleton_append]
  simp only [← List.append_assoc, List.splitOn_append_cons_self]

/-- **Each line break of the access keys is one more line** of their file. -/
theorem length_lines (c : Credentials) :
    (lines (credentialsFile c)).length = 3 + breaks c.accessKeyId + breaks c.secretAccessKey := by
  have hheading : heading.toList.count '\n' = 0 := by decide
  have hid : idLabel.toList.count '\n' = 0 := by decide
  have hsecret : secretLabel.toList.count '\n' = 0 := by decide
  simp only [lines_credentialsFile, List.length_map, List.length_append,
    Text.length_splitOn_break, String.toList_append, List.count_append, hheading, hid, hsecret,
    breaks]
  omega

/-- Access keys without line breaks have a file of the three lines. -/
lemma lines_eq_profile {c : Credentials} (hid : breaks c.accessKeyId = 0)
    (hsecret : breaks c.secretAccessKey = 0) : lines (credentialsFile c) = profile c := by
  have hone : ∀ {label text : String}, '\n' ∉ label.toList → breaks text = 0 →
      (label ++ text).toList.splitOn '\n' = [(label ++ text).toList] := by
    intro label text hlabel htext
    refine List.splitOn_eq_singleton ?_
    rw [String.toList_append, List.mem_append, not_or]
    exact ⟨hlabel, Text.breaks_eq_zero_iff.1 htext⟩
  have hheading : heading.toList.splitOn '\n' = [heading.toList] :=
    List.splitOn_eq_singleton (by decide)
  rw [lines_credentialsFile, hheading, hone (by decide) hid, hone (by decide) hsecret]
  simp [profile]

/-- The file has the lines of the profile exactly if neither key has a line break. -/
lemma lines_eq_profile_iff {c : Credentials} :
    lines (credentialsFile c) = profile c ↔
      breaks c.accessKeyId = 0 ∧ breaks c.secretAccessKey = 0 := by
  constructor
  · intro h
    have hlength := length_lines c
    rw [h, profile] at hlength
    simp only [List.length_cons, List.length_nil] at hlength
    omega
  · rintro ⟨hid, hsecret⟩
    exact lines_eq_profile hid hsecret

/-! ## Access keys that can be found -/

/-- A secret in which a user wrote two texts as access keys. -/
def writtenSecret (id secret : String) : Cluster.Secret where
  data := some (.ofList [
    (Credentials.Key.s3AccessKey, id.toUTF8.toList),
    (Credentials.Key.s3SecretKey, secret.toUTF8.toList)])

/-- The access keys are found in a secret that a user wrote. -/
def Written (s : Credentials.Settings) (c : Credentials) : Prop :=
  ∃ secret, Action.Runs (Credentials.s3 (σ := Unit) s) ()
    [Credentials.readUser s (.ok (some secret))] (.ok c) ()

/-- Bytes of a text that stand under a key are read as the text. -/
lemma value?_of_bytes {secret : Cluster.Secret} {data : Dict Cluster.Bytes} {key text : String}
    (hdata : secret.data = some data) (hget : data.get? key = some text.toUTF8.toList) :
    secret.value? key = some text := by
  rw [Cluster.Secret.value?, hdata, Option.bind_some, hget]
  exact Text.Percent.fromUTF8?_toUTF8 text

/-- A secret gives back the two texts that were written into it. -/
lemma s3Keys_writtenSecret (name id secret : String) :
    Credentials.s3Keys name .user Credentials.Key.s3AccessKey Credentials.Key.s3SecretKey
      (writtenSecret id secret) = .ok ⟨id, secret, .user⟩ := by
  have hne : Credentials.Key.s3AccessKey ≠ Credentials.Key.s3SecretKey := by decide +kernel
  have hid : (writtenSecret id secret).value? Credentials.Key.s3AccessKey = some id :=
    value?_of_bytes rfl ((Dict.get?_insert_of_ne _ _ hne).trans (Dict.get?_insert_self ..))
  have hsecret : (writtenSecret id secret).value? Credentials.Key.s3SecretKey = some secret :=
    value?_of_bytes rfl (Dict.get?_insert_self ..)
  rw [Credentials.s3Keys, Credentials.require, Credentials.require, hid, hsecret]
  rfl

/-- Two texts that a user wrote into a secret are found as access keys. -/
lemma runs_s3_writtenSecret {σ : Type} (s : Credentials.Settings) (st : σ) (id secret : String) :
    Action.Runs (Credentials.s3 s) st
      [Credentials.readUser s (.ok (some (writtenSecret id secret)))] (.ok ⟨id, secret, .user⟩)
      st := by
  rw [Credentials.s3_eq]
  refine Credentials.runs_layered.2 (.inr (.inl ⟨_, rfl, ?_, rfl⟩))
  exact congrArg Sum.inl (s3Keys_writtenSecret s.userSecret id secret)

/-- Any two texts can be access keys. -/
lemma written (s : Credentials.Settings) (id secret : String) : Written s ⟨id, secret, .user⟩ :=
  ⟨_, runs_s3_writtenSecret s () id secret⟩

/-! ## What the file tells -/

/-- **A credentials file tells the access keys, and has three lines, unless there are line breaks
in them.** Any two texts can be access keys. Two files are the same only if the access keys are, or
if a part of the one file that begins with a line break belongs to the identifier there and to the
secret here. A file has one more line for each line break in the access keys, and has the heading,
the identifier and the secret as its lines if and only if there is none. -/
theorem credentialsFile_tells (s : Credentials.Settings) :
    (∀ id secret, Written s ⟨id, secret, .user⟩) ∧
      ∀ c d : Credentials,
        (credentialsFile c = credentialsFile d ↔ c.Same d ∨ Shifted c d ∨ Shifted d c) ∧
        (lines (credentialsFile c)).length = 3 + breaks c.accessKeyId + breaks c.secretAccessKey ∧
        (lines (credentialsFile c) = profile c ↔
          breaks c.accessKeyId = 0 ∧ breaks c.secretAccessKey = 0) :=
  ⟨written s, fun c _ => ⟨credentialsFile_eq_iff, length_lines c, lines_eq_profile_iff⟩⟩

/-- A secret of two lines, where the second looks like the beginning of the line for a secret, can
also be read as an identifier of two lines. -/
theorem credentialsFile_ambiguous :
    ∃ c d : Credentials, Written {} c ∧ Written {} d ∧ c.accessKeyId ≠ d.accessKeyId ∧
      c.secretAccessKey ≠ d.secretAccessKey ∧ credentialsFile c = credentialsFile d ∧
      lines (credentialsFile c) = ["[default]", "aws_access_key_id = AKIA",
        "aws_secret_access_key = shh", "aws_secret_access_key = more"] := by
  refine ⟨⟨"AKIA\naws_secret_access_key = shh", "more", .user⟩,
    ⟨"AKIA", "shh\naws_secret_access_key = more", .user⟩, written _ _ _, written _ _ _, ?_, ?_, ?_,
    ?_⟩
  · decide +kernel
  · decide +kernel
  · decide +kernel
  · decide +kernel

end S3

end Depot
