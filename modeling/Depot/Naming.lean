import Depot.Error
import Depot.Text.Blank

set_option autoImplicit false

/-!
# Names of resources

Names are made from the name of the cluster, the product, what else identifies the resource, and
fresh random hexadecimal digits, so that two attempts never try the same name.

## Main definitions

* `Naming.storageName` — the name of a bucket or container.
* `Naming.accountName` — the name of a storage account.
-/

namespace Depot.Naming

/-- The part that every name has. -/
def product : String := "image-registry"

/-- The greatest length of the name of a bucket. -/
def maxBucketLength : Nat := 62

/-- The greatest length of the name of a container. -/
def maxContainerLength : Nat := 63

/-- The greatest length of the name of a storage account. -/
def maxAccountLength : Nat := 24

/-- The number of random digits at the end of the name of a bucket or container. -/
def randomLength : Nat := 12

/-- The number of random digits at the end of the name of a storage account. -/
def accountRandomLength : Nat := 8

/-- How many names are tried before giving up. -/
def maxAttempts : Nat := 5000

/-- Whether a character may stand in any name. -/
def isNameChar (c : Char) : Bool := ('a' ≤ c && c ≤ 'z') || ('0' ≤ c && c ≤ '9')

/-- A letter from A to Z in lowercase, any other character as it is. -/
def lower (c : Char) : Char :=
  if 'A' ≤ c ∧ c ≤ 'Z' then Char.ofNat (c.toNat + 32) else c

/-- Lowercases letters and puts one dash for each run of other characters but digits; `dashed`
says whether the character before is a dash or there is none. -/
def sanitizeAfter (dashed : Bool) : List Char → List Char
  | [] => []
  | c :: cs =>
    if isNameChar (lower c) then lower c :: sanitizeAfter false cs
    else if dashed then sanitizeAfter true cs
    else '-' :: sanitizeAfter true cs

/-- The text in lowercase with one dash for each run of characters other than letters and digits,
and without one at the start. -/
def sanitize (cs : List Char) : List Char := sanitizeAfter true cs

/-- The longest beginning of at most `n` characters that does not end in a dash. -/
def truncate (n : Nat) (cs : List Char) : List Char :=
  ((cs.take n).reverse.dropWhile (· = '-')).reverse

/-- The part of a name before the random digits. -/
def storageStem (infra : String) (extras : List String) (budget : Nat) : List Char :=
  let parts := infra :: product :: extras.filter (· ≠ "")
  truncate budget (sanitize (String.intercalate "-" parts).toList)

/-- The name of a bucket or container of at most `maxLength` characters: only the part before the
random digits is shortened. -/
def storageName (infra : String) (extras : List String) (maxLength : Nat) (random : List Char) :
    Except Error String :=
  if Text.isBlankText infra then
    .error (.configuration "cannot generate storage name: infrastructure name is empty")
  else if maxLength ≤ randomLength + 1 then
    .error (.configuration
      ("cannot generate storage name within " ++ toString maxLength ++ " characters"))
  else
    let stem := storageStem infra extras (maxLength - (randomLength + 1))
    .ok (String.ofList (stem ++ '-' :: random.take randomLength))

/-- Whether a character is a letter or digit of ASCII. -/
def isAlphanumeric (c : Char) : Bool :=
  ('a' ≤ c && c ≤ 'z') || ('A' ≤ c && c ≤ 'Z') || ('0' ≤ c && c ≤ '9')

/-- The name of a storage account: lowercase letters and digits only. -/
def accountName (infra : String) (random : List Char) : Except Error String :=
  let stem := (infra.toList.filter isAlphanumeric).map lower
  if stem.isEmpty then
    .error (.configuration
      ("cannot generate storage account name from infrastructure name " ++ Text.quoted infra))
  else
    .ok (String.ofList
      (((stem ++ "registry".toList).take 16 ++ random.take accountRandomLength).take
        maxAccountLength))

end Depot.Naming
