import Depot.Azure.Manager
import Depot.Proofs.Percent
import Depot.Swift.Rest

set_option autoImplicit false

/-!
# Addresses tell what they are for

A request to the object store or to the resource manager of Azure finds what it works on by its
address alone, and some of these requests delete. An address is a base and a path whose segments are
encoded names, so no two containers, objects or accounts share one, whatever their names are.

## Main definitions

* `Swift.Rest.Target`, `Azure.Manager.Target` — what addresses are for, with their `url` and the
  `texts` of its path.

## Main results

* `Swift.Rest.Target.url_eq`, `Azure.Manager.Target.url_eq` — an address is a base and a path.
* `Text.Percent.injective_of_path` — such addresses are different if the texts of their paths are.
* `addresses_tell` — different targets have different addresses, and the names of a container and an
  object are read from their address.
-/

namespace Depot

open Text.Percent (encodeSegment path pathTexts? pathTexts?_path)

/-- Addresses with a common base are different if the texts of their paths are. -/
theorem Text.Percent.injective_of_path {α : Type} {base : String} {address : α → String}
    {texts : α → List String} (haddress : ∀ t, address t = base ++ "/" ++ path (texts t))
    (hne : ∀ t, texts t ≠ []) (hinjective : Function.Injective texts) :
    Function.Injective address := by
  intro t u h
  rw [haddress, haddress] at h
  have hpath : path (texts t) = path (texts u) := by
    have h := congrArg String.toList h
    simp only [String.toList_append] at h
    exact String.toList_inj.1 (List.append_cancel_left h)
  have htexts := congrArg pathTexts? hpath
  rw [pathTexts?_path (hne t), pathTexts?_path (hne u)] at htexts
  exact hinjective (Option.some.inj htexts)

/-! ## The object store -/

namespace Swift.Rest

/-- What an address of the object store is for. -/
inductive Target where
  /-- A container. -/
  | container (name : String)
  /-- An object in a container. -/
  | object (holder name : String)
  deriving Repr, DecidableEq

namespace Target

/-- The address. -/
def url (endpoint : String) : Target → String
  | .container name => Rest.url endpoint name none
  | .object holder name => Rest.url endpoint holder (some name)

/-- The names in the path of the address. -/
def texts : Target → List String
  | .container name => [name]
  | .object holder name => [holder, name]

/-- Every address of Swift has a part. -/
lemma texts_ne_nil (t : Target) : t.texts ≠ [] := by
  cases t <;> nofun

/-- The parts of an address of Swift tell what it is of. -/
lemma texts_injective : Function.Injective texts := by
  intro t u h
  cases t <;> cases u <;> cases h <;> rfl

/-- The address of a target is the endpoint and the path of its names. -/
theorem url_eq (endpoint : String) (t : Target) :
    t.url endpoint = endpoint ++ "/" ++ path t.texts := by
  cases t with
  | container name => simp [url, Rest.url, texts, path]
  | object holder name =>
    simp [url, Rest.url, texts, path, String.intercalate_cons_cons, String.append_assoc]

end Target

end Swift.Rest

/-! ## The resource manager -/

namespace Azure.Manager

/-- What an address of the resource manager is for. -/
inductive Target where
  /-- A storage account. -/
  | account (subscription group name : String)
  /-- A container in a storage account. -/
  | container (subscription group holder name : String)
  deriving Repr, DecidableEq

namespace Target

/-- The address. -/
def url (manager : String) : Target → String
  | .account subscription group name => accountUrl manager subscription group name
  | .container subscription group holder name =>
    containerUrl manager subscription group holder name

/-- The names in the path of the address, of which some are fixed. -/
def texts : Target → List String
  | .account subscription group name =>
    ["subscriptions", subscription, "resourceGroups", group, "providers", "Microsoft.Storage",
      "storageAccounts", name]
  | .container subscription group holder name =>
    ["subscriptions", subscription, "resourceGroups", group, "providers", "Microsoft.Storage",
      "storageAccounts", holder, "blobServices", "default", "containers", name]

/-- Every address of the resource manager has a part. -/
lemma texts_ne_nil (t : Target) : t.texts ≠ [] := by
  cases t <;> nofun

/-- The parts of an address of the resource manager tell what it is of. -/
lemma texts_injective : Function.Injective texts := by
  intro t u h
  cases t <;> cases u <;> cases h <;> rfl

/-- The fixed names are written as they are. -/
lemma encodeSegment_fixed : ∀ name ∈ ["subscriptions", "resourceGroups", "providers",
    "Microsoft.Storage", "storageAccounts", "blobServices", "default", "containers"],
    encodeSegment name = name := by
  decide +kernel

/-- The address of a target is that of the resource manager and the path of its names. -/
theorem url_eq (manager : String) (t : Target) :
    t.url manager = manager ++ "/" ++ path t.texts := by
  have hfixed := encodeSegment_fixed
  simp only [List.forall_mem_cons] at hfixed
  cases t with
  | account => simp [url, accountUrl, subscriptionUrl, texts, path, hfixed, ← String.toList_inj]
  | container =>
    simp [url, containerUrl, accountUrl, subscriptionUrl, texts, path, hfixed, ← String.toList_inj]

end Target

end Azure.Manager

/-! ## Targets and addresses -/

/-- **Addresses tell what they are for.** Different containers and objects have different addresses
at every endpoint, and the names are read from what follows the endpoint and a slash. Different
storage accounts and containers in them have different addresses at every resource manager; in
particular, no account has the address of a container. -/
theorem addresses_tell :
    (∀ endpoint, Function.Injective (Swift.Rest.Target.url endpoint) ∧
      ∀ t : Swift.Rest.Target, ∃ rest, t.url endpoint = endpoint ++ "/" ++ rest ∧
        pathTexts? rest = some t.texts) ∧
    ∀ manager, Function.Injective (Azure.Manager.Target.url manager) := by
  refine ⟨fun endpoint => ⟨?_, fun t => ?_⟩, fun manager => ?_⟩
  · exact Text.Percent.injective_of_path (Swift.Rest.Target.url_eq endpoint)
      Swift.Rest.Target.texts_ne_nil Swift.Rest.Target.texts_injective
  · exact ⟨path t.texts, t.url_eq endpoint, pathTexts?_path t.texts_ne_nil⟩
  · exact Text.Percent.injective_of_path (Azure.Manager.Target.url_eq manager)
      Azure.Manager.Target.texts_ne_nil Azure.Manager.Target.texts_injective

end Depot
