import Depot.Proofs.Ownership

set_option autoImplicit false

/-!
# Editing the configuration

The status says that the operator owns the storage, but not which one. Once the configuration is
edited to name another asset, whatever the status says is said of that one. An asset of somebody
else is safe if the status did not call the storage managed at the edit; if it did, the asset is
taken for one of the operator, and the next removal that succeeds deletes it.

## Main definitions

* `Storage.Session.edited` — a session begun anew after the configuration was edited.

## Main results

* `Storage.Spared.of_life`, `Storage.Taken.of_life` — what becomes of the asset named by an edit.
* `Storage.edited_spared_or_removed` — the two cases, as seen from the calls.
* `Storage.edited_claim_removed` — a claim of somebody else that is deleted.
-/

namespace Depot.Storage

/-- The session that is begun with an edited configuration: the status is the one before. -/
def Session.edited (b : Session Storage) (spec : Spec) (st : Storage) : Session Storage :=
  ⟨st, { b.registry with spec }⟩

/-- The session that is begun after the configuration was edited to ask for a claim. -/
def Session.claimEdited (b : Session Storage) (name : String) : Session Storage :=
  b.edited (claiming name).registry.spec (claiming name).config

variable {s : Settings} {a b c : Session Storage} {h l : Ledger} {x : Asset}

/-- A life goes on in the same way from another ledger with the same history. -/
lemma Life.rebase (hlife : Life s a h b l) (h' : Ledger) (hh : h.SameHistory h') :
    ∃ l', Life s a h' b l' ∧ l.SameHistory l' := by
  refine hlife.preserves (P := fun b l => ∃ l', Life s a h' b l' ∧ l.SameHistory l') ?_
    ⟨h', .start, hh⟩
  rintro k b c l es r ⟨l', hlife', hl⟩ hrun
  exact ⟨_, .step k hlife' hrun, (hl.begin (k.reclaims b)).after es⟩

/-! ## An asset of somebody else -/

/-- The asset is somebody else's until the operator creates one under its name. -/
structure Spared (x : Asset) (b : Session Storage) (l : Ledger) : Prop where
  /-- The session is sound. -/
  sound : Sound b l
  /-- Only what was created is held. -/
  held : l.held ⊆ l.made
  /-- Until it is created, the asset is named in the configuration and not managed. -/
  kept : x ∉ l.made → b.config.asset = x ∧ b.config.resource ≠ "" ∧
    b.ownership ≠ some .managed ∧ l.claimed = false

/-- At the edit nothing is held under the name. -/
lemma Spared.start {made gone : List Asset} (hspec : a.registry.spec = a.config.toSpec)
    (hname : a.config.resource ≠ "") (hm : a.ownership ≠ some .managed) :
    Spared a.config.asset a { made, gone } where
  sound := .start hspec hm
  held _ hx := nomatch hx
  kept _ := ⟨rfl, hname, hm, rfl⟩

/-- An operation begins without looking for the default claim if another name is given. -/
lemma reclaims_eq_false (k : Task) (hb : b.config.resource ≠ "") : k.reclaims b = false := by
  have hne : b.config ≠ filesystem { claim := some "" } := fun hc => hb (by rw [hc]; rfl)
  simp [Task.reclaims, hne]

/-- What is spared is still so when the next operation begins. -/
lemma Spared.begin (hb : Spared x b l) (reclaiming : Bool) : Spared x b (l.begin reclaiming) :=
  ⟨hb.sound.begin reclaiming, hb.held, hb.kept⟩

/-- During an operation the asset is owned only once it was created. -/
lemma Spared.not_owns (hb : Spared x b l) (hl : b.config.resource ≠ "" → l.reclaiming = false)
    {es : Trace World} (hx : x ∉ (l.after es).made) : ¬ (l.after es).Owns x := by
  obtain ⟨-, hname, -, hclaimed⟩ := hb.kept fun hm => hx (Ledger.mem_made_after hm es)
  rintro (hheld | ⟨-, hclaim⟩)
  · exact hx (Ledger.held_subset_made_after hb.held es hheld)
  · rw [Ledger.not_claimed_after hclaimed (hl hname)] at hclaim
    cases hclaim

/-- Every operation leaves the asset to its owner. -/
lemma Spared.step (hb : Spared x b l) (k : Task) {es : Trace World} {r : Except Error k.Result}
    (hrun : ((k.work s).start b).Runs es (r, c)) :
    Spared x c ((l.begin (k.reclaims b)).after es) := by
  have hc := k.advances hb.sound hrun
  have hb : Spared x b (l.begin (k.reclaims b)) := hb.begin _
  refine ⟨hc.sound, Ledger.held_subset_made_after hb.held es, fun hx => ?_⟩
  obtain ⟨hasset, hname, hm, hclaimed⟩ := hb.kept fun hm => hx (Ledger.mem_made_after hm es)
  have hr : c.config.resource = b.config.resource := hc.stable hname hm
  have hc' : c.config.asset = x := (asset_eq hc.backend hr).trans hasset
  refine ⟨hc', hr ▸ hname, fun hmanaged => ?_, ?_⟩
  · exact hb.not_owns (reclaims_eq_false k) hx (hc' ▸ hc.sound.owned hmanaged)
  · exact Ledger.not_claimed_after hclaimed (reclaims_eq_false k hname) es

/-- **An asset that was not managed at the edit is left to its owner.** -/
theorem Spared.of_life (ha : Spared x a h) (hlife : Life s a h b l) : Spared x b l :=
  hlife.preserves (fun k _ _ _ _ _ hb hrun => hb.step k hrun) ha

/-! ## An asset that is taken over -/

/-- The asset is taken for one of the operator until it is removed. -/
structure Taken (x : Asset) (b : Session Storage) (l : Ledger) : Prop where
  /-- The session is sound. -/
  sound : Sound b l
  /-- The asset is taken for one that is held until it is removed. -/
  held : x ∈ l.held ∨ x ∈ l.gone

/-- At the edit the asset is as good as held. -/
lemma Taken.start {made gone : List Asset} (hspec : a.registry.spec = a.config.toSpec)
    (hname : a.config.resource ≠ "") (hm : a.ownership = some .managed) :
    Taken a.config.asset a { held := [a.config.asset], made, gone } where
  sound :=
    { selected := hspec
      held := fun _ hx => ⟨List.mem_singleton.1 hx, hm⟩
      owned := fun _ => .inl List.mem_cons_self
      named := fun _ => hname
      containers := nofun }
  held := .inl List.mem_cons_self

/-- Until it is removed, the asset is named in the configuration and managed. -/
lemma Taken.managed (hb : Taken x b l) (hx : x ∉ l.gone) :
    b.config.asset = x ∧ b.ownership = some .managed := by
  obtain ⟨rfl, hm⟩ := hb.sound.held x (hb.held.resolve_right hx)
  exact ⟨rfl, hm⟩

/-- Every operation keeps the asset for the operator or removes it. -/
lemma Taken.step (hb : Taken x b l) (k : Task) {es : Trace World} {r : Except Error k.Result}
    (hrun : ((k.work s).start b).Runs es (r, c)) :
    Taken x c ((l.begin (k.reclaims b)).after es) := by
  have hc := k.advances hb.sound hrun
  have hheld : x ∈ (l.begin (k.reclaims b)).held ∨ x ∈ (l.begin (k.reclaims b)).gone := hb.held
  exact ⟨hc.sound, Ledger.held_or_gone_after hheld es⟩

/-- **An asset that was called managed at the edit is taken over.** -/
theorem Taken.of_life (ha : Taken x a h) (hlife : Life s a h b l) : Taken x b l :=
  hlife.preserves (fun k _ _ _ _ _ hb hrun => hb.step k hrun) ha

/-- A removal that succeeds removes an asset that was taken over. -/
lemma Taken.touched_of_remove (hb : Taken x b l) (hx : x ∉ l.gone) {es : Trace World} {r : Bool}
    (hrun : ((Storage.remove s).start b).Runs es (.ok r, c)) :
    x ∈ ((l.begin false).after es).gone ∧ ∃ e ∈ es, e.call.Touches x := by
  obtain ⟨rfl, hm⟩ := hb.managed hx
  have hsound : Sound b (l.begin false) := hb.sound.begin false
  have hclears := ((keeps_remove hsound rfl).of_runs hrun ((Ledger.path_iff ..).2 rfl)).2
  have hgone := hclears rfl hm (hb.sound.named hm)
  exact ⟨hgone, Ledger.touched_of_mem_gone hgone hx⟩

/-! ## Main results -/

/-- **What is said of the storage before an edit is said of another asset after it.** Take any
session, with any history, edit its configuration to name another asset, and begin a new session;
then any operations follow, with any answers. If the status did not call the storage managed at the
edit, no call sets up, empties or deletes the asset unless the operator created it before. If the
status did, the asset stays in the configuration and managed until it is removed, and a removal that
succeeds removes it, whoever created it.

**Proof sketch.** The ledger before the edit is about another asset, and the session is not sound
for it. What was created and removed is all that the statement is about, so the life can be read
from another ledger with the same history (`Life.rebase`): one in which nothing is held if the
storage was not managed, and one in which the asset itself is held if it was. The session is sound
for these. -/
theorem edited_spared_or_removed {spec : Spec} {st : Storage} (hedit : ofSpec spec = .ok st)
    (hname : st.resource ≠ "") (hlife : Life s (a.edited spec st) h b l) :
    (a.ownership ≠ some .managed → ∀ (k : Task) (es : Trace World) (c : World.Call),
      ((k.work s).start b).Asks es c → st.asset ∉ ((l.begin (k.reclaims b)).after es).made →
        ¬ c.Touches st.asset) ∧
    (a.ownership = some .managed → st.asset ∉ l.gone →
      (b.config.asset = st.asset ∧ b.ownership = some .managed) ∧
      ∀ (es : Trace World) (r : Bool) (c : Session Storage),
        ((Storage.remove s).start b).Runs es (.ok r, c) →
          st.asset ∈ ((l.begin false).after es).gone ∧ ∃ e ∈ es, e.call.Touches st.asset) := by
  have hspec : spec = st.toSpec := (ofSpec_eq_ok ..).1 hedit
  constructor
  · intro hm k es c hc hx htouch
    obtain ⟨l', hlife', hl⟩ := hlife.rebase { made := h.made, gone := h.gone } ⟨rfl, rfl⟩
    have hstart : Spared st.asset (a.edited spec st) { made := h.made, gone := h.gone } :=
      Spared.start (a := a.edited spec st) hspec hname hm
    have hb : Spared st.asset b l' := hstart.of_life hlife'
    have hafter := (hl.begin (k.reclaims b)).after es
    rw [← hafter.made] at hx
    exact (hb.begin _).not_owns (reclaims_eq_false k) hx (hb.sound.owns_of_asks hc htouch)
  · intro hm hx
    obtain ⟨l', hlife', hl⟩ :=
      hlife.rebase { held := [st.asset], made := h.made, gone := h.gone } ⟨rfl, rfl⟩
    have hstart : Taken st.asset (a.edited spec st)
        { held := [st.asset], made := h.made, gone := h.gone } :=
      Taken.start (a := a.edited spec st) hspec hname hm
    have hb : Taken st.asset b l' := hstart.of_life hlife'
    rw [← hl.gone] at hx
    refine ⟨hb.managed hx, fun es r c hrun => ?_⟩
    rw [← ((hl.begin false).after es).gone]
    exact hb.touched_of_remove hx hrun

/-- A claim of somebody else that is named by an edit of a fresh registry is spared. -/
theorem edited_spared_or_removed_claiming :
    ∃ b l, Life .impatient ((claiming "images").claimEdited "theirs") {} b l ∧
      b.ownership = some .unmanaged ∧
      ∀ (es : Trace World) (c : World.Call),
        ((Storage.remove .impatient).start b).Asks es c →
          Asset.of .filesystem "theirs" ∉ ((l.begin false).after es).made →
            ¬ c.Touches (.of .filesystem "theirs") := by
  obtain ⟨b, l, hlife, hu⟩ :=
    Life.exists_of_rehearse .impatient (clusterWith ["theirs"]) 3 [.create]
      ((claiming "images").claimEdited "theirs") {} (fun b _ => b.ownership = some .unmanaged)
      (by decide +kernel)
  have hspared := (edited_spared_or_removed rfl (by decide) hlife).1 (by decide)
  exact ⟨b, l, hlife, hu, hspared .remove⟩

/-- A claim of somebody else that is named by an edit while the status calls the storage managed is
found, and then deleted. -/
theorem edited_claim_removed :
    ∃ b l, Life .impatient (claiming "images") {} b l ∧ b.ownership = some .managed ∧
      ∃ c l', Life .impatient (b.claimEdited "theirs") l c l' ∧
        Asset.of .filesystem "theirs" ∉ l'.made ∧ Asset.of .filesystem "theirs" ∈ l'.gone := by
  obtain ⟨b, l, hlife, hm, hnext⟩ :=
    Life.exists_of_rehearse .impatient (clusterWith ["theirs"]) 3 [.create] (claiming "images") {}
      (fun b l => b.ownership = some .managed ∧
        (rehearse .impatient (clusterWith ["theirs"]) 3 [.create, .remove]
          (b.claimEdited "theirs") l).any fun r =>
            Asset.of .filesystem "theirs" ∉ r.2.made ∧ Asset.of .filesystem "theirs" ∈ r.2.gone)
      (by decide +kernel)
  obtain ⟨c, l', hlife', hx⟩ :=
    Life.exists_of_rehearse .impatient (clusterWith ["theirs"]) 3 [.create, .remove]
      (b.claimEdited "theirs") l
      (fun _ l => Asset.of .filesystem "theirs" ∉ l.made ∧ Asset.of .filesystem "theirs" ∈ l.gone)
      hnext
  exact ⟨b, l, hlife, hm, c, l', hlife', hx⟩

end Depot.Storage
