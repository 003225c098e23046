import Depot.Proofs.Surroundings

set_option autoImplicit false

/-!
# Tags that are bound

In surroundings that tell the truth the tags in effect on a bucket are read to the end, and every
tag that is missing is bound. When none is missing nothing is bound.

## Main results

* `Gcs.Binding.ends_effective` — the tags in effect are read.
* `Gcs.Binding.ends_bindTags` — all tags that are wanted are in effect after they were bound.
-/

namespace Depot.Gcs.Binding

variable {E : Surroundings} {needed : Prop} {g : Cloud} {σ : Type} {t : σ} {resource : String}

/-! ## Reading -/


/-- From each page on the rest of the listing is read.

**Proof sketch.** By induction on the pages that may still be asked for. A page that names a next
one is not the last that the cloud may give, so pages are left for the rest. -/
lemma ends_effectiveFrom (hparent : g.HasParent resource) {pages : Nat} {token : Option String}
    (hpages : 0 < pages) (hcount : (g.resume token).pages + pages = maxPages) :
    Action.Ends (E.world needed) (effectiveFrom resource pages token) t g fun r t' g' =>
      ∃ values listed count, r = .ok values ∧ t' = t ∧ g' = { g with listed, pages := count } ∧
        (∀ v ∈ values, (resource, v) ∈ g.tags) ∧
        ∀ v, (resource, v) ∈ g.tags → v ∈ (g.resume token).listed ++ values := by
  induction pages generalizing token g with
  | zero => exact absurd hpages (Nat.lt_irrefl 0)
  | succ pages ih =>
    have hlist (page : TagPage) : g.list token page =
        { g with
          listed := (g.resume token).listed ++ page.values
          pages := (g.resume token).pages + 1 } := by
      cases token <;> rfl
    rw [effectiveFrom, Action.ends_bind, Action.ends_perform]
    refine Surroundings.ends_call (c := .gcs (.listEffectiveTags resource token))
      (fun h => h.elim) fun x hx => ?_
    obtain ⟨page, rfl, hl⟩ := hx hparent
    have hcomplete := hl.complete
    have hshort := hl.short
    rw [hlist] at hcomplete hshort
    rw [show g.next (.gcs (.listEffectiveTags resource token)) (.ok page) = g.list token page
      from rfl, hlist]
    dsimp only
    split
    · rename_i hnext
      exact ⟨page.values, _, _, rfl, rfl, rfl, hl.sound, hcomplete hnext⟩
    · rename_i next hnext
      have hmore : (g.resume token).pages + 1 < maxPages := hshort (by rw [hnext]; exact nofun)
      rw [Action.ends_bind]
      refine (ih ?_ ?_ ?_).mono ?_
      · exact hparent
      · omega
      · change (g.resume token).pages + 1 + pages = maxPages
        omega
      rintro _ _ _ ⟨values, listed, count, rfl, rfl, rfl, hsound, hall⟩
      refine ⟨page.values ++ values, listed, count, rfl, rfl, rfl, ?_, ?_⟩
      · intro v hv
        exact (List.mem_append.1 hv).elim (hl.sound v) (hsound v)
      · intro v hv
        rw [← List.append_assoc]
        exact hall v hv

/-- **The tags in effect are read**, all of them and no others. -/
theorem ends_effective (hparent : g.HasParent resource) :
    Action.Ends (E.world needed) (effective resource) t g fun r t' g' =>
      ∃ values listed count, r = .ok values ∧ t' = t ∧ g' = { g with listed, pages := count } ∧
        ∀ v, v ∈ values ↔ (resource, v) ∈ g.tags := by
  refine (ends_effectiveFrom hparent (by decide) rfl).mono ?_
  rintro r t' g' ⟨values, listed, count, hr, ht, hg, hsound, hall⟩
  exact ⟨values, listed, count, hr, ht, hg, fun v => ⟨hsound v, hall v⟩⟩

/-! ## Binding -/

/-- The tags that are missing. -/
lemma mem_pending {wanted : List GcpTag} {inEffect : List String} {v : String} :
    v ∈ pending wanted inEffect ↔ v ∈ wanted.map GcpTag.namespacedValue ∧ v ∉ inEffect := by
  refine Dict.mem_keys_ofList.trans ?_
  simp

/-- Waiting for a permit ends.

**Proof sketch.** The clock is read, a sleep may follow, and neither changes the cloud. -/
lemma ends_acquire (p : Pacer) :
    Action.Ends (E.world needed) p.acquire t g fun r t' g' =>
      (∃ p', r = .ok p') ∧ t' = t ∧ g' = g := by
  have hnow {Q : Except Error Pacer → σ → Cloud → Prop} {f : Span → Operating σ Pacer}
      (h : ∀ now, Action.Ends (E.world needed) (f now) t g Q) :
      Action.Ends (E.world needed) (do f (← Action.perform World.now)) t g Q :=
    Action.ends_bind.2 (Action.ends_perform.2
      (Surroundings.ends_quiet (c := .now) (fun h => h) (fun _ => rfl) h))
  refine hnow fun now => ?_
  dsimp only
  split
  · rw [Action.ends_bind, Action.ends_perform]
    refine Surroundings.ends_quiet (c := .sleep _) (fun h => h) (fun _ => rfl) fun _ => ?_
    exact hnow fun now => ⟨⟨_, rfl⟩, rfl, rfl⟩
  · exact hnow fun now => ⟨⟨_, rfl⟩, rfl, rfl⟩

/-- A bucket stays. -/
lemma hasParent_grows {g' : Cloud} (h : g.Grows g') (hparent : g.HasParent resource) :
    g'.HasParent resource := by
  obtain ⟨bucket, hname, hb⟩ := hparent
  exact ⟨bucket, hname, h.assets hb⟩

/-- A tag is bound at the first try.

**Proof sketch.** The first try is answered that the tag is bound now or was bound before. -/
lemma ends_bindOne (s : Settings) (hneeded : needed) (hparent : g.HasParent resource)
    (value : String) :
    Action.Ends (E.world needed) (bindOne s resource value) t g fun r t' g' =>
      r = .ok () ∧ t' = t ∧ g.Grows g' ∧ (resource, value) ∈ g'.tags := by
  refine Surroundings.ends_retry _ ?_
  rw [tryBind, Action.ends_bind, Action.ends_perform]
  refine Surroundings.ends_call (c := .gcs (.createBinding resource value))
    (fun _ => hneeded) fun x hx => ?_
  obtain rfl | ⟨e, rfl, he, hbound⟩ := hx hparent
  · exact ⟨(), rfl, rfl, rfl, ⟨fun _ h => h, fun _ h => h, fun _ h => List.mem_cons_of_mem _ h⟩,
      List.mem_cons_self⟩
  · dsimp only
    rw [if_pos he]
    exact ⟨(), rfl, rfl, rfl, .refl g, hbound⟩

/-- One tag after another is bound.

**Proof sketch.** By induction on the values. What is bound stays bound, since the cloud only
grows. -/
lemma ends_bindEach (s : Settings) {values : List String} (hneeded : values ≠ [] → needed)
    (hparent : g.HasParent resource) (pacer : Pacer) :
    Action.Ends (E.world needed) (bindEach s resource pacer values) t g fun r t' g' =>
      (∃ bound, r = .ok (bound, [])) ∧ t' = t ∧ g.Grows g' ∧
        ∀ v ∈ values, (resource, v) ∈ g'.tags := by
  induction values generalizing pacer g with
  | nil => exact ⟨⟨[], rfl⟩, rfl, .refl g, fun _ h => (nomatch h)⟩
  | cons value rest ih =>
    have hneeded : needed := hneeded (List.cons_ne_nil _ _)
    rw [bindEach, Action.ends_bind]
    refine (ends_acquire pacer).mono ?_
    rintro _ _ _ ⟨⟨pacer, rfl⟩, rfl, rfl⟩
    dsimp only
    rw [Action.ends_bind, Action.ends_outcome]
    refine (ends_bindOne s hneeded hparent value).mono ?_
    rintro _ _ g' ⟨rfl, rfl, hgrows, hbound⟩
    dsimp only
    rw [Action.ends_bind]
    refine (ih (fun _ => hneeded) (hasParent_grows hgrows hparent) pacer).mono ?_
    rintro _ _ g'' ⟨⟨bound, rfl⟩, rfl, hgrows', hall⟩
    exact ⟨⟨_, rfl⟩, rfl, hgrows.trans hgrows',
      List.forall_mem_cons.2 ⟨hgrows'.tags hbound, hall⟩⟩

/-- **All tags that are wanted are in effect after they were bound**, and nothing is bound if they
were before.

**Proof sketch.** The listing gives the tags that are in effect. The wanted ones among them are
(`hfound`), and the pending ones are bound one after another; where none is pending, no call
follows. -/
theorem ends_bindTags (s : Settings) (wanted : List GcpTag)
    (hneeded : (∀ v ∈ wanted.map GcpTag.namespacedValue, (resource, v) ∈ g.tags) ∨ needed)
    (hparent : g.HasParent resource) :
    Action.Ends (E.world needed) (bind s resource wanted) t g fun r t' g' =>
      (∃ bound, r = .ok bound) ∧ t' = t ∧ g.Grows g' ∧
        ∀ v ∈ wanted.map GcpTag.namespacedValue, (resource, v) ∈ g'.tags := by
  rw [bind, Action.ends_bind]
  refine (ends_effective hparent).mono ?_
  rintro _ _ _ ⟨values, listed, count, rfl, rfl, rfl, hvalues⟩
  have hreread : g.Grows { g with listed, pages := count } :=
    ⟨fun _ h => h, fun _ h => h, fun _ h => h⟩
  have hfound {g' : Cloud} (h : g.Grows g')
      (hbound : ∀ v ∈ pending wanted values, (resource, v) ∈ g'.tags) :
      ∀ v ∈ wanted.map GcpTag.namespacedValue, (resource, v) ∈ g'.tags := by
    intro v hv
    by_cases hin : v ∈ values
    · exact h.tags ((hvalues v).1 hin)
    · exact hbound v (mem_pending.2 ⟨hv, hin⟩)
  dsimp only
  split
  · rename_i hempty
    rw [List.isEmpty_iff] at hempty
    refine ⟨⟨[], rfl⟩, rfl, hreread, hfound hreread ?_⟩
    rw [hempty]
    exact fun _ h => (nomatch h)
  · rename_i hpending
    rw [List.isEmpty_iff] at hpending
    have hneeded : needed := by
      obtain ⟨v, hv⟩ := List.exists_mem_of_ne_nil _ hpending
      obtain ⟨hwanted, hmissing⟩ := mem_pending.1 hv
      exact hneeded.resolve_left fun h => hmissing ((hvalues v).2 (h v hwanted))
    rw [Action.ends_bind, Pacer.start, Action.ends_bind, Action.ends_perform]
    refine Surroundings.ends_quiet (c := .now) (fun h => h) (fun _ => rfl) fun now => ?_
    dsimp only
    rw [Action.ends_pure]
    dsimp only
    rw [Action.ends_bind]
    refine (ends_bindEach s (fun _ => hneeded) ?_ _).mono ?_
    · exact hasParent_grows hreread hparent
    rintro _ _ g' ⟨⟨bound, rfl⟩, rfl, hgrows, hbound⟩
    exact ⟨⟨bound, rfl⟩, rfl, hreread.trans hgrows, hfound (hreread.trans hgrows) hbound⟩

end Depot.Gcs.Binding
