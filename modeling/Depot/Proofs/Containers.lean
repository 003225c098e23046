import Depot.Connectors
import Depot.Proofs.Ownership

set_option autoImplicit false

/-!
# Containers that were there before

A server of Swift answers a request that creates a container alike whether the container is new or
was there before; only the status of the response differs. The operator does not look at that
status, so it takes a container for its own as soon as the request succeeds. Other clients may
create the container at any time before the request, also after the operator has looked for it.

## Main definitions

* `Swift.overHttp` — a part of the lifecycle of containers, over HTTP.
* `Swift.PutAt` — the exchanges of a run that create a container, or find it.
* `Swift.Tells` — a server tells by the status whether a container was there.

## Main results

* `Swift.keeps_answer` — an answer says that a container was created exactly if the request
  succeeded.
* `Swift.managed_iff_put` — a container becomes the operator's exactly if the request for it
  succeeded, whether it was there or not.

## Design

Two contracts say what is known in a run: `creating`, over the calls to Swift, remembers the
container that was created, and `putting`, over the exchanges, remembers the requests that
succeeded. The lifecycle keeps the first one, and the client keeps the second one in step with it.
-/

namespace Depot.Swift

open Rest (Connection)

/-! ## Requests that create containers -/

/-- The event is a request for a container that succeeded. -/
def isPut : Event World → Bool
  | ⟨.http r, .ok response⟩ => r.method == .put && response.isSuccess
  | _ => false

/-- The requests for containers that succeeded so far. -/
def putting : Contract World (Trace World) :=
  .tracking (fun _ _ => True) fun es c x => if isPut ⟨c, x⟩ then es ++ [⟨c, x⟩] else es

/-- The path of the contract for creating requests collects the successful ones in order. -/
lemma path_putting {es fs gs : Trace World} :
    putting.Path es fs gs ↔ gs = es ++ fs.filter isPut := by
  refine (Contract.path_tracking ..).trans ?_
  suffices h : fs.foldl _ es = es ++ fs.filter isPut by rw [h]
  induction fs generalizing es with
  | nil => exact (List.append_nil es).symm
  | cons e fs ih =>
    rw [List.foldl_cons, ih, List.filter_cons]
    split
    · exact List.append_assoc ..
    · rfl

/-- The event is the request for a container that succeeded. -/
def IsPutOf (c : Connection) (container : String) (e : Event World) : Prop :=
  ∃ r response, e = ⟨.http r, .ok response⟩ ∧ r.method = .put ∧ response.isSuccess ∧
    r.url = Rest.url c.endpoint container none

/-! ## Calls to Swift -/

/-- The container that was created so far, if one was. -/
def creating : Contract World (Option String) :=
  .tracking
    (fun g c => match c with
      | .swift (.containerPresence _) => True
      | .swift (.createContainer _) => g = none
      | .swift _ | .s3 _ | .azure _ | .gcs _ | .http _ => False
      | _ => True)
    fun g c x => match c, x with
      | .swift (.createContainer container), .ok .created => some container
      | _, _ => g

instance (g : Option String) : creating.Steady g where
  idle c _ hc := by
    cases c with
    | s3 d | azure d | gcs d | swift d | http r => exact hc.elim
    | _ => exact ⟨trivial, fun x g' h => h⟩

/-- What the creation of a container does: one is created at most, and none is removed. -/
def single : Lifecycle.Effects (Option String) where
  owns _ _ := False
  creates g := g = none
  created container _ := some container
  deleted _ g := g

/-- The contract of a single creation permits what the lifecycle's steps ask for. -/
lemma single_enables : single.Enables none where
  looks := trivial
  creates := rfl
  created _ := trivial

/-- The programs for the steps of a container's lifecycle create what the lifecycle expects.

**Proof sketch.** One case per step of the lifecycle: looking and creating are a single call each,
whose answer decides; the steps of a removal are not permitted. -/
lemma realizes_single (infraName : String) :
    Storage.Realizes creating single Eq (operations infraName) := by
  refine Storage.Realizes.of_work ?_
  rintro c g _ hc rfl hp
  cases c with
  | probe name =>
    refine Action.keeps_result.2 (Action.keeps_attempt.2 (Prog.keeps_perform.2 ⟨trivial, ?_⟩))
    rintro x _ rfl
    exact ⟨trivial, rfl⟩
  | create name =>
    refine Action.keeps_result.2 (Action.keeps_attempt.2 (Prog.keeps_perform.2 ⟨hp, ?_⟩))
    rintro (e | _ | _) _ rfl <;> exact ⟨trivial, rfl⟩
  | generate =>
    refine Action.keeps_result.2 ((Naming.keeps_generate fun _ _ =>
      Naming.storageName_ne_empty).mono ?_)
    exact fun _ _ _ h => ⟨h.1, h.2.symm⟩
  | harden name step | empty name | delete name => exact hp.elim
  | _ => exact absurd trivial hc

/-! ## Exchanges -/

section

variable {es : Trace World} {c : Connection}

/-- What an exchange adds to the requests that succeeded. -/
def Adds (method : Http.Method) (url : String) (es : Trace World) :
    Except Error Http.Response → Trace World → Prop
  | .ok response, fs => response.isSuccess ∧ ∃ r : Http.Request, r.method = method ∧ r.url = url ∧
      fs = if isPut ⟨.http r, .ok response⟩ then es ++ [⟨.http r, .ok response⟩] else es
  | .error _, fs => fs = es

/-- A request with the token counts only if it succeeds. -/
lemma keeps_send (method : Http.Method) (url operation resource : String) :
    Action.Keeps putting (Rest.send c method url operation resource) () es fun x _ fs =>
      Adds method url es x fs := by
  rw [Rest.send, Rest.exchange, Action.keeps_bind, Action.keeps_attempt]
  refine Prog.keeps_perform.2 ⟨trivial, ?_⟩
  rintro (e | response) _ rfl
  · rfl
  · dsimp only
    split
    · rename_i hs
      exact ⟨hs, _, rfl, rfl, rfl⟩
    · rename_i hs
      exact if_neg fun h => hs (Bool.and_eq_true_iff.1 h).2

/-- A request of another kind does not count. -/
lemma keeps_other {method : Http.Method} (hm : method ≠ .put) (url operation resource : String) :
    Action.Keeps putting (Rest.send c method url operation resource) () es fun _ _ fs =>
      fs = es := by
  refine (keeps_send method url operation resource).mono ?_
  rintro (e | response) _ fs h
  · exact h
  · obtain ⟨-, r, rfl, -, rfl⟩ := h
    exact if_neg fun h => hm (eq_of_beq (Bool.and_eq_true_iff.1 h).1)

/-- Looking for a container does not count. -/
lemma keeps_containerPresence (container : String) :
    Action.Keeps putting (Rest.containerPresence c container) () es fun _ _ fs => fs = es := by
  rw [Rest.containerPresence, Action.keeps_bind, Action.keeps_outcome]
  refine (keeps_other (by decide) _ _ _).mono ?_
  rintro (e | response) _ fs rfl
  · dsimp only
    split
    · rfl
    · split <;> rfl
  · rfl

/-- **A container counts as created exactly if the request for it succeeded**, whatever the status
of the response.

**Proof sketch.** The request is sent once, and the driver looks at its success only, so the two
results are the two cases of `keeps_send`. -/
lemma keeps_createContainer (container : String) :
    Action.Keeps putting (Rest.createContainer c container) () es fun x _ fs =>
      match x with
      | .ok .created => ∃ e, fs = es ++ [e] ∧ IsPutOf c container e
      | .ok .alreadyExists => False
      | .error _ => fs = es := by
  rw [Rest.createContainer, Action.keeps_bind]
  refine (keeps_send .put _ _ _).mono ?_
  rintro (e | response) _ fs h
  · exact h
  · obtain ⟨hs, r, hm, hurl, rfl⟩ := h
    refine ⟨_, if_pos (Bool.and_eq_true_iff.2 ⟨?_, hs⟩), r, response, rfl, hm, hs, hurl⟩
    rw [hm]
    rfl

/-- What the exchanges show of the calls to Swift. -/
def Shows (c : Connection) (g : Option String) (k : Connectors.Open) (es : Trace World) : Prop :=
  k.swift = some c ∧ match g with
    | none => es = []
    | some container => ∃ e, es = [e] ∧ IsPutOf c container e

/-- **The exchanges show what the answers say.**

**Proof sketch.** A call that is no HTTP request leaves the exchanges as they are (`hidle`), and a
call of the driver runs on the one open connection (`hon`); what is left are the two Swift calls
that a creation may make, for which there is a lemma each. -/
theorem keeps_answer (m : Azure.Manager.Settings) (d : World.Call) (g : Option String)
    (k : Connectors.Open) (h : Shows c g k es) (hd : creating.permits g d) :
    (Connectors.answer m d k).Keeps putting es fun r fs =>
      ∃ g', creating.step g d r.1 g' ∧ Shows c g' r.2 fs := by
  have hidle {d : World.Call} (hd : ∀ r, d ≠ .http r) (hs : ∀ x, creating.step g d x g) :
      (Prog.bind (Prog.perform (I := World) d) fun r => .pure (r, k)).Keeps putting es
        fun r fs => ∃ g', creating.step g d r.1 g' ∧ Shows c g' r.2 fs := by
    refine ⟨trivial, fun x fs hfs => ⟨g, hs x, ?_⟩⟩
    have hput : ¬ isPut ⟨d, x⟩ := by
      cases d with
      | http r => exact absurd rfl (hd r)
      | _ => exact Bool.false_ne_true
    obtain rfl : fs = es := hfs.trans (if_neg hput)
    exact h
  have hon {α : Type} {a : Connection → Operating Unit α} {Q : Except Error α → Trace World → Prop}
      (ha : Action.Keeps putting (a c) () es fun r _ fs => Q r fs) :
      (Rest.onConnection a k.swift).Keeps putting es fun r fs => r.2 = some c ∧ Q r.1 fs := by
    rw [h.1]
    exact Prog.keeps_bind.2 ((Action.keeps_result.2 ha).mono fun _ _ hq => ⟨rfl, hq⟩)
  cases d with
  | s3 d | azure d | gcs d | http r => exact hd.elim
  | swift d =>
    refine Prog.keeps_bind.2 ?_
    cases d with
    | containerPresence container =>
      refine (hon (keeps_containerPresence container)).mono ?_
      rintro ⟨x, _⟩ fs ⟨rfl, rfl⟩
      exact ⟨g, rfl, rfl, h.2⟩
    | createContainer container =>
      obtain rfl : g = none := hd
      obtain rfl : es = [] := h.2
      refine (hon (keeps_createContainer container)).mono ?_
      rintro ⟨e | _ | _, _⟩ fs ⟨rfl, hfs⟩
      · exact ⟨none, rfl, rfl, hfs⟩
      · exact ⟨some container, rfl, rfl, hfs⟩
      · exact hfs.elim
    | connect _ | listObjects _ _ | deleteObject _ _ | deleteContainer _ => exact hd.elim
  | _ => exact hidle (fun _ h => nomatch h) fun _ => rfl

end

/-! ## The lifecycle over HTTP -/

section

variable {α : Type} (c : Connection) (infraName : String) (m : Azure.Manager.Settings)
  (step : Lifecycle.Step α) (s : Lifecycle.Subject)

/-- A part of the lifecycle of containers, over HTTP and on a connection. -/
def overHttp : Prog World ((Except Error α × Lifecycle.Subject) × Connectors.Open) :=
  ((step.interpret (operations infraName).answer).start s).interpretWith (Connectors.answer m)
    { swift := some c }

variable {c infraName m step s} {G H J : Type} {E : Lifecycle.Effects G} {K : Contract World H}
  {L : Contract World J} {g : G} {h : H} {j : J}

/-- What is shown of a part of the lifecycle carries over to the exchanges that it makes.

**Proof sketch.** Two simulations are composed: the lifecycle's steps by the programs of the driver,
and the driver's calls by their exchanges. -/
lemma keeps_overHttp {R : H → Connectors.Open → J → Prop}
    {Q : Except Error α → Lifecycle.Subject → G → Prop} {S : G → H → Prop}
    (hstep : Action.Keeps E.contract step s g Q)
    (hops : Storage.Realizes K E S (operations infraName)) (hs : S g h)
    (hanswer : ∀ d h k j, R h k j → K.permits h d → (Connectors.answer m d k).Keeps L j fun r j' =>
      ∃ h', K.step h d r.1 h' ∧ R h' r.2 j')
    (hr : R h { swift := some c } j) :
    (overHttp c infraName m step s).Keeps L j fun x j' =>
      ∃ g' h', S g' h' ∧ R h' x.2 j' ∧ Q x.1.1 x.1.2 g' := by
  have hsim : ∀ d g h, S g h → E.contract.permits g d → ((operations infraName).answer d).Keeps K h
      fun x h' => ∃ g', E.contract.step g d x g' ∧ S g' h' := by
    intro d g h hs hd
    refine (hops d g h hs hd).mono ?_
    rintro x h' ⟨hx, hs'⟩
    exact ⟨_, ⟨hx, rfl⟩, hs'⟩
  refine (Prog.Keeps.interpretWith hanswer (Prog.Keeps.interpret hsim hstep hs) hr).mono ?_
  rintro x j' ⟨h', hr', g', hs', hq⟩
  exact ⟨g', h', hs', hr', hq⟩

end

/-! ## Removals -/

/-- Objects and containers are deleted in one container only. -/
def removing (container : String) : Contract World Unit :=
  .tracking
    (fun _ d => match d with
      | .swift (.listObjects name _) | .swift (.deleteObject name _)
      | .swift (.deleteContainer name) => name = container
      | .swift _ | .s3 _ | .azure _ | .gcs _ | .http _ => False
      | _ => True)
    fun _ _ _ => ()

instance (container : String) (g : Unit) : (removing container).Steady g where
  idle d _ hd := by
    cases d with
    | s3 d | azure d | gcs d | swift d | http r => exact hd.elim
    | _ => exact ⟨trivial, fun _ _ _ => rfl⟩

/-- What is deleted over HTTP is a container, or an object in it. -/
def deleting (c : Connection) (container : String) : Contract World Unit :=
  .tracking
    (fun _ d => match d with
      | .http r => r.method = .delete → ∃ object, r.url = Rest.url c.endpoint container object
      | _ => True)
    fun _ _ _ => ()

/-- The operator owns one container, and makes none. -/
def owning (container : String) : Lifecycle.Effects Unit where
  owns _ name := name = container
  looks _ := False
  creates _ := False
  created _ g := g
  deleted _ g := g

/-- The programs for the steps of a container's lifecycle delete in that container only.

**Proof sketch.** One case per step of the lifecycle; emptying and deleting are given the one
container's name. -/
lemma realizes_owning (infraName container : String) :
    Storage.Realizes (removing container) (owning container) (fun _ _ => True)
      (operations infraName) := by
  refine Storage.Realizes.of_work ?_
  rintro d g h hc - hp
  cases d with
  | probe name | create name => exact hp.elim
  | harden name step => exact ⟨trivial, trivial⟩
  | empty name =>
    refine (Action.Idle.result (idle_empty (fun _ => ?_) fun _ => ?_)).mono fun _ _ _ =>
      ⟨trivial, trivial⟩
    · exact ⟨hp, fun _ _ _ => rfl⟩
    · exact ⟨hp, fun _ _ _ => rfl⟩
  | delete name =>
    refine Action.keeps_result.2 (Action.keeps_attempt.2 (Prog.keeps_perform.2 ⟨hp, ?_⟩))
    exact fun _ _ _ => ⟨trivial, trivial⟩
  | generate =>
    refine Action.keeps_result.2 ((Naming.keeps_generate fun _ _ =>
      Naming.storageName_ne_empty).mono ?_)
    exact fun _ _ _ h => ⟨h.1, trivial⟩
  | _ => exact absurd trivial hc

section

variable {c : Connection} {container : String}

/-- Sending a request keeps to deleting in the container if a `DELETE` request addresses it. -/
lemma keeps_sendDeleting (method : Http.Method) {url : String} (operation resource : String)
    (h : method = .delete → ∃ object, url = Rest.url c.endpoint container object) :
    Action.Keeps (deleting c container) (Rest.send c method url operation resource) () ()
      fun _ _ _ => True := by
  rw [Rest.send, Rest.exchange, Action.keeps_bind, Action.keeps_attempt]
  refine Prog.keeps_perform.2 ⟨h, ?_⟩
  rintro (e | response) _ -
  · trivial
  · dsimp only
    split <;> trivial

/-- **What is deleted over HTTP is what the calls delete.**

**Proof sketch.** As in `keeps_answer`: the calls that a removal may make are run on the open
connection, and only two of them send a `DELETE` request, each with an address in the container. -/
lemma keeps_deleting (m : Azure.Manager.Settings) (d : World.Call) (h : Unit)
    (k : Connectors.Open) (j : Unit) (hk : k.swift = some c)
    (hd : (removing container).permits h d) :
    (Connectors.answer m d k).Keeps (deleting c container) j fun r _ =>
      ∃ h', (removing container).step h d r.1 h' ∧ r.2.swift = some c := by
  have hon {α : Type} {a : Connection → Operating Unit α}
      (ha : Action.Keeps (deleting c container) (a c) () () fun _ _ _ => True) :
      (Rest.onConnection a k.swift).Keeps (deleting c container) j fun r _ => r.2 = some c := by
    rw [hk]
    exact Prog.keeps_bind.2 ((Action.keeps_result.2 ha).mono fun _ _ _ => rfl)
  cases d with
  | s3 d | azure d | gcs d | http r => exact hd.elim
  | swift d =>
    refine Prog.keeps_bind.2 ?_
    suffices hs : (Rest.answer d k.swift).Keeps (deleting c container) j fun r _ =>
        r.2 = some c from hs.mono fun _ _ h => ⟨(), rfl, h⟩
    cases d with
    | listObjects name marker =>
      refine hon ?_
      rw [Rest.listObjects, Action.keeps_bind]
      refine (keeps_sendDeleting .get _ _ nofun).mono ?_
      rintro (e | response) _ _ -
      · trivial
      · dsimp only
        split
        · trivial
        · rw [Action.keeps_bind, Action.keeps_ofExcept]
          split <;> trivial
    | deleteObject name object =>
      obtain rfl : name = container := hd
      refine hon ?_
      rw [Rest.deleteObject, Action.keeps_bind]
      refine (keeps_sendDeleting .delete _ _ fun _ => ⟨some object, rfl⟩).mono ?_
      rintro (e | response) _ _ - <;> trivial
    | deleteContainer name =>
      obtain rfl : name = container := hd
      refine hon ?_
      rw [Rest.deleteContainer, Action.keeps_bind]
      refine (keeps_sendDeleting .delete _ _ fun _ => ⟨none, rfl⟩).mono ?_
      rintro (e | response) _ _ - <;> trivial
    | connect _ | containerPresence _ | createContainer _ => exact hd.elim
  | _ => exact ⟨trivial, fun _ _ _ => ⟨(), rfl, hk⟩⟩

end

/-! ## Main results -/

/-- The call of that number in a run is a request for a container that succeeded. -/
def PutAt (es : Trace World) (i : Nat) (r : Http.Request) (response : Http.Response) : Prop :=
  es[i]? = some ⟨.http r, .ok response⟩ ∧ r.method = .put ∧ response.isSuccess

/-- The server tells by the status whether a container was there: `existed i url` says whether the
one at an address is there when the call of number `i` arrives. Other clients may create and delete
containers between any two calls, so what is there at one of them says nothing about the others. -/
structure Tells (existed : Nat → String → Prop) (es : Trace World) : Prop where
  /-- A container that was there is found. -/
  found : ∀ {i r response}, PutAt es i r response → existed i r.url → response.status = 202
  /-- One that was not there is created. -/
  created : ∀ {i r response}, PutAt es i r response → ¬ existed i r.url → response.status = 201

section

variable {c : Connection} {infraName : String} {m : Azure.Manager.Settings} {es : Trace World}
  {s t : Lifecycle.Subject} {k : Connectors.Open}

/-- A request that is listed as a successful `PUT` is one. -/
lemma PutAt.isPut {i : Nat} {r : Http.Request} {response : Http.Response}
    (h : PutAt es i r response) : isPut ⟨.http r, .ok response⟩ := by
  obtain ⟨-, hm, hs⟩ := h
  rw [Swift.isPut, hm, hs]
  rfl

/-- If one request succeeded only, there is one such call. -/
lemma PutAt.eq_of_filter {i : Nat} {r : Http.Request} {response : Http.Response} {e : Event World}
    (h : PutAt es i r response) (hes : es.filter Swift.isPut = [e]) :
    e = ⟨.http r, .ok response⟩ := by
  have hmem : (⟨.http r, .ok response⟩ : Event World) ∈ es.filter Swift.isPut :=
    List.mem_filter.2 ⟨List.mem_of_getElem? h.1, h.isPut⟩
  rw [hes] at hmem
  exact (List.mem_singleton.1 hmem).symm

/-- There is one if the request is for a container. -/
lemma exists_putAt {container : String} {e : Event World} (hes : es.filter Swift.isPut = [e])
    (he : IsPutOf c container e) : ∃ i request response, PutAt es i request response ∧
      request.url = Rest.url c.endpoint container none := by
  obtain ⟨r, response, rfl, hm, hsuccess, hurl⟩ := he
  have hmem : (⟨.http r, .ok response⟩ : Event World) ∈ es.filter Swift.isPut :=
    hes ▸ List.mem_cons_self
  obtain ⟨i, hi⟩ := List.getElem?_of_mem (List.mem_filter.1 hmem).1
  exact ⟨i, r, response, ⟨hi, hm, hsuccess⟩, hurl⟩

/-- **How finding or creating a container ends.** The operator owns it afterwards exactly if one
request for it succeeded, and none did otherwise.

**Proof sketch.** The ways the lifecycle's finding or creating can end, by `Lifecycle.keeps_ensure`,
are carried over to the exchanges by `keeps_overHttp`; ownership is taken in one of them only. -/
lemma filter_of_ensure {w : Lifecycle.WaitPolicy} {r : Except Error Unit}
    (hs : s.status.ownership ≠ some .managed)
    (hrun : (overHttp c infraName m (Lifecycle.ensure containerKind w) s).Runs es ((r, t), k)) :
    (t.status.ownership ≠ some .managed ∧ es.filter isPut = []) ∨
      (t.status.ownership = some .managed ∧ ∃ e, es.filter isPut = [e] ∧ IsPutOf c t.name e) := by
  have hkeeps := keeps_overHttp (c := c) (m := m) (Q := fun r t g =>
      Lifecycle.Ensured single s none r t g ∧ Lifecycle.Named r t)
    (Lifecycle.keeps_ensure containerKind w single_enables) (realizes_single infraName) rfl
    (fun d g k es h hd => keeps_answer m d g k h hd) (⟨rfl, rfl⟩ : Shows c none _ [])
  obtain ⟨g, _, rfl, ⟨-, hshows⟩, hends, -⟩ := hkeeps.of_runs hrun (path_putting.2 rfl)
  rw [List.nil_append] at hshows
  cases hends with
  | kept ha => exact .inl ⟨fun h => hs (ha.ownership ▸ h), hshows⟩
  | failed ha => exact .inl ⟨fun h => hs (ha.ownership ▸ h), hshows⟩
  | adopted _ _ ho _ => exact .inl ⟨fun h => (nomatch ho.symm.trans h), hshows⟩
  | created _ _ ho _ => exact .inr ⟨ho, hshows⟩

/-- A removal of what the operator does not own makes no call. -/
lemma start_remove (h : t.status.ownership ≠ some .managed) :
    (Lifecycle.remove containerKind).start t = .pure (.ok false, t) := by
  have hm : (!t.status.isManaged || t.name = "") = true := by
    simp [Status.isManaged, h]
  change (if _ then _ else _ : Lifecycle.Step Bool).start t = _
  rw [if_pos hm]
  rfl

/-- A removal deletes what the operator owns only, and nothing if it owns nothing.

**Proof sketch.** Without ownership the removal is no call at all. With it, `keeps_overHttp` carries
the contract of a removal over to the exchanges, and the request in question is permitted by it. -/
lemma deletes_of_remove {fs : Trace World} {r : Http.Request}
    {answer : Except Error Http.Response}
    {x : (Except Error Bool × Lifecycle.Subject) × Connectors.Open}
    (hrun : (overHttp c infraName m (Lifecycle.remove containerKind) t).Runs fs x)
    (he : ⟨.http r, answer⟩ ∈ fs) (hr : r.method = .delete) :
    t.status.ownership = some .managed ∧ ∃ object, r.url = Rest.url c.endpoint t.name object := by
  constructor
  · refine Classical.byContradiction fun hm => ?_
    have hidle : overHttp c infraName m (Lifecycle.remove containerKind) t =
        .pure ((.ok false, t), { swift := some c }) := by
      change (((Lifecycle.remove containerKind).start t).interpret _).interpretWith _ _ = _
      rw [start_remove hm]
      rfl
    rw [hidle] at hrun
    rw [hrun.1] at he
    cases he
  · have hkeeps := keeps_overHttp (c := c) (m := m) (g := ()) (h := ()) (j := ())
      (Lifecycle.keeps_remove containerKind fun _ _ => rfl) (realizes_owning infraName t.name)
      trivial (fun d h k j hk hd => keeps_deleting m d h k j hk hd) rfl
    obtain ⟨gs, hs, rfl⟩ := List.append_of_mem he
    exact hkeeps.of_asks hrun.asks ((Contract.path_tracking ..).2 rfl) hr

/-- **A container becomes the operator's exactly if a request for it succeeded**, whether it was
there or not. Take a run over HTTP, with any answers and with other clients at work at any time,
that finds or creates a container for a status that is not Managed. The operator owns the container
afterwards exactly if a request to create it succeeded. It owns only what it created exactly if no
such request was answered with 202, that is, found the container there: the client reports no
container as one that exists already. A removal afterwards deletes in this container only, and only
if the operator owns it.

**Proof sketch.** The lifecycle asks for containers until one is reported as created
(`Lifecycle.keeps_ensure`), and the client reports that for every request that succeeds
(`keeps_createContainer`). So at most one request of a run succeeds, and if one does its container
is owned (`filter_of_ensure`). -/
theorem managed_iff_put {w : Lifecycle.WaitPolicy} {r : Except Error Unit}
    {existed : Nat → String → Prop} (hs : s.status.ownership ≠ some .managed)
    (hrun : (overHttp c infraName m (Lifecycle.ensure containerKind w) s).Runs es ((r, t), k))
    (hserver : Tells existed es) :
    (t.status.ownership = some .managed ↔ ∃ i request response,
      PutAt es i request response ∧ request.url = Rest.url c.endpoint t.name none) ∧
    ((t.status.ownership = some .managed → ∃ i request response, PutAt es i request response ∧
        request.url = Rest.url c.endpoint t.name none ∧ ¬ existed i request.url) ↔
      ∀ i request response, PutAt es i request response → response.status ≠ 202) ∧
    (∀ container fs x k', (Rest.answer (.createContainer container) (some c)).Runs fs (x, k') →
      x ≠ .ok .alreadyExists) ∧
    (∀ fs x request answer, (overHttp c infraName m (Lifecycle.remove containerKind) t).Runs fs x →
      ⟨.http request, answer⟩ ∈ fs → request.method = .delete →
        t.status.ownership = some .managed ∧
          ∃ object, request.url = Rest.url c.endpoint t.name object) := by
  have hends := filter_of_ensure hs hrun
  have howned {i : Nat} {request : Http.Request} {response : Http.Response}
      (h : PutAt es i request response) : t.status.ownership = some .managed := by
    obtain ⟨-, hes⟩ | ⟨ho, -⟩ := hends
    · have hmem : (⟨.http request, .ok response⟩ : Event World) ∈ es.filter isPut :=
        List.mem_filter.2 ⟨List.mem_of_getElem? h.1, h.isPut⟩
      rw [hes] at hmem
      cases hmem
    · exact ho
  have hput (ho : t.status.ownership = some .managed) : ∃ i request response,
      PutAt es i request response ∧ request.url = Rest.url c.endpoint t.name none := by
    obtain ⟨hno, -⟩ | ⟨-, e, hes, he⟩ := hends
    · exact absurd ho hno
    · exact exists_putAt hes he
  refine ⟨⟨hput, fun ⟨_, _, _, h, _⟩ => howned h⟩, ⟨?_, ?_⟩, ?_, ?_⟩
  · intro hown i request response h h202
    obtain ⟨j, request', response', h', -, hnew⟩ := hown (howned h)
    -- Both are the one request that succeeded, and its status says that it created the container.
    obtain ⟨hno, -⟩ | ⟨-, e, hes, -⟩ := hends
    · exact hno (howned h)
    · cases (h.eq_of_filter hes).symm.trans (h'.eq_of_filter hes)
      exact nomatch h202.symm.trans (hserver.created h' hnew)
  · intro hnone ho
    obtain ⟨i, request, response, h, hurl⟩ := hput ho
    exact ⟨i, request, response, h, hurl, fun he => hnone i request response h (hserver.found h he)⟩
  · intro container fs x k' h
    have hkeeps : (Rest.answer (.createContainer container) (some c)).Keeps putting []
        fun x _ => x.1 ≠ .ok .alreadyExists := by
      refine Prog.keeps_bind.2 (Action.keeps_result.2 ((keeps_createContainer container).mono ?_))
      rintro (e | _ | _) _ _ h
      · nofun
      · nofun
      · exact h.elim
    exact hkeeps.of_runs h (path_putting.2 rfl)
  · exact fun fs x request answer h he hm => deletes_of_remove h he hm

end

/-! ## Computed runs -/

/-- The status of the response if the event is a request for a container that succeeded. -/
def putStatus? : Event World → Option Nat
  | ⟨.http r, .ok response⟩ =>
    if r.method = .put ∧ response.isSuccess then some response.status else none
  | _ => none

/-- A successful `PUT` is listed with its status. -/
lemma PutAt.status {es : Trace World} {i : Nat} {r : Http.Request} {response : Http.Response}
    (h : PutAt es i r response) : (es.map putStatus?)[i]? = some (some response.status) := by
  rw [List.getElem?_map, h.1]
  exact congrArg some (if_pos h.2)

/-- Whether the event is a request that deletes what is at an address. -/
def isDeletion (url : String) : Event World → Bool
  | ⟨.http r, _⟩ => r.method == .delete && r.url == url
  | _ => false

/-- The answers of a server that has no container at first, and answers the request for one with a
status; there is an object in it then. -/
def serverWith (status : Nat) (es : Trace World) : (c : World.Call) → World.Answer c
  | .http r =>
    match r.method with
    | .head => .ok { status := if es.any isPut then 204 else 404 }
    | .put => .ok { status }
    | .get =>
      if es.any (isDeletion "https://swift/backups/db.dump") then .ok { status := 204 }
      else .ok { status := 200, body := "[\x7b\"name\":\"db.dump\"\x7d]" }
    | _ => .ok { status := 204 }
  | _ => default

/-- A connection to that server. -/
def connection : Connection := ⟨"https://swift", "token"⟩

/-- A container that the registry names. -/
def backups : Lifecycle.Subject := ⟨"backups", {}⟩

/-- The creation of that container. -/
def creation : Prog World ((Except Error Unit × Lifecycle.Subject) × Connectors.Open) :=
  overHttp connection "infra" {} (Lifecycle.ensure containerKind {}) backups

/-- Its removal. -/
def removal (t : Lifecycle.Subject) :
    Prog World ((Except Error Bool × Lifecycle.Subject) × Connectors.Open) :=
  overHttp connection "" {} (Lifecycle.remove containerKind) t

/-- A container that is created is the operator's. -/
theorem managed_of_created : ∃ es r t k, creation.Runs es ((r, t), k) ∧
    Tells (fun _ _ => False) es ∧ t.status.ownership = some .managed ∧
    ∃ i request response, PutAt es i request response ∧
      request.url = Rest.url connection.endpoint t.name none := by
  obtain ⟨es, ⟨⟨r, t⟩, k⟩, hrun, hes, ho⟩ :=
    Prog.exists_runs_of_run (serverWith 201) 2 creation
      (fun es a => es.map putStatus? = [none, some 201, none, none, none, none] ∧
        a.1.2.status.ownership = some .managed) (by decide +kernel)
  have hserver : Tells (fun _ _ => False) es := by
    refine ⟨fun _ he => he.elim, fun h _ => ?_⟩
    have hmem := List.mem_of_getElem? h.status
    rw [hes] at hmem
    simpa using hmem
  exact ⟨es, r, t, k, hrun, hserver, ho,
    (managed_iff_put (by decide) hrun hserver).1.1 ho⟩

/-- A container that someone else creates between the look for it and the request for it becomes the
operator's, and is removed with what is in it. -/
theorem found_removed : ∃ es r t k fs x, creation.Runs es ((r, t), k) ∧
    Tells (fun i _ => 0 < i) es ∧ (∃ i request response, PutAt es i request response ∧ 0 < i) ∧
    t.status.ownership = some .managed ∧ (removal t).Runs fs x ∧
    (∃ e ∈ fs, isDeletion "https://swift/backups/db.dump" e) ∧
    ∃ e ∈ fs, isDeletion "https://swift/backups" e := by
  obtain ⟨es, ⟨⟨r, t⟩, k⟩, hrun, hes, ho, hremoval⟩ :=
    Prog.exists_runs_of_run (serverWith 202) 2 creation
      (fun es a => es.map putStatus? = [none, some 202, none, none, none, none] ∧
        a.1.2.status.ownership = some .managed ∧
        ((removal a.1.2).run (Prog.recorded (serverWith 202)) 2 []).1.any fun _ =>
          ((removal a.1.2).run (Prog.recorded (serverWith 202)) 2 []).2.any
              (isDeletion "https://swift/backups/db.dump") ∧
            ((removal a.1.2).run (Prog.recorded (serverWith 202)) 2 []).2.any
              (isDeletion "https://swift/backups")) (by decide +kernel)
  obtain ⟨fs, x, hrun', hobject, hcontainer⟩ :=
    Prog.exists_runs_of_run (serverWith 202) 2 (removal t)
      (fun fs _ => fs.any (isDeletion "https://swift/backups/db.dump") ∧
        fs.any (isDeletion "https://swift/backups")) hremoval
  have hserver : Tells (fun i _ => 0 < i) es := by
    refine ⟨fun h _ => ?_, fun {i _ _} h hi => ?_⟩
    · have hmem := List.mem_of_getElem? h.status
      rw [hes] at hmem
      simpa using hmem
    · obtain rfl : i = 0 := Nat.eq_zero_of_not_pos hi
      have hfirst := h.status
      rw [hes] at hfirst
      cases hfirst
  have hput : ∃ i request response, PutAt es i request response ∧ 0 < i := by
    obtain ⟨hno, -⟩ | ⟨-, e, hfilter, he⟩ := filter_of_ensure (by decide) hrun
    · exact absurd ho hno
    · obtain ⟨i, request, response, h, -⟩ := exists_putAt hfilter he
      refine ⟨i, request, response, h, Nat.pos_of_ne_zero ?_⟩
      rintro rfl
      have hfirst := h.status
      rw [hes] at hfirst
      cases hfirst
  exact ⟨es, r, t, k, fs, x, hrun, hserver, hput, ho, hrun', List.any_eq_true.1 hobject,
    List.any_eq_true.1 hcontainer⟩

end Depot.Swift
