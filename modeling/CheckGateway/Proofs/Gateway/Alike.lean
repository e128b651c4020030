/-
Tenants that are alike, in two gateways, and what their jobs make of them.

Two tenants are twins if they have the same account, slots, caches and locks,
and system handlers that differ in the numbers of their sessions at most. They
are looked at in gateways with the same settings, clock and script, and with
the same watermarks as far as the tenants' jobs can see (`Alike`). The rest of
the two gateways may be as it likes: other tenants, other watermarks, and what
the remote system has counted.

# What is shown here

`together_twins`: twin programs of such tenants run to their ends, end alike,
and leave the tenants alike. What a program leaves alone in its own gateway
is `Aside`. That its queries go over connected sessions is read off the books
(`Works`), so the remote system answers them from its script and nothing else.
-/
import CheckGateway.Proofs.Gateway.Accounts
import CheckGateway.Proofs.Gateway.Twins

namespace CheckGateway

-- ======================================================== the remote system

/-- No failure is left that the first to ask uses up. -/
def Script.Memoryless (s : Script) : Prop :=
  ∀ name e later, s.failOnce.get? name ≠ some (e :: later)

namespace ScriptedRemote

/-- The remote system answers at once, and not by what it was asked before. -/
structure Prompt (r : ScriptedRemote) : Prop where
  ungated : ∀ name, r.gateOf.get? name = none
  memoryless : r.script.Memoryless

/-- Nothing has happened to what the remote system answers. -/
structure SameAnswers (r r' : ScriptedRemote) : Prop where
  script : r'.script = r.script
  gateOf : r'.gateOf = r.gateOf

section

variable {r r' r'' : ScriptedRemote} {s : Nat}

/-- Where nothing happens, nothing changes. -/
theorem SameAnswers.refl (r : ScriptedRemote) : SameAnswers r r := ⟨rfl, rfl⟩

/-- One change after another. -/
theorem SameAnswers.trans (h : SameAnswers r r') (h' : SameAnswers r' r'') :
    SameAnswers r r'' :=
  ⟨h'.script.trans h.script, h'.gateOf.trans h.gateOf⟩

/-- A remote system that answers at once still does if its answers are the same. -/
theorem Prompt.congr (h : r.Prompt) (hsame : SameAnswers r r') : r'.Prompt := by
  refine ⟨?_, ?_⟩
  · rw [hsame.gateOf]
    exact h.ungated
  · rw [hsame.script]
    exact h.memoryless

/-- Closing a session changes no answer. -/
theorem sameAnswers_disconnect (r : ScriptedRemote) (s : Nat) :
    SameAnswers r (r.disconnect s) := by
  unfold disconnect
  dsimp only
  split <;> exact ⟨rfl, rfl⟩

/-- Nor does closing several. -/
theorem sameAnswers_disconnectAll (r : ScriptedRemote) (ss : List Nat) :
    SameAnswers r (ss.foldl disconnect r) := by
  induction ss generalizing r with
  | nil => exact .refl r
  | cons s ss ih => exact (sameAnswers_disconnect r s).trans (ih _)

/-- Opening one is logged and counted, and changes no answer. -/
theorem sameAnswers_openSession (r : ScriptedRemote) (who : Credentials)
    (policy : SocketPolicy) : SameAnswers r (r.openSession who policy).2 := by
  unfold openSession
  dsimp only
  split
  · exact ⟨rfl, rfl⟩
  · split <;> exact ⟨rfl, rfl⟩

/-- Without a gate a query is answered from the script there and then. -/
theorem accept_ungated (h : ∀ name, r.gateOf.get? name = none) (q : RemoteQuery) :
    ∃ r', r.accept q = (.answered (r.script.answer q), r') ∧ SameAnswers r r' := by
  unfold accept
  dsimp only
  rw [h]
  exact ⟨_, rfl, rfl, rfl⟩

/-- Sending a query takes no gate away and puts none up. -/
theorem gateOf_send (r : ScriptedRemote) (s : Nat) (q : RemoteQuery) :
    (r.send s q).2.gateOf = r.gateOf := by
  unfold ScriptedRemote.send accept
  dsimp only
  split
  · rfl
  · split
    · split
      · rfl
      · split <;> rfl
    · rfl

/-- A query is answered at once; over a connected session, from the script. -/
theorem Prompt.send (h : r.Prompt) (s : Nat) (q : RemoteQuery) :
    ∃ rows r', r.send s q = (.answered rows, r') ∧ SameAnswers r r'
      ∧ (s ∈ r.connected → rows = r.script.answer q) := by
  have hrecord : SameAnswers r (r.record (.queried s q)) := ⟨rfl, rfl⟩
  unfold ScriptedRemote.send
  dsimp only
  split
  next e later hfail => exact absurd hfail (h.memoryless _ e later)
  · split
    · obtain ⟨r', haccept, hsame⟩ := accept_ungated (h.congr hrecord).ungated q
      exact ⟨_, r', haccept, hrecord.trans hsame, fun _ => rfl⟩
    next hgone =>
      refine ⟨_, _, rfl, hrecord, fun hs => absurd ?_ hgone⟩
      exact List.contains_iff_mem.2 hs

/-- Why the remote system opens no session, if it does not. -/
def refusal? (s : Script) : Option Fault :=
  if s.panicOpen then some .panicked else s.openFailure.map .failed

/-- Whether a session is opened depends on the script only. -/
theorem openSession_eq (r : ScriptedRemote) (who : Credentials) (policy : SocketPolicy) :
    (r.openSession who policy).1 =
      match refusal? r.script with
      | some e => .error e
      | none => .ok (r.attempts + 1) := by
  unfold openSession refusal? record
  dsimp only
  cases r.script.panicOpen with
  | true => rfl
  | false =>
      cases r.script.openFailure with
      | some e => rfl
      | none => rfl

end

end ScriptedRemote

-- ================================================================== twins

/-- A system handler but for the number of its session. -/
def SystemHandler.shape (y : SystemHandler) : Bool × Nat × Bool :=
  (y.session.isSome, y.users, y.poisoned)

/-- Two tenants that only the sessions of their system handlers tell apart, as
far as their jobs are concerned. -/
structure Tenant.Twin (x x' : Tenant) : Prop where
  credentials : x'.credentials = x.credentials
  lastUsed : x'.lastUsed = x.lastUsed
  slots : x'.slots = x.slots
  jobCaches : x'.jobCaches = x.jobCaches
  diskCaches : x'.diskCaches = x.diskCaches
  locked : x'.locked = x.locked
  systems : x'.systems.map SystemHandler.shape = x.systems.map SystemHandler.shape

section

variable {x x' : Tenant}

/-- A tenant is its own twin. -/
theorem Tenant.Twin.refl (x : Tenant) : x.Twin x := ⟨rfl, rfl, rfl, rfl, rfl, rfl, rfl⟩

/-- Twins have made equally many system handlers. -/
theorem Tenant.Twin.length (h : x.Twin x') : x'.systems.length = x.systems.length := by
  simpa using congrArg List.length h.systems

/-- A change that both see in the same way. -/
theorem map_modify_shape {ys ys' : List SystemHandler} {f f' : SystemHandler → SystemHandler}
    (hys : ys'.map SystemHandler.shape = ys.map SystemHandler.shape)
    (hf : ∀ y y', y'.shape = y.shape → (f' y').shape = (f y).shape) (h : Nat) :
    (ys'.modify h f').map SystemHandler.shape = (ys.modify h f).map SystemHandler.shape := by
  apply List.ext_getElem?
  intro k
  have hk := congrArg (fun l => l[k]?) hys
  simp only [List.getElem?_map, List.getElem?_modify] at hk ⊢
  cases hy : ys[k]? with
  | none =>
      rw [hy, Option.map_none, Option.map_eq_none_iff] at hk
      rw [hk]
      rfl
  | some y =>
      rw [hy] at hk
      obtain ⟨y', hy', hshape⟩ := Option.map_eq_some_iff.1 hk
      rw [hy']
      show some (SystemHandler.shape (if h = k then f' y' else y'))
        = some (SystemHandler.shape (if h = k then f y else y))
      rw [Option.some.injEq]
      split
      · exact hf y y' hshape
      · exact hshape

/-- System handlers that are changed alike leave twins. -/
theorem Tenant.Twin.modify (h : x.Twin x') {f f' : SystemHandler → SystemHandler}
    (hf : ∀ y y', y'.shape = y.shape → (f' y').shape = (f y).shape) (k : Nat) :
    Twin { x with systems := x.systems.modify k f } { x' with systems := x'.systems.modify k f' } :=
  { h with systems := map_modify_shape h.systems hf k }

/-- The shape of a system handler is all but which session it has. -/
theorem shape_eq_iff {y y' : SystemHandler} : y'.shape = y.shape ↔
    y'.session.isSome = y.session.isSome ∧ y'.users = y.users ∧ y'.poisoned = y.poisoned := by
  unfold SystemHandler.shape
  rw [Prod.mk.injEq, Prod.mk.injEq]

/-- The same locks of twins are poisoned. -/
theorem Tenant.Twin.isPoisoned (h : x.Twin x') (lock : Lock) :
    x'.isPoisoned lock = x.isPoisoned lock := by
  match lock with
  | .slot kind => exact congrArg (fun slots => (HandlerSlots.get slots kind).poisoned) h.slots
  | .jobCache k =>
      unfold Tenant.isPoisoned
      rw [h.jobCaches]
  | .diskCache k =>
      unfold Tenant.isPoisoned
      rw [h.diskCaches]
  | .systemSession k =>
      have hk := congrArg (fun l => (l[k]?.map fun shape => shape.2.2).getD false) h.systems
      simp only [List.getElem?_map, Option.map_map] at hk
      exact hk

/-- Twins stay so when a lock of both is poisoned. -/
theorem Tenant.Twin.poison (h : x.Twin x') (lock : Lock) :
    (x.poison lock).Twin (x'.poison lock) := by
  match lock with
  | .slot kind =>
      refine { h with slots := ?_ }
      show x'.slots.set kind _ = x.slots.set kind _
      rw [h.slots]
  | .jobCache k => exact { h with jobCaches := congrArg (List.modify · k _) h.jobCaches }
  | .diskCache k => exact { h with diskCaches := congrArg (List.modify · k _) h.diskCaches }
  | .systemSession k =>
      refine h.modify (fun y y' hshape => ?_) k
      rw [shape_eq_iff] at hshape ⊢
      exact ⟨hshape.1, hshape.2.1, rfl⟩

/-- Twins stay so when the slots of both are filled. -/
theorem Tenant.Twin.fill (h : x.Twin x') (kind : HandlerKind) (k : Nat) :
    (x.fill kind k).Twin (x'.fill kind k) := by
  refine { h with slots := ?_ }
  show x'.slots.set kind _ = x.slots.set kind _
  rw [h.slots]

/-- Twins stay so when sessions that nobody uses are given up. -/
theorem Tenant.Twin.disown (h : x.Twin x') : x.disown.Twin x'.disown := by
  -- what becomes of a handler shows in its shape
  let forget (entry : (Bool × Nat × Bool) × Nat) : Bool × Nat × Bool :=
    if entry.1.2.1 == 0 && x.slots.system.get? != some entry.2 then
      (false, entry.1.2.1, entry.1.2.2)
    else entry.1
  have hforget (y : Tenant) (hslots : y.slots = x.slots) :
      y.disown.systems.map SystemHandler.shape
        = (y.systems.map SystemHandler.shape).zipIdx.map forget := by
    unfold Tenant.disown
    rw [List.zipIdx_map, List.map_map, List.map_map]
    apply List.map_congr_left
    intro entry _
    obtain ⟨s, k⟩ := entry
    show SystemHandler.shape (if s.users == 0 && y.slots.system.get? != some k then _ else _)
      = if s.users == 0 && x.slots.system.get? != some k then _ else _
    rw [hslots]
    exact apply_ite SystemHandler.shape _ _ _
  refine { h with systems := ?_ }
  rw [hforget x rfl, hforget x' h.slots, h.systems]

end

namespace Gateway

open Job (Grip Obeys Steady Twins)

/-- What jobs of two tenants can tell of their gateways is the same, and both
remote systems answer at once. -/
structure Alike (K : Set WatermarkKey) (g : Gateway) (x : Tenant) (g' : Gateway)
    (x' : Tenant) : Prop where
  config : g'.config = g.config
  overflow : g'.overflow = g.overflow
  clock : g'.clock = g.clock
  script : g'.remote.script = g.remote.script
  marks : ∀ key ∈ K, g'.watermarks.get? key = g.watermarks.get? key
  prompt : g.remote.Prompt
  prompt' : g'.remote.Prompt
  twin : x.Twin x'

/-- What a tenant's job does is confined to the tenant, the watermarks and the
books of the remote system. Of the tenant, what the registry goes by is left
alone. -/
structure Confined (t : Nat) (g g' : Gateway) : Prop where
  state : g' =
    { g with remote := g'.remote, watermarks := g'.watermarks, tenants := g'.tenants }
  gates : g'.remote.gateOf = g.remote.gateOf
  others : ∀ t' ≠ t, g'.tenants[t']? = g.tenants[t']?
  own : ∀ x : Tenant, g.tenants[t]? = some x → ∃ y, g'.tenants[t]? = some y
    ∧ y.credentials = x.credentials ∧ y.traffic = x.traffic ∧ y.lastUsed = x.lastUsed

/-- What is confined to a tenant and to some watermarks, where the remote
system answers as before. -/
structure Aside (K : Set WatermarkKey) (t : Nat) (g g' : Gateway) : Prop
    extends Confined t g g' where
  answers : ScriptedRemote.SameAnswers g.remote g'.remote
  marks : ∀ key ∉ K, g'.watermarks.get? key = g.watermarks.get? key

section

variable {K : Set WatermarkKey} {t : Nat} {g g' g'' : Gateway} {x : Tenant}

-- ================================================================== aside

/-- Nothing that happens is confined. -/
theorem Confined.refl (g : Gateway) : Confined t g g :=
  ⟨rfl, rfl, fun _ _ => rfl, fun x hx => ⟨x, hx, rfl, rfl, rfl⟩⟩

/-- What is confined stays so, one change after another. -/
theorem Confined.trans (h : Confined t g g') (h' : Confined t g' g'') : Confined t g g'' := by
  refine ⟨h'.state.trans ?_, h'.gates.trans h.gates, fun t' hne => ?_, fun x hx => ?_⟩
  · exact congrArg
      (fun g : Gateway =>
        { g with remote := g''.remote, watermarks := g''.watermarks, tenants := g''.tenants })
      h.state
  · rw [h'.others t' hne, h.others t' hne]
  · obtain ⟨y, hy, hcredentials, htraffic, hused⟩ := h.own x hx
    obtain ⟨z, hz, hcredentials', htraffic', hused'⟩ := h'.own y hy
    exact ⟨z, hz, hcredentials'.trans hcredentials, htraffic'.trans htraffic,
      hused'.trans hused⟩

/-- A change of the tenant alone is confined if the registry does not go by it. -/
theorem confined_update {f : Tenant → Tenant} (hf : ∀ x, (f x).credentials = x.credentials
    ∧ (f x).traffic = x.traffic ∧ (f x).lastUsed = x.lastUsed) :
    Confined t g (g.update t f) := by
  refine ⟨rfl, rfl, fun t' hne => ?_, fun x hx => ⟨f x, ?_, hf x⟩⟩
  · rw [getElem?_update]
    simp [Ne.symm hne]
  · rw [tenants_update hx, if_pos rfl]

/-- So is a change of the remote system that leaves its gates. -/
theorem confined_remote {r : ScriptedRemote} (hgates : r.gateOf = g.remote.gateOf) :
    Confined t g { g with remote := r } :=
  ⟨rfl, hgates, fun _ _ => rfl, fun x hx => ⟨x, hx, rfl, rfl, rfl⟩⟩

/-- So is disconnecting what the tenant has given up. -/
theorem confined_reclaim : Confined t g (g.reclaim t) := by
  unfold reclaim
  split
  · exact .refl g
  · refine Confined.trans (confined_update (f := Tenant.disown) fun _ => ⟨rfl, rfl, rfl⟩) ?_
    exact confined_remote (ScriptedRemote.sameAnswers_disconnectAll _ _).gateOf

/-- No call reaches beyond its tenant. -/
theorem confined_perform (g : Gateway) (t : Nat) (x : Tenant) (gate : Option Nat)
    (c : Job.Call) : Confined t g (g.perform t x gate c).state := by
  cases c with
  | now | watermark | handler | jobCache | diskCache | session => exact .refl g
  | openSession => exact confined_remote (ScriptedRemote.sameAnswers_openSession _ _ _).gateOf
  | query s q =>
      have hsend := ScriptedRemote.gateOf_send g.remote s q
      unfold perform
      cases gate with
      | some k =>
          dsimp only
          split <;> exact .refl g
      | none =>
          dsimp only
          split
          next heq =>
            rw [heq] at hsend
            exact confined_remote hsend
          next heq =>
            rw [heq] at hsend
            exact confined_remote hsend
  | closeSession s => exact confined_remote (ScriptedRemote.sameAnswers_disconnectAll _ _).gateOf
  | note key entry => exact ⟨rfl, rfl, fun _ _ => rfl, fun x hx => ⟨x, hx, rfl, rfl, rfl⟩⟩
  | acquire lock =>
      unfold perform
      dsimp only
      split
      · exact .refl g
      · split
        · exact .refl g
        · exact confined_update fun _ => ⟨rfl, rfl, rfl⟩
  | release lock poison =>
      refine confined_update fun x => ?_
      dsimp only
      split
      · refine ⟨?_, traffic_poison _ lock, ?_⟩
        · exact credentials_poison _ lock
        · cases lock <;> rfl
      · exact ⟨rfl, rfl, rfl⟩
  | install kind =>
      cases kind with
      | jobs | disks | system | subsystems | commands =>
          exact confined_update fun _ => ⟨rfl, rfl, rfl⟩
  | installSystem | saveJobCache | saveDiskCache | replaceSession | hold =>
      exact confined_update fun _ => ⟨rfl, rfl, rfl⟩
  | letGo h =>
      refine Confined.trans ?_ confined_reclaim
      exact confined_update fun _ => ⟨rfl, rfl, rfl⟩

/-- Nothing happens that others could notice. -/
theorem Aside.refl (g : Gateway) : Aside K t g g := ⟨.refl g, .refl _, fun _ _ => rfl⟩

/-- One change after another that others do not notice. -/
theorem Aside.trans (h : Aside K t g g') (h' : Aside K t g' g'') : Aside K t g g'' := by
  refine ⟨h.toConfined.trans h'.toConfined, h.answers.trans h'.answers, fun key hkey => ?_⟩
  rw [h'.marks key hkey, h.marks key hkey]

/-- What a call leaves alone, if it notes no watermark but some. -/
theorem aside_perform (hprompt : g.remote.Prompt) (x : Tenant) (c : Job.Call)
    (hnote : ∀ key entry, c = .note key entry → key ∈ K) :
    Aside K t g (g.perform t x none c).state := by
  refine ⟨confined_perform g t x none c, ?_, ?_⟩
  · cases c with
    | now | watermark | handler | jobCache | diskCache | session | note | release
      | installSystem | saveJobCache | saveDiskCache | replaceSession | hold => exact .refl _
    | openSession => exact ScriptedRemote.sameAnswers_openSession _ _ _
    | query s q =>
        obtain ⟨rows, r, hsend, hsame, -⟩ := hprompt.send s q
        unfold perform
        dsimp only
        rw [hsend]
        exact hsame
    | closeSession s => exact ScriptedRemote.sameAnswers_disconnectAll _ _
    | acquire lock =>
        unfold perform
        dsimp only
        split
        · exact .refl _
        · split <;> exact .refl _
    | install kind => cases kind <;> exact .refl _
    | letGo h =>
        show ScriptedRemote.SameAnswers g.remote (Gateway.reclaim _ t).remote
        unfold reclaim
        split
        · exact .refl _
        · exact ScriptedRemote.sameAnswers_disconnectAll _ _
  · intro key hkey
    cases c with
    | note key' entry =>
        refine (Table.get?_insert _ _ _ _).trans (if_neg fun heq => hkey ?_)
        exact heq ▸ hnote key' entry rfl
    | now | watermark | handler | jobCache | diskCache | session | release | installSystem
      | saveJobCache | saveDiskCache | replaceSession | hold | openSession | closeSession => rfl
    | query s q =>
        unfold perform
        dsimp only
        split <;> rfl
    | acquire lock =>
        unfold perform
        dsimp only
        split
        · rfl
        · split <;> rfl
    | install kind => cases kind <;> rfl
    | letGo h =>
        show Table.get? (Gateway.reclaim _ t).watermarks key = _
        unfold reclaim
        split <;> rfl

end

-- ========================================================= one call of each

/-- Two calls are answered, with answers in a relation, and leave the tenants
alike. The relation also has the locks that are taken then. -/
inductive Agree (K : Set WatermarkKey) (t t' : Nat) {c d : Job.Call}
    (R : Job.Answer c → Job.Answer d → List Lock → Prop) : Performed c → Performed d → Prop where
  | intro {a : Job.Answer c} {a' : Job.Answer d} {g g' : Gateway} {x x' : Tenant}
      (hanswers : R a a' x.locked) (hx : g.tenants[t]? = some x)
      (hx' : g'.tenants[t']? = some x') (halike : Alike K g x g' x') :
      Agree K t t' R (.answered a g) (.answered a' g')

section

variable {K : Set WatermarkKey} {t t' : Nat} {g g' : Gateway} {x x' : Tenant} {c c' : Job.Call}
  {R : Job.Answer c → Job.Answer c' → List Lock → Prop} {a : Job.Answer c} {a' : Job.Answer c'}

/-- Two tenants that are changed into twins stay alike, and the answers agree. -/
theorem Alike.agree_update (h : Alike K g x g' x') (hx : g.tenants[t]? = some x)
    (hx' : g'.tenants[t']? = some x') {f f' : Tenant → Tenant} (htwin : (f x).Twin (f' x'))
    (hanswers : R a a' (f x).locked) :
    Agree K t t' R (.answered a (g.update t f)) (.answered a' (g'.update t' f')) := by
  refine .intro hanswers ?_ ?_ { h with twin := htwin }
  · rw [tenants_update hx, if_pos rfl]
  · rw [tenants_update hx', if_pos rfl]

/-- The same, where the remote systems have kept their scripts. -/
theorem Alike.agree_remote (h : Alike K g x g' x') (hx : g.tenants[t]? = some x)
    (hx' : g'.tenants[t']? = some x') {r r' : ScriptedRemote}
    (hsame : ScriptedRemote.SameAnswers g.remote r)
    (hsame' : ScriptedRemote.SameAnswers g'.remote r') (hanswers : R a a' x.locked) :
    Agree K t t' R (.answered a { g with remote := r })
      (.answered a' { g' with remote := r' }) := by
  refine .intro hanswers hx hx' { h with script := ?_, prompt := ?_, prompt' := ?_ }
  · exact hsame'.script.trans (h.script.trans hsame.script.symm)
  · exact h.prompt.congr hsame
  · exact h.prompt'.congr hsame'

/-- A tenant's handler is let go, and with it the session that nobody has any
more. -/
theorem Alike.agree_letGo (h : Alike K g x g' x') (hx : g.tenants[t]? = some x)
    (hx' : g'.tenants[t']? = some x') {f f' : Tenant → Tenant} (htwin : (f x).Twin (f' x'))
    (hanswers : R a a' (f x).locked) :
    Agree K t t' R (.answered a ((g.update t f).reclaim t))
      (.answered a' ((g'.update t' f').reclaim t')) := by
  have hreclaim {g : Gateway} {t : Nat} {y : Tenant} (hy : g.tenants[t]? = some y) :
      g.reclaim t = (g.update t Tenant.disown).disconnect y.orphans := by
    unfold Gateway.reclaim
    rw [hy]
  have hy := tenants_update (f := f) hx t
  have hy' := tenants_update (f := f') hx' t'
  rw [if_pos rfl] at hy hy'
  rw [hreclaim hy, hreclaim hy']
  have hdisowned : Alike K ((g.update t f).update t Tenant.disown) (f x).disown
      ((g'.update t' f').update t' Tenant.disown) (f' x').disown :=
    { h with twin := htwin.disown }
  refine hdisowned.agree_remote ?_ ?_ (ScriptedRemote.sameAnswers_disconnectAll _ _)
    (ScriptedRemote.sameAnswers_disconnectAll _ _) hanswers
  · rw [tenants_update hy, if_pos rfl]
  · rw [tenants_update hy', if_pos rfl]

/-- Calls that have nothing to do with sessions and locks get the same
answers. -/
theorem Alike.plain (h : Alike K g x g' x') (hx : g.tenants[t]? = some x)
    (hx' : g'.tenants[t']? = some x') (hc : c.Plain K) :
    Agree K t t' (fun a a' L => a = a' ∧ L = x.locked) (g.perform t x none c)
      (g'.perform t' x' none c) := by
  cases c with
  | openSession | query | closeSession | installSystem | session | replaceSession | acquire
    | release => exact hc.elim
  | now => exact .intro ⟨h.clock.symm, rfl⟩ hx hx' h
  | watermark key => exact .intro ⟨(h.marks key hc).symm, rfl⟩ hx hx' h
  | note key entry =>
      refine .intro ⟨rfl, rfl⟩ hx hx' { h with marks := fun key' hkey' => ?_ }
      show (g'.watermarks.insert key entry).get? key' = (g.watermarks.insert key entry).get? key'
      rw [Table.get?_insert, Table.get?_insert, h.marks key' hkey']
  | handler kind =>
      have hslot : (x.slots.get kind).handler = (x'.slots.get kind).handler := by
        rw [h.twin.slots]
      exact .intro ⟨hslot, rfl⟩ hx hx' h
  | install kind =>
      cases kind with
      | jobs =>
          have hlength := congrArg List.length h.twin.jobCaches
          refine h.agree_update hx hx' ?_ ⟨hlength.symm, rfl⟩
          have hfill := h.twin.fill .jobs x.jobCaches.length
          refine { hfill with slots := ?_, jobCaches := ?_ }
          · rw [hlength]
            exact hfill.slots
          · show x'.jobCaches ++ _ = x.jobCaches ++ _
            rw [h.twin.jobCaches, h.config]
      | disks =>
          have hlength := congrArg List.length h.twin.diskCaches
          refine h.agree_update hx hx' ?_ ⟨hlength.symm, rfl⟩
          have hfill := h.twin.fill .disks x.diskCaches.length
          refine { hfill with slots := ?_, diskCaches := ?_ }
          · rw [hlength]
            exact hfill.slots
          · show x'.diskCaches ++ _ = x.diskCaches ++ _
            rw [h.twin.diskCaches, h.config]
      | system | subsystems | commands =>
          exact h.agree_update hx hx' (h.twin.fill _ 0) ⟨rfl, rfl⟩
  | jobCache k =>
      have hcache := congrArg (List.getD · k ⟨"", (0 : Nat), .nothing, {}, false⟩) h.twin.jobCaches
      exact .intro ⟨hcache.symm, rfl⟩ hx hx' h
  | diskCache k =>
      have hcache := congrArg (List.getD · k ⟨"", (0 : Nat), .nothing, {}, false⟩) h.twin.diskCaches
      exact .intro ⟨hcache.symm, rfl⟩ hx hx' h
  | saveJobCache k cache =>
      refine h.agree_update hx hx' { h.twin with jobCaches := ?_ } ⟨rfl, rfl⟩
      exact congrArg (List.set · k cache) h.twin.jobCaches
  | saveDiskCache k cache =>
      refine h.agree_update hx hx' { h.twin with diskCaches := ?_ } ⟨rfl, rfl⟩
      exact congrArg (List.set · k cache) h.twin.diskCaches
  | hold k =>
      refine h.agree_update hx hx' (h.twin.modify (fun y y' hshape => ?_) k) ⟨rfl, rfl⟩
      rw [shape_eq_iff] at hshape ⊢
      exact ⟨hshape.1, congrArg (· + 1) hshape.2.1, hshape.2.2⟩
  | letGo k =>
      refine h.agree_letGo hx hx' (h.twin.modify (fun y y' hshape => ?_) k) ⟨rfl, rfl⟩
      rw [shape_eq_iff] at hshape ⊢
      exact ⟨hshape.1, congrArg (· - 1) hshape.2.1, hshape.2.2⟩

/-- A lock that is free is taken, or what it guards is poisoned. -/
theorem Alike.acquire (h : Alike K g x g' x') (hx : g.tenants[t]? = some x)
    (hx' : g'.tenants[t']? = some x') {lock : Lock} (hfree : lock ∉ x.locked) :
    Agree K t t' (c := .acquire lock) (d := .acquire lock)
      (fun a a' L => (a : Bool) = a'
        ∧ L = match (a : Bool) with
          | true => lock :: x.locked
          | false => x.locked)
      (g.perform t x none (.acquire lock)) (g'.perform t' x' none (.acquire lock)) := by
  have hnone : x.locked.contains lock = false := by simpa using hfree
  unfold perform
  dsimp only
  rw [h.twin.locked, hnone, h.twin.isPoisoned]
  cases x.isPoisoned lock with
  | true => exact .intro ⟨rfl, rfl⟩ hx hx' h
  | false =>
      refine h.agree_update hx hx' { h.twin with locked := ?_ } ⟨rfl, rfl⟩
      exact congrArg (lock :: ·) h.twin.locked

/-- Poisoning a lock takes none and gives none back. -/
theorem locked_poison (x : Tenant) (lock : Lock) : (x.poison lock).locked = x.locked := by
  cases lock <;> rfl

/-- Both give a lock back, and poison it or not. -/
theorem Alike.release (h : Alike K g x g' x') (hx : g.tenants[t]? = some x)
    (hx' : g'.tenants[t']? = some x') (lock : Lock) (poison : Bool) :
    Agree K t t' (c := .release lock poison) (d := .release lock poison)
      (fun _ _ L => L = x.locked.erase lock)
      (g.perform t x none (.release lock poison))
      (g'.perform t' x' none (.release lock poison)) := by
  have htwin : Tenant.Twin { x with locked := x.locked.erase lock }
      { x' with locked := x'.locked.erase lock } :=
    { h.twin with locked := congrArg (List.erase · lock) h.twin.locked }
  refine h.agree_update hx hx' ?_ ?_
  · dsimp only
    split
    · exact htwin.poison lock
    · exact htwin
  · dsimp only
    split
    · exact locked_poison _ lock
    · rfl

/-- Both open sessions or both fail to, for the same reason. -/
theorem Alike.openSession (h : Alike K g x g' x') (hx : g.tenants[t]? = some x)
    (hx' : g'.tenants[t']? = some x') :
    Agree K t t' (c := .openSession) (d := .openSession)
      (fun a a' L => ((∃ s s', a = .ok s ∧ a' = .ok s')
        ∨ ∃ e, (a : Except Fault Nat) = .error e ∧ (a' : Except Fault Nat) = .error e)
          ∧ L = x.locked)
      (g.perform t x none .openSession) (g'.perform t' x' none .openSession) := by
  have hopens (who who' : Credentials) (policy policy' : SocketPolicy) :
      (∃ s s', (g.remote.openSession who policy).1 = .ok s
          ∧ (g'.remote.openSession who' policy').1 = .ok s')
        ∨ ∃ e, (g.remote.openSession who policy).1 = .error e
          ∧ (g'.remote.openSession who' policy').1 = .error e := by
    rw [ScriptedRemote.openSession_eq, ScriptedRemote.openSession_eq, h.script]
    cases ScriptedRemote.refusal? g.remote.script with
    | some e => exact .inr ⟨e, rfl, rfl⟩
    | none => exact .inl ⟨_, _, rfl, rfl⟩
  exact h.agree_remote hx hx' (ScriptedRemote.sameAnswers_openSession _ _ _)
    (ScriptedRemote.sameAnswers_openSession _ _ _) ⟨hopens _ _ _ _, rfl⟩

/-- A query over connected sessions gets the same answer, from the script. -/
theorem Alike.query (h : Alike K g x g' x') (hx : g.tenants[t]? = some x)
    (hx' : g'.tenants[t']? = some x') {s s' : Nat} (q : RemoteQuery)
    (hs : s ∈ g.remote.connected) (hs' : s' ∈ g'.remote.connected) :
    Agree K t t' (c := .query s q) (d := .query s' q)
      (fun a a' L => (a : Except Fault (List Record)) = a' ∧ L = x.locked)
      (g.perform t x none (.query s q)) (g'.perform t' x' none (.query s' q)) := by
  obtain ⟨rows, r, hsend, hsame, hrows⟩ := h.prompt.send s q
  obtain ⟨rows', r', hsend', hsame', hrows'⟩ := h.prompt'.send s' q
  unfold perform
  dsimp only
  rw [hsend, hsend', hrows hs, hrows' hs', h.script]
  exact h.agree_remote hx hx' hsame hsame' ⟨rfl, rfl⟩

/-- Both close a session, whichever it is. -/
theorem Alike.closeSession (h : Alike K g x g' x') (hx : g.tenants[t]? = some x)
    (hx' : g'.tenants[t']? = some x') (s s' : Nat) :
    Agree K t t' (c := .closeSession s) (d := .closeSession s')
      (fun _ _ L => True ∧ L = x.locked)
      (g.perform t x none (.closeSession s)) (g'.perform t' x' none (.closeSession s')) :=
  h.agree_remote hx hx' (ScriptedRemote.sameAnswers_disconnectAll _ _)
    (ScriptedRemote.sameAnswers_disconnectAll _ _) ⟨trivial, rfl⟩

/-- Both get a system handler of the same number, with sessions of their own. -/
theorem Alike.installSystem (h : Alike K g x g' x') (hx : g.tenants[t]? = some x)
    (hx' : g'.tenants[t']? = some x') (s s' : Nat) :
    Agree K t t' (c := .installSystem s) (d := .installSystem s')
      (fun a a' L => (a : Nat) = a' ∧ L = x.locked)
      (g.perform t x none (.installSystem s)) (g'.perform t' x' none (.installSystem s')) := by
  have hfill := h.twin.fill .system x.systems.length
  refine h.agree_update hx hx' { hfill with slots := ?_, systems := ?_ } ⟨h.twin.length.symm, rfl⟩
  · rw [h.twin.length]
    exact hfill.slots
  · rw [List.map_append, List.map_append, h.twin.systems]
    rfl

/-- Both put a new session in the place of the old one. -/
theorem Alike.replaceSession (h : Alike K g x g' x') (hx : g.tenants[t]? = some x)
    (hx' : g'.tenants[t']? = some x') (k s s' : Nat) :
    Agree K t t' (c := .replaceSession k s) (d := .replaceSession k s')
      (fun _ _ L => True ∧ L = x.locked)
      (g.perform t x none (.replaceSession k s))
      (g'.perform t' x' none (.replaceSession k s')) := by
  refine h.agree_update hx hx' (h.twin.modify (fun y y' hshape => ?_) k) ⟨trivial, rfl⟩
  rw [shape_eq_iff] at hshape ⊢
  exact ⟨rfl, hshape.2⟩

end

-- ========================================================== whole programs

/-- What jobs have in their hands when only one of them has anything. -/
def only (o : Post) (G : Grip) : Hands := Function.update (fun _ => {}) o G

/-- With nothing in the hands of the one job, nobody has anything. -/
theorem only_empty (o : Post) : only o {} = fun _ => {} := Function.update_eq_self o _

/-- The one job at work has its hands in the books. -/
structure Works (o : Post) (G : Grip) (g : Gateway) (x : Tenant) : Prop where
  tenant : g.tenants[o.tenant]? = some x
  books : ∃ owner, Balanced g (only o G) owner

/-- Two programs have run to their ends, with values in a relation, and the
tenants are alike. -/
inductive Ended {α β : Type} (K : Set WatermarkKey) (V : α → β → Prop) (E : List Lock)
    (o o' : Post) : (JobRoutine α × Option Nat) × Gateway →
      (JobRoutine β × Option Nat) × Gateway → Prop where
  | intro {a : α} {b : β} {g g' : Gateway} {x x' : Tenant} (hvalues : V a b)
      (halike : Alike K g x g' x') (hlocked : x.locked = E) (hworks : Works o {} g x)
      (hworks' : Works o' {} g' x') : Ended K V E o o' ((.done a, none), g) ((.done b, none), g')

/-- Wherever tenants are alike and hold some locks, the programs run to their
ends, alike, and keep to what is theirs. -/
def Together {α β : Type} (K : Set WatermarkKey) (V : α → β → Prop) (E L : List Lock)
    (r : JobRoutine α) (r' : JobRoutine β) : Prop :=
  ∀ (o o' : Post) (G G' : Grip) (g g' : Gateway) (x x' : Tenant), Alike K g x g' x' →
    x.locked = L → Works o G g x → Works o' G' g' x' →
    Obeys r (fun _ G => G = {}) G → Obeys r' (fun _ G => G = {}) G' →
    Ended K V E o o' (advance o.tenant none r g) (advance o'.tenant none r' g')
      ∧ Aside K o.tenant g (advance o.tenant none r g).2
      ∧ Aside K o'.tenant g' (advance o'.tenant none r' g').2

section

variable {α β : Type} {K : Set WatermarkKey} {V : α → β → Prop} {E L : List Lock}
  {o : Post} {G : Grip} {g g₁ : Gateway} {x x₁ : Tenant} {c c' : Job.Call} {s : Nat}

/-- A call that the job's hands permit is admitted, and its hands stay in the books. -/
theorem Works.perform (h : Works o G g x) {a : Job.Answer c} (hpermits : G.Permits c)
    (hperform : g.perform o.tenant x none c = .answered a g₁)
    (hx₁ : g₁.tenants[o.tenant]? = some x₁) : G.Admits c a ∧ Works o (G.after c a) g₁ x₁ := by
  obtain ⟨owner, H⟩ := h.books
  have hself : only o G o = G := Function.update_self ..
  rw [← hself] at hpermits
  obtain ⟨hadmits, owner', -, H'⟩ := H.perform h.tenant hpermits hperform
  rw [hself] at hadmits H'
  have hidem : Function.update (only o G) o (G.after c a) = only o (G.after c a) :=
    Function.update_idem ..
  exact ⟨hadmits, hx₁, owner', hidem ▸ H'⟩

/-- A session in the hands of the job is connected. -/
theorem Works.connected (h : Works o G g x) (hs : s ∈ G.sessions) : s ∈ g.remote.connected := by
  obtain ⟨owner, H⟩ := h.books
  refine H.connected_of_hand (o := o) ?_
  rwa [only, Function.update_self]

/-- A call that is answered is one step on the way. -/
theorem advance_call {t : Nat} {gate : Option Nat} {a : Job.Answer c}
    {next : Job.Answer c → JobRoutine α} (hx : g.tenants[t]? = some x)
    (hperform : g.perform t x gate c = .answered a g₁) :
    advance t gate (.call c next) g = advance t none (next a) g₁ := by
  rw [Gateway.advance, hx]
  dsimp only
  rw [hperform]

/-- Programs that start with calls that are answered alike. -/
theorem together_call {next : Job.Answer c → JobRoutine α} {next' : Job.Answer c' → JobRoutine β}
    (R : Job.Answer c → Job.Answer c' → List Lock → Prop)
    (hnote : ∀ key entry, c = .note key entry → key ∈ K)
    (hnote' : ∀ key entry, c' = .note key entry → key ∈ K)
    (hagree : ∀ {o o' : Post} {G G' : Grip} {g g' : Gateway} {x x' : Tenant},
      Alike K g x g' x' → x.locked = L → Works o G g x → Works o' G' g' x' →
      G.Permits c → G'.Permits c' → Agree K o.tenant o'.tenant R
        (g.perform o.tenant x none c) (g'.perform o'.tenant x' none c'))
    (hnext : ∀ a a' L', R a a' L' → Together K V E L' (next a) (next' a')) :
    Together K V E L (.call c next) (.call c' next') := by
  intro o o' G G' g g' x x' halike hlocked hworks hworks' hobeys hobeys'
  have hcalls := hagree halike hlocked hworks hworks' hobeys.1 hobeys'.1
  have haside := aside_perform (t := o.tenant) halike.prompt x c hnote
  have haside' := aside_perform (t := o'.tenant) halike.prompt' x' c' hnote'
  generalize hperform : g.perform o.tenant x none c = answered at hcalls haside
  generalize hperform' : g'.perform o'.tenant x' none c' = answered' at hcalls haside'
  cases hcalls with
  | intro hanswers hx₁ hx₁' halike₁ =>
      obtain ⟨hadmits, hworks₁⟩ := hworks.perform hobeys.1 hperform hx₁
      obtain ⟨hadmits', hworks₁'⟩ := hworks'.perform hobeys'.1 hperform' hx₁'
      rw [advance_call hworks.tenant hperform, advance_call hworks'.tenant hperform']
      obtain ⟨hended, hrest, hrest'⟩ := hnext _ _ _ hanswers o o' _ _ _ _ _ _ halike₁ rfl
        hworks₁ hworks₁' (hobeys.2 _ hadmits) (hobeys'.2 _ hadmits')
      exact ⟨hended, haside.trans hrest, haside'.trans hrest'⟩

/-- The same for calls that have nothing to do with locks. -/
theorem together_unlocked {next : Job.Answer c → JobRoutine α}
    {next' : Job.Answer c' → JobRoutine β} (R : Job.Answer c → Job.Answer c' → Prop)
    (hnote : ∀ key entry, c = .note key entry → key ∈ K)
    (hnote' : ∀ key entry, c' = .note key entry → key ∈ K)
    (hagree : ∀ {o o' : Post} {G G' : Grip} {g g' : Gateway} {x x' : Tenant},
      Alike K g x g' x' → Works o G g x → Works o' G' g' x' → G.Permits c → G'.Permits c' →
      Agree K o.tenant o'.tenant (fun a a' L' => R a a' ∧ L' = x.locked)
        (g.perform o.tenant x none c) (g'.perform o'.tenant x' none c'))
    (hnext : ∀ a a', R a a' → Together K V E L (next a) (next' a')) :
    Together K V E L (.call c next) (.call c' next') := by
  refine together_call (fun a a' L' => R a a' ∧ L' = L) hnote hnote' ?_ ?_
  · intro o o' G G' g g' x x' halike hlocked hworks hworks' hpermits hpermits'
    subst hlocked
    exact hagree halike hworks hworks' hpermits hpermits'
  · intro a a' L' hanswers
    obtain ⟨hR, hL'⟩ := hanswers
    subst hL'
    exact hnext a a' hR

/-- Both take a lock that is free, or are both refused. -/
theorem together_acquire {lock : Lock} {next : Bool → JobRoutine α} {next' : Bool → JobRoutine β}
    (hfree : lock ∉ L) (htaken : Together K V E (lock :: L) (next true) (next' true))
    (hrefused : Together K V E L (next false) (next' false)) :
    Together K V E L (.call (.acquire lock) next) (.call (.acquire lock) next') := by
  refine together_call
    (fun a a' L' => (a : Bool) = a'
      ∧ L' = match (a : Bool) with
        | true => lock :: L
        | false => L)
    (fun _ _ => nofun) (fun _ _ => nofun) ?_ ?_
  · intro o o' G G' g g' x x' halike hlocked hworks hworks' _ _
    subst hlocked
    exact halike.acquire hworks.tenant hworks'.tenant hfree
  · intro a a' L' hanswers
    obtain ⟨hsame, hL'⟩ := hanswers
    subst hsame hL'
    cases a with
    | true => exact htaken
    | false => exact hrefused

/-- Both give a lock back. -/
theorem together_release {lock : Lock} {poison : Bool} {next : Unit → JobRoutine α}
    {next' : Unit → JobRoutine β} (h : Together K V E (L.erase lock) (next ()) (next' ())) :
    Together K V E L (.call (.release lock poison) next)
      (.call (.release lock poison) next') := by
  refine together_call (fun _ _ L' => L' = L.erase lock) (fun _ _ => nofun) (fun _ _ => nofun)
    ?_ ?_
  · intro o o' G G' g g' x x' halike hlocked hworks hworks' _ _
    subst hlocked
    exact halike.release hworks.tenant hworks'.tenant lock poison
  · intro a a' L' hL'
    subst hL'
    exact h

/-- Twin programs of tenants that are alike run to their ends, end alike, and
leave the tenants alike. -/
theorem together_twins {r : JobRoutine α} {r' : JobRoutine β} (h : Twins K V E L r r') :
    Together K V E L r r' := by
  induction h with
  | done hvalues =>
      intro o o' G G' g g' x x' halike hlocked hworks hworks' hobeys hobeys'
      have hG : G = {} := hobeys
      have hG' : G' = {} := hobeys'
      subst hG hG'
      exact ⟨.intro hvalues halike hlocked hworks hworks', .refl g, .refl g'⟩
  | @plain L c next next' hc _ ih =>
      have hnote (key : WatermarkKey) (entry : QueuedMessage) (heq : c = .note key entry) :
          key ∈ K := by
        subst heq
        exact hc
      refine together_unlocked (fun a a' => a = a') hnote hnote ?_ ?_
      · intro o o' G G' g g' x x' halike hworks hworks' _ _
        exact halike.plain hworks.tenant hworks'.tenant hc
      · intro a a' hsame
        subst hsame
        exact ih a
  | acquire hfree _ _ ihtaken ihrefused => exact together_acquire hfree ihtaken ihrefused
  | release _ ih => exact together_release ih
  | openSession _ _ ihopened ihfailed =>
      refine together_unlocked _ (fun _ _ => nofun) (fun _ _ => nofun)
        (fun halike hworks hworks' _ _ =>
          halike.openSession hworks.tenant hworks'.tenant) ?_
      intro a a' hanswers
      obtain ⟨s, s', rfl, rfl⟩ | ⟨e, rfl, rfl⟩ := hanswers
      · exact ihopened s s'
      · exact ihfailed e
  | @query L s s' q next next' _ ih =>
      refine together_unlocked _ (fun _ _ => nofun) (fun _ _ => nofun)
        (fun halike hworks hworks' hpermits hpermits' =>
          halike.query hworks.tenant hworks'.tenant q (hworks.connected hpermits)
            (hworks'.connected hpermits')) ?_
      intro a a' hsame
      subst hsame
      exact ih a
  | closeSession _ ih =>
      exact together_unlocked _ (fun _ _ => nofun) (fun _ _ => nofun)
        (fun halike hworks hworks' _ _ =>
          halike.closeSession hworks.tenant hworks'.tenant _ _) fun _ _ _ => ih
  | installSystem _ ih =>
      refine together_unlocked _ (fun _ _ => nofun) (fun _ _ => nofun)
        (fun halike hworks hworks' _ _ =>
          halike.installSystem hworks.tenant hworks'.tenant _ _) ?_
      intro a a' hsame
      subst hsame
      exact ih a
  | session _ ih =>
      exact together_unlocked (fun _ _ => True) (fun _ _ => nofun) (fun _ _ => nofun)
        (fun halike hworks hworks' _ _ =>
          .intro ⟨trivial, rfl⟩ hworks.tenant hworks'.tenant halike) fun a a' _ => ih a a'
  | replaceSession _ ih =>
      exact together_unlocked _ (fun _ _ => nofun) (fun _ _ => nofun)
        (fun halike hworks hworks' _ _ =>
          halike.replaceSession hworks.tenant hworks'.tenant _ _ _) fun _ _ _ => ih

/-- What twin programs come to that are started with empty hands and end with
them. -/
theorem Together.ends {r : JobRoutine α} {r' : JobRoutine β} (h : Together K V E L r r')
    {o' : Post} {g' : Gateway} {x' : Tenant} (halike : Alike K g x g' x') (hlocked : x.locked = L)
    (hworks : Works o {} g x) (hworks' : Works o' {} g' x') (hsteady : Steady {} r)
    (hsteady' : Steady {} r') :
    ∃ a b g₂ g₂' y y', advance o.tenant none r g = ((.done a, none), g₂)
      ∧ advance o'.tenant none r' g' = ((.done b, none), g₂')
      ∧ V a b ∧ Alike K g₂ y g₂' y' ∧ y.locked = E ∧ Works o {} g₂ y ∧ Works o' {} g₂' y'
      ∧ Aside K o.tenant g g₂ ∧ Aside K o'.tenant g' g₂' := by
  obtain ⟨hended, haside, haside'⟩ :=
    h o o' {} {} g g' x x' halike hlocked hworks hworks' hsteady.obeys hsteady'.obeys
  generalize advance o.tenant none r g = e at hended haside ⊢
  generalize advance o'.tenant none r' g' = e' at hended haside' ⊢
  cases hended with
  | @intro a b g₂ g₂' y y' hvalues halike hlocked hworks hworks' =>
      exact ⟨a, b, g₂, g₂', y, y', rfl, rfl, hvalues, halike, hlocked, hworks, hworks', haside,
        haside'⟩

end

end Gateway

end CheckGateway
