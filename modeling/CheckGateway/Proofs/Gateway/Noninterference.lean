/-
What one account does, the other does not notice.

Two accounts share a gateway: its registry, its watermarks, its clock, the
sweeps and the remote system. Their requests come one after the other, each
answered before the next, and in between time goes on, the remote system gets
another script, and tenants are swept out. `noninterference`: leave out what
one of them asks, and the answers to the other stay the same, but for the
number of the pool that an answer may name.

# The two runs

`Parallel` holds between the gateway of the full run and that of the other at
any time: the account that is watched has the same tenant in both, up to the
sessions of its handlers, and what is no tenant's is the same, as far as its
watermarks go. `Parallel.dispatch` is a request of this account, made in both
runs, and `Calm.dispatch_of_other` one of the other account, made in one of
them. The rest happens in both alike.

The accounts have different keys, so they have different tenants. Their
watermarks have digests for keys. That these are different too is where the
digest must not collide, and where the separator must not be in the texts.
-/
import CheckGateway.Proofs.Gateway.Serving
import CheckGateway.Proofs.Tail.Keys

namespace CheckGateway

/-- The watermarks that a request can be about. -/
def Request.marks (r : Request) : Set WatermarkKey :=
  { key | ∃ query, r.messageQuery = .ok query ∧ key = .derive r.credentials query }

/-- Accounts with one key have one host and one login. -/
theorem Credentials.lowered_of_key {a b : Credentials} (h : a.key = b.key) :
    Text.lowerAscii a.host = Text.lowerAscii b.host
      ∧ Text.lowerAscii a.login = Text.lowerAscii b.login :=
  ⟨congrArg CredentialKey.host h, congrArg CredentialKey.login h⟩

/-- Accounts with one key have the same watermarks. -/
theorem WatermarkKey.derive_congr {a b : Credentials} (h : a.key = b.key)
    (query : MessageQuery) : derive a query = derive b query := by
  obtain ⟨hhost, hlogin⟩ := Credentials.lowered_of_key h
  unfold derive parts
  rw [hhost, hlogin]

theorem JobContext.keys_eq_marks {ctx : JobContext} {r : Request}
    (h : ctx.credentials.key = r.credentials.key) : ctx.keys r = r.marks := by
  ext key
  refine exists_congr fun query => and_congr_right fun _ => ?_
  rw [WatermarkKey.derive_congr h]

namespace Gateway

-- =============================================================== dispatching

section

variable {K : Set WatermarkKey} {g g' g₁ : Gateway} {t : Nat} {r : Request}
  {key : CredentialKey}

theorem dispatch_of_resolve (hresolve : g.resolve r.credentials = (.ok t, g₁)) :
    g.dispatch r = (some (g₁.dispatchTo t r).1, (g₁.dispatchTo t r).2) := by
  unfold dispatch
  rw [hresolve]

/-- A request that is answered has found a tenant. -/
theorem Calm.resolve_of_answered (h : Calm g) (hanswered : (g.dispatch r).1.isSome = true) :
    ∃ t g₁, g.resolve r.credentials = (.ok t, g₁) := by
  rcases resolve_inv (Prod.eta (g.resolve r.credentials)).symm with ⟨hpoisoned, -, -⟩
    | ⟨-, t, -, hr, -⟩ | ⟨-, -, ⟨-, hr, -⟩ | ⟨-, hr, -⟩⟩
  · rw [h.alive] at hpoisoned
    cases hpoisoned
  · exact ⟨t, _, Prod.ext hr rfl⟩
  · -- the registry dies over it
    have hresolve : g.resolve r.credentials = (.error .panicked, (g.resolve r.credentials).2) :=
      Prod.ext hr rfl
    unfold dispatch at hanswered
    rw [hresolve] at hanswered
    cases hanswered
  · exact ⟨_, _, Prod.ext hr rfl⟩

/-- As far as an account and some watermarks go, two gateways are the same up
to sessions. -/
structure Parallel (K : Set WatermarkKey) (key : CredentialKey) (g g' : Gateway) : Prop where
  calm : Calm g
  calm' : Calm g'
  memoryless : g.remote.script.Memoryless
  setting : SameSetting K g g'
  tenant : Option.Rel Tenant.Twin (g.tenantOf? key) (g'.tenantOf? key)

/-- A request of the account, made in both runs. -/
theorem Parallel.dispatch (h : Parallel K r.credentials.key g g') (hkeys : r.marks ⊆ K)
    (hanswered : (g.dispatch r).1.isSome = true) :
    (∃ a b, (g.dispatch r).1 = some a ∧ (g'.dispatch r).1 = some b ∧ a.Like b)
      ∧ Parallel K r.credentials.key (g.dispatch r).2 (g'.dispatch r).2 := by
  -- both find the tenant, or both make one
  obtain ⟨t, g₁, hresolve⟩ := h.calm.resolve_of_answered hanswered
  obtain ⟨t', g₁', hresolve'⟩ : ∃ t' g₁', g'.resolve r.credentials = (.ok t', g₁') := by
    rw [h.calm'.resolve_ok_iff, h.setting.config, ← h.calm.resolve_ok_iff]
    exact ⟨t, g₁, hresolve⟩
  have hfound : Resolved (K := K) g r.credentials t g₁ := h.calm.resolve hresolve
  have hfound' : Resolved (K := K) g' r.credentials t' g₁' := h.calm'.resolve hresolve'
  obtain ⟨pools, x, hx, hkey, heq⟩ := hfound.tenant
  obtain ⟨pools', x', hx', hkey', heq'⟩ := hfound'.tenant
  have hsetting : SameSetting K g₁ g₁' :=
    (hfound.setting.symm.trans h.setting).trans hfound'.setting
  have htwin : x.Twin x' := by
    rw [heq, heq']
    have htenant := h.tenant
    generalize g.tenantOf? r.credentials.key = found at htenant ⊢
    generalize g'.tenantOf? r.credentials.key = found' at htenant ⊢
    cases htenant with
    | some htwin => exact { htwin with lastUsed := h.setting.clock }
    | none => exact ⟨rfl, h.setting.clock, rfl, rfl, rfl, rfl, rfl⟩
  have hmemoryless : g₁.remote.script.Memoryless := hfound.setting.script ▸ h.memoryless
  have halike : Alike K g₁ x g₁' x' :=
    ⟨hsetting.config, hsetting.overflow, hsetting.clock, hsetting.script, hsetting.marks,
      hfound.calm.prompt hmemoryless, hfound'.calm.prompt (hsetting.script ▸ hmemoryless), htwin⟩
  have hmarks : (g₁.context x).keys r ⊆ K := by
    rw [JobContext.keys_eq_marks (by exact hkey)]
    exact hkeys
  obtain ⟨answer, g₂, y, g₂', y', hdispatch, hdispatch', hserved, hserved', htwin', hsame⟩ :=
    hfound.calm.dispatchTo_together hfound'.calm hfound.registered hfound'.registered hx hx'
      halike hmarks
  rw [dispatch_of_resolve hresolve, dispatch_of_resolve hresolve', hdispatch, hdispatch']
  have hready := hfound.calm.ready t x hx
  have hready' := hfound'.calm.ready t' x' hx'
  rw [hsetting.config] at hready'
  refine ⟨⟨_, _, rfl, rfl, answerOf_like hready hready' htwin.credentials r.pool answer⟩,
    hserved.calm, hserved'.calm, hserved.script ▸ hmemoryless, ⟨?_, ?_, ?_, ?_, hsame⟩, ?_⟩
  · exact hserved'.roll.config.trans (hsetting.config.trans hserved.roll.config.symm)
  · exact hserved'.roll.overflow.trans (hsetting.overflow.trans hserved.roll.overflow.symm)
  · exact hserved'.clock.trans (hsetting.clock.trans hserved.clock.symm)
  · exact hserved'.script.trans (hsetting.script.trans hserved.script.symm)
  · rw [← hkey, hserved.tenantOf?_eq hfound.registered, hkey, ← hkey',
      hserved'.tenantOf?_eq hfound'.registered]
    exact .some htwin'

/-- A request that finds a tenant is served to it. -/
theorem Calm.dispatch_served (h : Calm g) (hmemoryless : g.remote.script.Memoryless)
    (hresolve : g.resolve r.credentials = (.ok t, g₁)) :
    ∃ x y answer g₂, g₁.tenants[t]? = some x ∧ x.key = r.credentials.key
      ∧ g.dispatch r = (some answer, g₂) ∧ Served r.marks t x g₁ g₂ y := by
  have hfound : Resolved (K := r.marks) g r.credentials t g₁ := h.resolve hresolve
  obtain ⟨pools, x, hx, hkey, -⟩ := hfound.tenant
  have hprompt := hfound.calm.prompt (hfound.setting.script ▸ hmemoryless)
  -- the request is a twin of itself
  have halike : Alike r.marks g₁ x g₁ x :=
    ⟨rfl, rfl, rfl, rfl, fun _ _ => rfl, hprompt, hprompt, .refl x⟩
  have hkeys : (g₁.context x).keys r ⊆ r.marks := by
    rw [JobContext.keys_eq_marks (by exact hkey)]
  obtain ⟨answer, g₂, y, -, -, hdispatch, -, hserved, -⟩ :=
    hfound.calm.dispatchTo_together hfound.calm hfound.registered hfound.registered hx hx
      halike hkeys
  refine ⟨x, y, answerOf x r.pool answer, g₂, hx, hkey, ?_, hserved⟩
  rw [dispatch_of_resolve hresolve, hdispatch]

/-- What a request of another account leaves of what the account can notice:
everything, if it is about other watermarks. -/
theorem Calm.dispatch_of_other (h : Calm g) (hmemoryless : g.remote.script.Memoryless)
    (hanswered : (g.dispatch r).1.isSome = true) (hkey : r.credentials.key ≠ key)
    (hmarks : ∀ mark ∈ r.marks, mark ∉ K) :
    Calm (g.dispatch r).2 ∧ SameSetting K g (g.dispatch r).2
      ∧ (g.dispatch r).2.tenantOf? key = g.tenantOf? key := by
  obtain ⟨t, g₁, hresolve⟩ := h.resolve_of_answered hanswered
  have hfound : Resolved (K := K) g r.credentials t g₁ := h.resolve hresolve
  obtain ⟨x, y, answer, g₂, hx, hxkey, hdispatch, hserved⟩ := h.dispatch_served hmemoryless hresolve
  rw [hdispatch]
  refine ⟨hserved.calm, hfound.setting.trans ?_, ?_⟩
  · exact ⟨hserved.roll.config, hserved.roll.overflow, hserved.clock, hserved.script,
      fun mark hmark => hserved.marks mark fun hmine => hmarks mark hmine hmark⟩
  · have hother : x.key ≠ key := fun heq => hkey (hxkey.symm.trans heq)
    rw [← hfound.others key hkey.symm]
    exact hfound.calm.listed.tenantOf?_of_others hserved.calm.listed hserved.roll.registered hx
      hserved.tenant hserved.others hother (hserved.key ▸ hother)

/-- A request of another account, made in one run only. -/
theorem Parallel.dispatch_other (h : Parallel K key g g')
    (hanswered : (g.dispatch r).1.isSome = true) (hkey : r.credentials.key ≠ key)
    (hmarks : ∀ mark ∈ r.marks, mark ∉ K) : Parallel K key (g.dispatch r).2 g' := by
  obtain ⟨hcalm, hsetting, htenant⟩ := h.calm.dispatch_of_other h.memoryless hanswered hkey hmarks
  refine ⟨hcalm, h.calm', hsetting.script ▸ h.memoryless, hsetting.symm.trans h.setting, ?_⟩
  rw [htenant]
  exact h.tenant

-- ========================================================== what else happens

/-- A gateway at rest does not mind what happens outside. -/
theorem Calm.outside (h : Calm g) (clock : Timestamp) (script : Script) :
    Calm { g with clock := clock, remote := { g.remote with script := script } } := by
  obtain ⟨owner, H⟩ := h.books
  have hsame : g.remote.SameSessions { g.remote with script := script } := ⟨rfl, rfl, rfl, rfl, rfl⟩
  exact ⟨h.alive, h.listed.congr ⟨rfl, rfl, rfl, rfl, rfl⟩, h.unkept, h.ready, h.accepting,
    h.answered, h.ungated, owner, H.congr (H.orderly.congr hsame) rfl fun _ => rfl⟩

/-- The clock is the same in both runs. -/
theorem Parallel.clock (h : Parallel K key g g') (now : Timestamp) :
    Parallel K key { g with clock := now } { g' with clock := now } :=
  ⟨h.calm.outside now g.remote.script, h.calm'.outside now g'.remote.script, h.memoryless,
    ⟨h.setting.config, h.setting.overflow, rfl, h.setting.script, h.setting.marks⟩, h.tenant⟩

/-- So is the script. -/
theorem Parallel.script (h : Parallel K key g g') {script : Script}
    (hscript : script.Memoryless) :
    Parallel K key { g with remote := { g.remote with script := script } }
      { g' with remote := { g'.remote with script := script } } :=
  ⟨h.calm.outside g.clock script, h.calm'.outside g'.clock script, hscript,
    ⟨h.setting.config, h.setting.overflow, h.setting.clock, rfl, h.setting.marks⟩, h.tenant⟩

/-- A sweep takes the tenant out in both runs, or in neither. -/
theorem Parallel.evictIdle (h : Parallel K key g g') (now : Timestamp) :
    Parallel K key (g.evictIdle now).2 (g'.evictIdle now).2 := by
  have hsame := h.calm.sameSetting_evictIdle (K := K) now
  have hsame' := h.calm'.sameSetting_evictIdle (K := K) now
  refine ⟨h.calm.evictIdle now, h.calm'.evictIdle now, hsame.script ▸ h.memoryless,
    (hsame.symm.trans h.setting).trans hsame', ?_⟩
  rw [h.calm.tenantOf?_evictIdle, h.calm'.tenantOf?_evictIdle, h.setting.config]
  have htenant := h.tenant
  generalize g.tenantOf? key = found at htenant ⊢
  generalize g'.tenantOf? key = found' at htenant ⊢
  cases htenant with
  | none => exact .none
  | @some x x' htwin =>
      rw [Option.filter_some, Option.filter_some, htwin.lastUsed]
      split
      · exact .some htwin
      · exact .none

-- ==================================================================== runs

/-- What happens to a gateway that serves one request at a time. No gate is
among it: nobody holds up a query of a request that is to be answered. -/
inductive Event where
  | request (r : Request)
  | clock (now : Timestamp)
  | script (s : Script)
  | sweep (now : Timestamp)

/-- The event is no request of anybody but the account. -/
def Event.isOf (who : Credentials) : Event → Bool
  | .request r => r.credentials.agree who
  | .clock _ | .script _ | .sweep _ => true

/-- The requests of a run with their answers, `none` where the gateway dies
over one. -/
def play (g : Gateway) : List Event → List (Request × Option Response)
  | [] => []
  | .request r :: later => (r, (g.dispatch r).1) :: (g.dispatch r).2.play later
  | .clock now :: later => { g with clock := now }.play later
  | .script s :: later => { g with remote := { g.remote with script := s } }.play later
  | .sweep now :: later => (g.evictIdle now).2.play later

theorem play_request (g : Gateway) (r : Request) (later : List Event) :
    g.play (.request r :: later) = (r, (g.dispatch r).1) :: (g.dispatch r).2.play later := rfl

/-- An answered request, and the same request with an answer that is like
that one. -/
def AnsweredAlike (entry entry' : Request × Option Response) : Prop :=
  entry'.1 = entry.1 ∧ ∃ a b, entry.2 = some a ∧ entry'.2 = some b ∧ a.Like b

/-- The event keeps accounts apart: a request of the account is about some
watermarks, one of anybody else is about others and has another key. Answers
do not depend on what was asked before. -/
def Event.Apart (K : Set WatermarkKey) (who : Credentials) : Event → Prop
  | .request r =>
      (r.credentials.agree who = true ∧ r.marks ⊆ K)
        ∨ (r.credentials.agree who = false ∧ r.credentials.key ≠ who.key
          ∧ ∀ mark ∈ r.marks, mark ∉ K)
  | .script s => s.Memoryless
  | .clock _ | .sweep _ => True

theorem key_of_agree {a b : Credentials} (h : a.agree b = true) : a.key = b.key := by
  simp only [Credentials.agree, Bool.and_eq_true, beq_iff_eq, Text.eqIgnoreCase_iff] at h
  obtain ⟨⟨hhost, hlogin⟩, hpassword⟩ := h
  unfold Credentials.key Credentials.passwordParts
  rw [hhost, hlogin, hpassword]

variable {who : Credentials}

/-- Two runs that are parallel stay so to their ends. -/
theorem Parallel.play (h : Parallel K who.key g g') {events : List Event}
    (hapart : ∀ e ∈ events, e.Apart K who)
    (hanswered : ∀ entry ∈ g.play events, entry.2.isSome = true) :
    List.Forall₂ AnsweredAlike
      ((g.play events).filter fun entry => entry.1.credentials.agree who)
      (g'.play (events.filter fun e => e.isOf who)) := by
  induction events generalizing g g' with
  | nil => exact .nil
  | cons e later ih =>
      have hlater : ∀ e ∈ later, e.Apart K who := fun e he => hapart e (List.mem_cons_of_mem _ he)
      have he := hapart e List.mem_cons_self
      cases e with
      | clock now => exact ih (h.clock now) hlater hanswered
      | script s => exact ih (h.script he) hlater hanswered
      | sweep now => exact ih (h.evictIdle now) hlater hanswered
      | request r =>
          obtain ⟨hfirst, hrest⟩ := List.forall_mem_cons.1 hanswered
          rcases he with ⟨hagree, hmarks⟩ | ⟨hagree, hkey, hmarks⟩
          · have hmine : (Event.request r :: later).filter (fun e => e.isOf who)
                = .request r :: later.filter fun e => e.isOf who :=
              List.filter_cons_of_pos hagree
            rw [← key_of_agree hagree] at h
            obtain ⟨hlike, hparallel⟩ := h.dispatch hmarks hfirst
            rw [key_of_agree hagree] at hparallel
            rw [hmine, play_request, play_request, List.filter_cons_of_pos (by exact hagree)]
            exact .cons ⟨rfl, hlike⟩ (ih hparallel hlater hrest)
          · have hother : ¬ r.credentials.agree who = true := ne_true_of_eq_false hagree
            have htheirs : (Event.request r :: later).filter (fun e => e.isOf who)
                = later.filter fun e => e.isOf who := List.filter_cons_of_neg hother
            rw [htheirs, play_request, List.filter_cons_of_neg (by exact hother)]
            exact ih (h.dispatch_other hfirst hkey hmarks) hlater hrest

/-- A new gateway is at rest. -/
theorem calm_create {config : Config} {clock : Timestamp} {overflow : Overflow}
    (hcreate : create config clock overflow = .ok g) :
    Calm g := by
  have hbooks := (accounted_create hcreate).balanced
  have hlisted := listed_create hcreate
  have hg := create_eq hcreate
  have hnone {t : Nat} {x : Tenant} : g.tenants[t]? ≠ some x := by
    rw [hg]
    exact fun hx => nomatch hx
  refine ⟨?_, hlisted, ?_, fun t x hx => absurd hx hnone, fun t _ x hx => absurd hx hnone, ?_, ?_,
    _, hbooks⟩
  · rw [hg]
  · rw [hg]
  · rw [hg]
    exact fun entry hentry => absurd hentry List.not_mem_nil
  · rw [hg]
    exact fun _ => rfl

/-- Where pools can be started for every request, each is answered. -/
theorem Calm.play_answered (h : Calm g) (hmemoryless : g.remote.script.Memoryless)
    {events : List Event}
    (hstartable : ∀ r, .request r ∈ events → Startable g.config r.credentials.host)
    (hscripts : ∀ s, .script s ∈ events → s.Memoryless) :
    ∀ entry ∈ g.play events, entry.2.isSome = true := by
  induction events generalizing g with
  | nil => exact fun entry hentry => absurd hentry List.not_mem_nil
  | cons e later ih =>
      have hlater : ∀ s, .script s ∈ later → s.Memoryless :=
        fun s hs => hscripts s (List.mem_cons_of_mem _ hs)
      have hstill : ∀ r, .request r ∈ later → Startable g.config r.credentials.host :=
        fun r hr => hstartable r (List.mem_cons_of_mem _ hr)
      cases e with
      | clock now => exact ih (h.outside now g.remote.script) hmemoryless hstill hlater
      | script s =>
          exact ih (h.outside g.clock s) (hscripts s List.mem_cons_self) hstill hlater
      | sweep now =>
          have hsame := h.sameSetting_evictIdle (K := ∅) now
          refine ih (h.evictIdle now) (hsame.script ▸ hmemoryless) ?_ hlater
          rw [hsame.config]
          exact hstill
      | request r =>
          obtain ⟨t, g₁, hresolve⟩ := h.resolve_ok_iff.mpr (hstartable r List.mem_cons_self)
          have hfound : Resolved (K := ∅) g r.credentials t g₁ := h.resolve hresolve
          obtain ⟨x, y, answer, g₂, -, -, hdispatch, hserved⟩ :=
            h.dispatch_served hmemoryless hresolve
          rw [play_request, hdispatch]
          refine List.forall_mem_cons.2 ⟨rfl, ih hserved.calm ?_ ?_ hlater⟩
          · rw [hserved.script, hfound.setting.script]
            exact hmemoryless
          · rw [hserved.roll.config, hfound.setting.config]
            exact hstill

/-- A gateway is parallel to itself. -/
theorem Calm.parallel (h : Calm g) (hmemoryless : g.remote.script.Memoryless) :
    Parallel K key g g := by
  refine ⟨h, h, hmemoryless, ⟨rfl, rfl, rfl, rfl, fun _ _ => rfl⟩, ?_⟩
  cases g.tenantOf? key with
  | none => exact .none
  | some x => exact .some (.refl x)

end

-- =========================================================== noninterference

section

variable {a b : Credentials} {events : List Event}

open WatermarkKey (parts derive)

/-- No text that stands in front of a pattern holds the separator. -/
def Event.Seamless : Event → Prop
  | .request r => Digest.Seamless r.credentials.host ∧ Digest.Seamless r.credentials.login
      ∧ ∀ query, r.messageQuery = .ok query → Digest.Seamless query.path
  | .clock _ | .script _ | .sweep _ => True

/-- What of the message queries of some events goes into the digest. -/
def joinedQueries (events : List Event) : Set (List UInt8) :=
  { bytes | ∃ r query, .request r ∈ events ∧ r.messageQuery = .ok query
    ∧ bytes = Digest.joined (parts r.credentials query) }

/-- Requests that share a watermark are of accounts with one host and login. -/
theorem same_account_of_marks {r r' : Request} {mark : WatermarkKey}
    (hseamless : ∀ e ∈ events, e.Seamless)
    (hhash : Set.InjOn Sha256.hash (joinedQueries events)) (hr : .request r ∈ events)
    (hr' : .request r' ∈ events) (hmark : mark ∈ r.marks) (hmark' : mark ∈ r'.marks) :
    Text.lowerAscii r.credentials.host = Text.lowerAscii r'.credentials.host
      ∧ Text.lowerAscii r.credentials.login = Text.lowerAscii r'.credentials.login := by
  obtain ⟨query, hquery, hderive⟩ := hmark
  obtain ⟨query', hquery', hderive'⟩ := hmark'
  have hjoined : Digest.joined (parts r.credentials query)
      = Digest.joined (parts r'.credentials query') := by
    refine hhash ⟨r, query, hr, hquery, rfl⟩ ⟨r', query', hr', hquery', rfl⟩ ?_
    exact congrArg WatermarkKey.digest (hderive.symm.trans hderive')
  have hplain : WatermarkKey.Plain r.credentials query := by
    obtain ⟨hhost, hlogin, hpath⟩ := hseamless _ hr
    exact ⟨hhost, hlogin, hpath query hquery⟩
  have hplain' : WatermarkKey.Plain r'.credentials query' := by
    obtain ⟨hhost, hlogin, hpath⟩ := hseamless _ hr'
    exact ⟨hhost, hlogin, hpath query' hquery'⟩
  -- the bounds have a fixed width, so what stands before them is the same
  rw [WatermarkKey.joined_parts, WatermarkKey.joined_parts] at hjoined
  obtain ⟨hheading, -⟩ := List.append_inj' hjoined (by simp [WatermarkKey.length_tail])
  obtain ⟨hhost, hlogin, -⟩ := (WatermarkKey.heading_inj hplain hplain').mp hheading
  exact ⟨(Text.eqIgnoreCase_iff _ _).mp hhost, (Text.eqIgnoreCase_iff _ _).mp hlogin⟩

/-- The watermarks that an account asks for. -/
def marksOf (who : Credentials) (events : List Event) : Set WatermarkKey :=
  { mark | ∃ r, .request r ∈ events ∧ r.credentials.agree who = true ∧ mark ∈ r.marks }

/-- Accounts with different hosts or logins are kept apart. -/
theorem apart_of_accounts
    (hdiffer : (Text.eqIgnoreCase a.host b.host && Text.eqIgnoreCase a.login b.login) = false)
    (hbelongs : ∀ r, .request r ∈ events →
      r.credentials.agree a = true ∨ r.credentials.agree b = true)
    (hseamless : ∀ e ∈ events, e.Seamless)
    (hscripts : ∀ s, .script s ∈ events → s.Memoryless)
    (hhash : Set.InjOn Sha256.hash (joinedQueries events)) :
    ∀ e ∈ events, e.Apart (marksOf a events) a := by
  have hapart : ¬ (Text.lowerAscii a.host = Text.lowerAscii b.host
      ∧ Text.lowerAscii a.login = Text.lowerAscii b.login) := by
    rw [← Text.eqIgnoreCase_iff, ← Text.eqIgnoreCase_iff, ← Bool.and_eq_true, hdiffer]
    exact Bool.false_ne_true
  intro e he
  cases e with
  | clock now => trivial
  | sweep now => trivial
  | script s => exact hscripts s he
  | request r =>
      cases hagree : r.credentials.agree a with
      | true => exact .inl ⟨hagree, fun mark hmark => ⟨r, he, hagree, hmark⟩⟩
      | false =>
          have hb : r.credentials.agree b = true :=
            (hbelongs r he).resolve_left (ne_true_of_eq_false hagree)
          obtain ⟨hhost, hlogin⟩ := Credentials.lowered_of_key (key_of_agree hb)
          refine .inr ⟨hagree, fun heq => ?_, ?_⟩
          · obtain ⟨hhost', hlogin'⟩ := Credentials.lowered_of_key heq
            exact hapart ⟨hhost'.symm.trans hhost, hlogin'.symm.trans hlogin⟩
          · -- a watermark of both would make them one account
            rintro mark hmark ⟨r', hr', hagree', hmark'⟩
            obtain ⟨hhost', hlogin'⟩ := Credentials.lowered_of_key (key_of_agree hagree')
            obtain ⟨hhosts, hlogins⟩ :=
              same_account_of_marks hseamless hhash he hr' hmark hmark'
            exact hapart ⟨hhost'.symm.trans (hhosts.symm.trans hhost),
              hlogin'.symm.trans (hlogins.symm.trans hlogin)⟩

/-- One account's requests are served as if the other account's had never been
made. The accounts have different hosts or logins, the requests come one after
the other and are all answered, and the remote system answers by its script,
which may be any function of what is asked (`Script.answers`) as long as it uses
nothing up; what the other account asks, and how that ends, does not matter. -/
theorem noninterference {config : Config} {clock : Timestamp} {overflow : Overflow}
    {start : Gateway}
    (hcreate : create config clock overflow = .ok start)
    (hdiffer : (Text.eqIgnoreCase a.host b.host && Text.eqIgnoreCase a.login b.login) = false)
    (hbelongs : ∀ r, .request r ∈ events →
      r.credentials.agree a = true ∨ r.credentials.agree b = true)
    (hseamless : ∀ e ∈ events, e.Seamless)
    (hscripts : ∀ s, .script s ∈ events → s.Memoryless)
    (hhash : Set.InjOn Sha256.hash (joinedQueries events))
    (hanswered : ∀ entry ∈ start.play events, entry.2.isSome = true) :
    List.Forall₂ AnsweredAlike
      ((start.play events).filter fun entry => entry.1.credentials.agree a)
      (start.play (events.filter fun e => e.isOf a)) := by
  have hapart := apart_of_accounts hdiffer hbelongs hseamless hscripts hhash
  have hmemoryless : start.remote.script.Memoryless := by
    rw [create_eq hcreate]
    exact fun _ _ _ heq => nomatch heq
  exact ((calm_create hcreate).parallel hmemoryless).play hapart hanswered

-- ------------------------------------------------------- two systems, one queue

/-- New entries of a queue are asked for. -/
def pollOf (host : String) : Request :=
  ⟨⟨host, "login", "pw"⟩, "getNewMessageInMessageQueue",
    Record.ofList [("messageQueuePath", .string "/Q")], host⟩

/-- What is asked of the queue. -/
def polled : MessageQuery := ⟨"/Q", none, { min := Text.int32Min, max := Text.int32Max }⟩

/-- A script in which the queue has an entry. -/
def queueWith (entry : QueuedMessage) : Script :=
  { messages := Table.insert .empty "/Q" [entry] }

/-- Two systems poll queues of one name. The workers of the second die over
it once, and the first has been swept out when it polls again. -/
def neighbours : List Event :=
  [.script (queueWith { date := ⟨0, 0⟩, severity := 10 }), .request (pollOf "east"),
    .request (pollOf "west"), .clock ⟨3600, 0⟩, .script { panicOpen := true },
    .request (pollOf "west"), .sweep ⟨7200, 0⟩,
    .script (queueWith { date := ⟨1, 0⟩, severity := 20 }), .request (pollOf "east")]

theorem request_of_neighbours {r : Request} (hr : .request r ∈ neighbours) :
    ∃ host ∈ ["east", "west"], r = pollOf host := by
  have hcases : r = pollOf "east" ∨ r = pollOf "west" ∨ r = pollOf "west" ∨ r = pollOf "east" := by
    simpa [neighbours] using hr
  rcases hcases with heq | heq | heq | heq
  · exact ⟨"east", by simp, heq⟩
  · exact ⟨"west", by simp, heq⟩
  · exact ⟨"west", by simp, heq⟩
  · exact ⟨"east", by simp, heq⟩

theorem injOn_neighbours : Set.InjOn Sha256.hash (joinedQueries neighbours) := by
  have hof : joinedQueries neighbours ⊆
      {Digest.joined (parts (pollOf "east").credentials polled),
        Digest.joined (parts (pollOf "west").credentials polled)} := by
    intro bytes ⟨r, query, hr, hquery, hbytes⟩
    obtain ⟨host, hhost, heq⟩ := request_of_neighbours hr
    subst heq
    have hpolled : (pollOf host).messageQuery = .ok polled := rfl
    rw [hpolled] at hquery
    cases hquery
    rw [hbytes]
    rcases List.mem_pair.1 hhost with heq | heq
    · exact .inl (by rw [heq])
    · exact .inr (by rw [heq]; rfl)
  refine Set.InjOn.mono hof ?_
  rw [Set.injOn_pair]
  intro heq
  exact absurd heq (by decide +kernel)

/-- Of four polls two are the first system's, and it gets the same answers
alone. -/
theorem noninterference_of_neighbours :
    (dawn.play neighbours).length = 4
      ∧ List.Forall₂ AnsweredAlike
        ((dawn.play neighbours).filter fun entry =>
          entry.1.credentials.agree ⟨"EAST", "login", "pw"⟩)
        (dawn.play (neighbours.filter fun e => e.isOf ⟨"EAST", "login", "pw"⟩))
      ∧ (neighbours.filter fun e => e.isOf ⟨"EAST", "login", "pw"⟩).length = 7 := by
  have hcreate : create {} ⟨0, 0⟩ .panics = .ok dawn := rfl
  have hscripts : ∀ s, .script s ∈ neighbours → s.Memoryless := by
    intro s hs
    have hcases : s = queueWith { date := ⟨0, 0⟩, severity := 10 } ∨ s = { panicOpen := true }
        ∨ s = queueWith { date := ⟨1, 0⟩, severity := 20 } := by
      simpa [neighbours] using hs
    rcases hcases with rfl | rfl | rfl
    · exact fun _ _ _ heq => nomatch heq
    · exact fun _ _ _ heq => nomatch heq
    · exact fun _ _ _ heq => nomatch heq
  refine ⟨rfl, noninterference (b := ⟨"west", "login", "pw"⟩) hcreate (by decide) ?_ ?_ hscripts
    injOn_neighbours ?_, by decide +kernel⟩
  · intro r hr
    obtain ⟨host, hhost, heq⟩ := request_of_neighbours hr
    subst heq
    have hall : ∀ host ∈ ["east", "west"],
        (pollOf host).credentials.agree ⟨"EAST", "login", "pw"⟩ = true
          ∨ (pollOf host).credentials.agree ⟨"west", "login", "pw"⟩ = true := by
      decide
    exact hall host hhost
  · intro e he
    cases e with
    | clock now => trivial
    | script s => trivial
    | sweep now => trivial
    | request r =>
        obtain ⟨host, hhost, heq⟩ := request_of_neighbours he
        subst heq
        have hall : ∀ host ∈ ["east", "west"], Digest.Seamless (pollOf host).credentials.host := by
          decide
        have hlogin : Digest.Seamless "login" := by decide
        refine ⟨hall host hhost, hlogin, fun query hquery => ?_⟩
        have hpolled : (pollOf host).messageQuery = .ok polled := rfl
        rw [hpolled] at hquery
        cases hquery
        decide
  · have hstartable : ∀ r, .request r ∈ neighbours →
        Startable dawn.config r.credentials.host := by
      intro r hr
      obtain ⟨host, hhost, rfl⟩ := request_of_neighbours hr
      have hall : ∀ host ∈ ["east", "west"], PoolSpec.nameable host = true := by decide
      have hroomy : Roomy dawn.config := by
        intro kind
        cases kind <;> decide
      exact ⟨hall host hhost, hroomy⟩
    have hmemoryless : dawn.remote.script.Memoryless := fun _ _ _ heq => nomatch heq
    exact (calm_create hcreate).play_answered hmemoryless hstartable hscripts

end

end Gateway

end CheckGateway
