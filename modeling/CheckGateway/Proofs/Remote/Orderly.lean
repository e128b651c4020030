/-
The books of a remote system: how many sessions were opened and how many
disconnected, and what its log may not show.

A remote system takes any call. It stays `Orderly` as long as nobody
queries or disconnects a session that is not connected.
-/
import CheckGateway.Remote.Scripted

namespace CheckGateway

/-- No session is disconnected twice, and none is queried once it is
disconnected. -/
def LogEntry.Clean (log : List LogEntry) : Prop :=
  log.Pairwise fun earlier later => ∀ s, earlier = .disconnected s →
    later ≠ .disconnected s ∧ ∀ q, later ≠ .queried s q

theorem LogEntry.Clean.concat {log : List LogEntry} (h : Clean log) {e : LogEntry}
    (he : ∀ s, .disconnected s ∈ log → e ≠ .disconnected s ∧ ∀ q, e ≠ .queried s q) :
    Clean (log ++ [e]) := by
  refine List.pairwise_append.2 ⟨h, List.pairwise_singleton _ e, ?_⟩
  intro earlier hearlier later hlater s hs
  rw [List.mem_singleton.1 hlater]
  exact he s (hs ▸ hearlier)

namespace ScriptedRemote

/-- The sessions that were opened are those that were disconnected and those
that are connected. -/
structure Orderly (r : ScriptedRemote) : Prop where
  once : r.connected.Nodup
  balance : r.opens = r.disconnects + r.connected.length
  numbered : ∀ s ∈ r.connected, s ≤ r.attempts
  closed : ∀ s, .disconnected s ∈ r.log → s ≤ r.attempts ∧ s ∉ r.connected
  clean : LogEntry.Clean r.log

/-- Nothing has happened to any session. -/
structure SameSessions (r r' : ScriptedRemote) : Prop where
  attempts : r'.attempts = r.attempts
  opens : r'.opens = r.opens
  disconnects : r'.disconnects = r.disconnects
  connected : r'.connected = r.connected
  log : r'.log = r.log

section

variable {r r' : ScriptedRemote} {s : Nat}

theorem SameSessions.refl (r : ScriptedRemote) : SameSessions r r :=
  ⟨rfl, rfl, rfl, rfl, rfl⟩

theorem Orderly.congr (h : r.Orderly) (hsame : SameSessions r r') : r'.Orderly := by
  obtain ⟨hattempts, hopens, hdisconnects, hconnected, hlog⟩ := hsame
  constructor
  · rw [hconnected]
    exact h.once
  · rw [hopens, hdisconnects, hconnected]
    exact h.balance
  · rw [hconnected, hattempts]
    exact h.numbered
  · rw [hlog, hattempts, hconnected]
    exact h.closed
  · rw [hlog]
    exact h.clean

/-- A new remote system has no books yet. -/
theorem orderly_new : ({} : ScriptedRemote).Orderly :=
  ⟨.nil, rfl, nofun, nofun, .nil⟩

theorem Orderly.record (h : r.Orderly) {e : LogEntry}
    (hclosed : ∀ s, e ≠ .disconnected s)
    (hquery : ∀ s q, e = .queried s q → s ∈ r.connected) : (r.record e).Orderly where
  once := h.once
  balance := h.balance
  numbered := h.numbered
  closed s hs := by
    rcases List.mem_append.1 hs with hs | hs
    · exact h.closed s hs
    · exact absurd (List.mem_singleton.1 hs).symm (hclosed s)
  clean := by
    refine h.clean.concat fun s hs => ⟨hclosed s, fun q he => ?_⟩
    exact (h.closed s hs).2 (hquery s q he)

/-- The remote system after an attempt to open a session. -/
def attempted (r : ScriptedRemote) (who : Credentials) (policy : SocketPolicy) :
    ScriptedRemote :=
  { r with attempts := r.attempts + 1 }.record (.opened (r.attempts + 1) who policy)

/-- The remote system once the attempt has succeeded. -/
def opened (r : ScriptedRemote) (who : Credentials) (policy : SocketPolicy) :
    ScriptedRemote :=
  { r.attempted who policy with
    opens := r.opens + 1
    connected := (r.attempts + 1) :: r.connected }

theorem openSession_cases (r : ScriptedRemote) (who : Credentials) (policy : SocketPolicy) :
    (∃ e, r.openSession who policy = (.error e, r.attempted who policy))
      ∨ r.openSession who policy = (.ok (r.attempts + 1), r.opened who policy) := by
  unfold openSession
  dsimp only
  split
  · exact .inl ⟨_, rfl⟩
  · split
    · exact .inl ⟨_, rfl⟩
    · exact .inr rfl

theorem Orderly.attempted (h : r.Orderly) (who : Credentials) (policy : SocketPolicy) :
    (r.attempted who policy).Orderly := by
  have hnumbered : { r with attempts := r.attempts + 1 }.Orderly :=
    ⟨h.once, h.balance, fun s hs => Nat.le_succ_of_le (h.numbered s hs),
      fun s hs => ⟨Nat.le_succ_of_le (h.closed s hs).1, (h.closed s hs).2⟩, h.clean⟩
  exact hnumbered.record (fun s heq => nomatch heq) fun s q heq => nomatch heq

/-- The number of the next session is new. -/
theorem Orderly.next_not_mem (h : r.Orderly) : r.attempts + 1 ∉ r.connected :=
  fun hs => Nat.not_succ_le_self _ (h.numbered _ hs)

theorem Orderly.opened (h : r.Orderly) (who : Credentials) (policy : SocketPolicy) :
    (r.opened who policy).Orderly where
  once := List.nodup_cons.2 ⟨h.next_not_mem, h.once⟩
  balance := by
    show r.opens + 1 = r.disconnects + (r.connected.length + 1)
    rw [h.balance, Nat.add_assoc]
  numbered := List.forall_mem_cons.2
    ⟨Nat.le_refl _, fun s hs => Nat.le_succ_of_le (h.numbered s hs)⟩
  closed s hs := by
    have hlog : .disconnected s ∈ r.log :=
      (List.mem_append.1 hs).resolve_right fun h => nomatch List.mem_singleton.1 h
    obtain ⟨hle, hgone⟩ := h.closed s hlog
    refine ⟨Nat.le_succ_of_le hle, fun hmem => ?_⟩
    rcases List.mem_cons.1 hmem with rfl | hmem
    · exact Nat.not_succ_le_self _ hle
    · exact hgone hmem
  clean := (h.attempted who policy).clean

theorem attempts_disconnect (r : ScriptedRemote) (s : Nat) :
    (r.disconnect s).attempts = r.attempts := by
  unfold ScriptedRemote.disconnect
  dsimp only
  split <;> rfl

theorem disconnect_eq (hs : s ∈ r.connected) :
    r.disconnect s = { r.record (.disconnected s) with
      disconnects := r.disconnects + 1, connected := r.connected.erase s } :=
  if_pos (List.contains_iff_mem.2 hs)

theorem Orderly.disconnect (h : r.Orderly) (hs : s ∈ r.connected) :
    (r.disconnect s).Orderly := by
  have hgone {k : Nat} (hk : k ∈ r.connected.erase s) : k ≠ s ∧ k ∈ r.connected :=
    (List.Nodup.mem_erase_iff h.once).1 hk
  rw [disconnect_eq hs]
  constructor
  · exact h.once.erase s
  · show r.opens = r.disconnects + 1 + (r.connected.erase s).length
    have hpos := List.length_pos_of_mem hs
    rw [h.balance, List.length_erase_of_mem hs]
    omega
  · exact fun k hk => h.numbered k (hgone hk).2
  · intro k hk
    rcases List.mem_append.1 hk with hk | hk
    · exact ⟨(h.closed k hk).1, fun hmem => (h.closed k hk).2 (hgone hmem).2⟩
    · cases List.mem_singleton.1 hk
      exact ⟨h.numbered s hs, fun hmem => (hgone hmem).1 rfl⟩
  · -- a session that is connected was not disconnected before
    refine h.clean.concat fun k hk => ⟨fun heq => ?_, fun q => nofun⟩
    cases heq
    exact (h.closed s hk).2 hs

theorem mem_connected_disconnect (h : r.Orderly) (hs : s ∈ r.connected) {k : Nat} :
    k ∈ (r.disconnect s).connected ↔ k ∈ r.connected ∧ k ≠ s := by
  rw [disconnect_eq hs]
  exact (List.Nodup.mem_erase_iff h.once).trans And.comm

/-- Several sessions are disconnected, one after the other. -/
theorem Orderly.disconnectAll {ss : List Nat} (h : r.Orderly) (hnodup : ss.Nodup)
    (hss : ∀ s ∈ ss, s ∈ r.connected) :
    (ss.foldl ScriptedRemote.disconnect r).Orderly
      ∧ ∀ k, k ∈ (ss.foldl ScriptedRemote.disconnect r).connected
          ↔ k ∈ r.connected ∧ k ∉ ss := by
  induction ss generalizing r with
  | nil => exact ⟨h, fun k => (and_iff_left List.not_mem_nil).symm⟩
  | cons s ss ih =>
      obtain ⟨hs, hnodup⟩ := List.nodup_cons.1 hnodup
      have hmem := hss s List.mem_cons_self
      -- the others are still connected once the first is not
      have hrest : ∀ k ∈ ss, k ∈ (r.disconnect s).connected := by
        intro k hk
        refine (mem_connected_disconnect h hmem).2 ⟨hss k (List.mem_cons_of_mem _ hk), ?_⟩
        exact fun heq => hs (heq ▸ hk)
      obtain ⟨horderly, hconnected⟩ := ih (h.disconnect hmem) hnodup hrest
      refine ⟨horderly, fun k => (hconnected k).trans ?_⟩
      rw [mem_connected_disconnect h hmem, List.mem_cons, not_or, and_assoc]

theorem sameSessions_accept (r : ScriptedRemote) (q : RemoteQuery) :
    SameSessions r (r.accept q).2 := by
  unfold accept
  dsimp only
  split
  · exact ⟨rfl, rfl, rfl, rfl, rfl⟩
  · split <;> exact ⟨rfl, rfl, rfl, rfl, rfl⟩

/-- A query over a session that is connected leaves all sessions as they
are. -/
theorem sameSessions_send (s : Nat) (q : RemoteQuery) :
    SameSessions (r.record (.queried s q)) (r.send s q).2 := by
  unfold send
  dsimp only
  split
  · exact ⟨rfl, rfl, rfl, rfl, rfl⟩
  · split
    · exact sameSessions_accept _ q
    · exact .refl _

theorem Orderly.send (h : r.Orderly) (hs : s ∈ r.connected) (q : RemoteQuery) :
    (r.send s q).2.Orderly := by
  have hrecord : (r.record (.queried s q)).Orderly := by
    refine h.record (fun k heq => nomatch heq) fun k q' heq => ?_
    cases heq
    exact hs
  exact hrecord.congr (sameSessions_send s q)

theorem connected_send (r : ScriptedRemote) (s : Nat) (q : RemoteQuery) :
    (r.send s q).2.connected = r.connected :=
  (sameSessions_send s q).connected

end

end ScriptedRemote

end CheckGateway
