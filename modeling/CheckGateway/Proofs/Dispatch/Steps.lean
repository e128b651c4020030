/-
A tenant's dispatcher as a step relation: the filter of requests in flight,
the three pools, and the guards that submitters hold.

# Guards

A request that is admitted gets a guard, which releases its fingerprint if
it is dropped. Its submitter then asks the pool, and depending on the
answer the guard is spent, so that it can only be dropped, or sent, so that
it can only be handed off: from acceptance on it is the pool's hook that
releases the fingerprint, and a guard that is handed off releases nothing.

# Interleavings

Everything is one step at a time, and anybody may come next: other
submitters with the same fingerprint, workers, those who shut pools down. A
worker may take, finish, release and deliver an item before its submitter
gets to `handOff`, and the fingerprint may be admitted again by then.
-/
import CheckGateway.InFlight
import CheckGateway.Proofs.Pool.Account

namespace CheckGateway.Dispatch

-- ============================================================ the steps

/-- What has become of the submission that a guard belongs to. -/
inductive Phase where
  /-- The pool has not been asked yet. -/
  | admitted
  | calling
  /-- The pool has accepted the item. -/
  | sent
  /-- The pool has refused the item, or the submitter has given up. -/
  | spent
  deriving DecidableEq, Repr

/-- A guard of an admission. -/
structure Guard (Job : Type) where
  kind : PoolKind
  item : Item Job
  phase : Phase
  deriving Repr

/-- The dispatcher of a tenant. -/
structure Dispatcher (Job Reply : Type) where
  inFlight : InFlight := {}
  lanes : PoolKind → Pool.Live Job Reply
  guards : List (Guard Job) := []
  /-- The tickets that have been used. -/
  tickets : List Nat := []

/-- What can happen to a dispatcher. -/
inductive Deed (Job Reply : Type) where
  | admitted (kind : PoolKind) (item : Item Job)
  | rejected (fingerprint : String) (e : GatewayError)
  | lane (kind : PoolKind) (a : Pool.Act Job Reply)
  | handedOff (ticket : Nat)
  | dropped (ticket : Nat) (fingerprint : String)

variable {Job Reply : Type}

/-- The dispatcher with another state of a lane. -/
def Dispatcher.setLane (d : Dispatcher Job Reply) (kind : PoolKind)
    (s : Pool.Live Job Reply) : Dispatcher Job Reply :=
  { d with lanes := fun other => if other = kind then s else d.lanes other }

/-- The act of a lane needs no guard and releases nothing. -/
def isFree : Pool.Act Job Reply → Bool
  | .asked _ => false
  | .accepted _ => false
  | .refused .. => false
  | .abandoned _ => false
  | .did (.released ..) => false
  | _ => true

/-- One step. -/
inductive Step : Dispatcher Job Reply → Deed Job Reply →
    Dispatcher Job Reply → Prop where
  | letIn {d : Dispatcher Job Reply} {f : InFlight} (kind : PoolKind)
      (item : Item Job) (now : Timestamp) (hfresh : item.ticket ∉ d.tickets)
      (haccept : d.inFlight.accept item.fingerprint now = .ok f) :
      Step d (.admitted kind item)
        { d with
          inFlight := f
          guards := d.guards ++ [⟨kind, item, .admitted⟩]
          tickets := item.ticket :: d.tickets }
  | reject {d : Dispatcher Job Reply} {e : GatewayError} (fingerprint : String)
      (now : Timestamp)
      (hreject : d.inFlight.accept fingerprint now = .error e) :
      Step d (.rejected fingerprint e) d
  | ask {d : Dispatcher Job Reply} {kind : PoolKind} {item : Item Job}
      {front back : List (Guard Job)} {s : Pool.Live Job Reply}
      (hguard : d.guards = front ++ ⟨kind, item, .admitted⟩ :: back)
      (hlane : Pool.Step (d.lanes kind) (.asked item) s) :
      Step d (.lane kind (.asked item))
        { d.setLane kind s with guards := front ++ ⟨kind, item, .calling⟩ :: back }
  | accept {d : Dispatcher Job Reply} {kind : PoolKind} {item : Item Job}
      {front back : List (Guard Job)} {s : Pool.Live Job Reply}
      (hguard : d.guards = front ++ ⟨kind, item, .calling⟩ :: back)
      (hlane : Pool.Step (d.lanes kind) (.accepted item) s) :
      Step d (.lane kind (.accepted item))
        { d.setLane kind s with guards := front ++ ⟨kind, item, .sent⟩ :: back }
  | refuse {d : Dispatcher Job Reply} {kind : PoolKind} {item : Item Job}
      {front back : List (Guard Job)} {s : Pool.Live Job Reply} {e : GatewayError}
      (hguard : d.guards = front ++ ⟨kind, item, .calling⟩ :: back)
      (hlane : Pool.Step (d.lanes kind) (.refused item.ticket e) s) :
      Step d (.lane kind (.refused item.ticket e))
        { d.setLane kind s with guards := front ++ ⟨kind, item, .spent⟩ :: back }
  | abandon {d : Dispatcher Job Reply} {kind : PoolKind} {item : Item Job}
      {front back : List (Guard Job)} {s : Pool.Live Job Reply}
      (hguard : d.guards = front ++ ⟨kind, item, .calling⟩ :: back)
      (hlane : Pool.Step (d.lanes kind) (.abandoned item.ticket) s) :
      Step d (.lane kind (.abandoned item.ticket))
        { d.setLane kind s with guards := front ++ ⟨kind, item, .spent⟩ :: back }
  /-- The hook of the pools. -/
  | release {d : Dispatcher Job Reply} {ticket : Nat} {fingerprint : String}
      {s : Pool.Live Job Reply} (kind : PoolKind)
      (hlane : Pool.Step (d.lanes kind) (.did (.released ticket fingerprint)) s) :
      Step d (.lane kind (.did (.released ticket fingerprint)))
        { d.setLane kind s with inFlight := d.inFlight.finish fingerprint }
  | move {d : Dispatcher Job Reply} {a : Pool.Act Job Reply}
      {s : Pool.Live Job Reply} (kind : PoolKind) (hfree : isFree a = true)
      (hlane : Pool.Step (d.lanes kind) a s) :
      Step d (.lane kind a) (d.setLane kind s)
  | handOff {d : Dispatcher Job Reply} {kind : PoolKind} {item : Item Job}
      {front back : List (Guard Job)}
      (hguard : d.guards = front ++ ⟨kind, item, .sent⟩ :: back) :
      Step d (.handedOff item.ticket) { d with guards := front ++ back }
  | drop {d : Dispatcher Job Reply} {kind : PoolKind} {item : Item Job}
      {front back : List (Guard Job)}
      (hguard : d.guards = front ++ ⟨kind, item, .spent⟩ :: back) :
      Step d (.dropped item.ticket item.fingerprint)
        { d with
          guards := front ++ back
          inFlight := d.inFlight.finish item.fingerprint }

/-- What can happen to a dispatcher from its start on, first to last. -/
inductive Run (pools : PoolKind → Pool Job Reply) :
    List (Deed Job Reply) → Dispatcher Job Reply → Prop where
  | start : Run pools [] { lanes := fun kind => { pool := pools kind } }
  | step {log : List (Deed Job Reply)} {d d' : Dispatcher Job Reply}
      {a : Deed Job Reply} (h : Run pools log d) (hstep : Step d a d') :
      Run pools (log ++ [a]) d'

-- ============================================================= the lanes

/-- The act of a lane that a deed is. -/
def Deed.laneAct? (kind : PoolKind) :
    Deed Job Reply → Option (Pool.Act Job Reply)
  | .lane other a => if other = kind then some a else none
  | _ => none

/-- What has happened to a lane. -/
def laneLog (kind : PoolKind) (log : List (Deed Job Reply)) :
    List (Pool.Act Job Reply) :=
  log.filterMap (Deed.laneAct? kind)

theorem lanes_setLane_self (d : Dispatcher Job Reply) (kind : PoolKind)
    (s : Pool.Live Job Reply) : (d.setLane kind s).lanes kind = s :=
  if_pos rfl

theorem lanes_setLane_setLane (d : Dispatcher Job Reply) (kind : PoolKind)
    (s s' : Pool.Live Job Reply) :
    ((d.setLane kind s).setLane kind s').lanes = (d.setLane kind s').lanes := by
  funext other
  unfold Dispatcher.setLane
  dsimp only
  split <;> rfl

theorem lanes_setLane_other (d : Dispatcher Job Reply) {kind other : PoolKind}
    (s : Pool.Live Job Reply) (h : other ≠ kind) :
    (d.setLane kind s).lanes other = d.lanes other :=
  if_neg h

section

variable {log : List (Deed Job Reply)} {a : Deed Job Reply} {kind : PoolKind}
  {d d' : Dispatcher Job Reply} {pools : PoolKind → Pool Job Reply}

theorem laneLog_snoc :
    laneLog kind (log ++ [a]) = laneLog kind log ++ laneLog kind [a] :=
  List.filterMap_append ..

/-- A step of the dispatcher is a step of one lane, or of none. -/
theorem Step.lane (h : Step d a d') :
    (∃ kind act s, a = .lane kind act ∧ Pool.Step (d.lanes kind) act s
        ∧ d'.lanes = (d.setLane kind s).lanes)
      ∨ ((∀ kind, laneLog kind [a] = []) ∧ d'.lanes = d.lanes) := by
  cases h with
  | letIn | reject | handOff | drop => exact .inr ⟨fun _ => rfl, rfl⟩
  | ask _ hlane => exact .inl ⟨_, _, _, rfl, hlane, rfl⟩
  | accept _ hlane => exact .inl ⟨_, _, _, rfl, hlane, rfl⟩
  | refuse _ hlane => exact .inl ⟨_, _, _, rfl, hlane, rfl⟩
  | abandon _ hlane => exact .inl ⟨_, _, _, rfl, hlane, rfl⟩
  | release _ hlane => exact .inl ⟨_, _, _, rfl, hlane, rfl⟩
  | move _ _ hlane => exact .inl ⟨_, _, _, rfl, hlane, rfl⟩

theorem laneLog_self (kind : PoolKind) (act : Pool.Act Job Reply) :
    laneLog kind [.lane kind act] = [act] := by
  simp [laneLog, Deed.laneAct?]

theorem laneLog_other {kind other : PoolKind} (act : Pool.Act Job Reply)
    (h : other ≠ kind) : laneLog kind [.lane other act] = [] := by
  simp [laneLog, Deed.laneAct?, h]

theorem mem_laneLog {act : Pool.Act Job Reply} :
    act ∈ laneLog kind log ↔ .lane kind act ∈ log := by
  unfold laneLog
  rw [List.mem_filterMap]
  constructor
  · rintro ⟨deed, hmem, hact⟩
    cases deed with
    | lane other act' =>
        obtain ⟨rfl, rfl⟩ : other = kind ∧ act' = act := by
          simpa [Deed.laneAct?] using hact
        exact hmem
    | admitted | rejected | handedOff | dropped => cases hact
  · intro hmem
    exact ⟨_, hmem, if_pos rfl⟩

/-- Each lane runs as a pool of its own. -/
theorem Run.lane (h : Run pools log d) (kind : PoolKind) :
    Pool.Run (pools kind) (laneLog kind log) (d.lanes kind) := by
  induction h with
  | start => exact .start
  | step _ hstep ih =>
      rw [laneLog_snoc]
      rcases hstep.lane with ⟨other, act, s, rfl, hlane, hlanes⟩ | ⟨hnone, hlanes⟩
      · rw [hlanes]
        by_cases heq : other = kind
        · subst heq
          rw [laneLog_self, lanes_setLane_self]
          exact ih.step hlane
        · rw [laneLog_other act heq, List.append_nil,
            lanes_setLane_other _ _ fun h => heq h.symm]
          exact ih
      · rw [hnone, List.append_nil, hlanes]
        exact ih

theorem step_setLane {s s' : Pool.Live Job Reply} {act : Pool.Act Job Reply}
    (d : Dispatcher Job Reply) (h : Pool.Step s act s') :
    Pool.Step ((d.setLane kind s).lanes kind) act s' := by
  rw [lanes_setLane_self]
  exact h

/-- A submission that is accepted before anything else happens, and handed
off. -/
theorem Run.submit (h : Run pools log d) (hguards : d.guards = []) {item : Item Job}
    {now : Timestamp} {f : InFlight} {s₁ s₂ s₃ : Pool.Live Job Reply}
    (hfresh : item.ticket ∉ d.tickets)
    (haccept : d.inFlight.accept item.fingerprint now = .ok f)
    (hask : Pool.Step (d.lanes kind) (.asked item) s₁)
    (henter : Pool.Step s₁ (.entered item.ticket) s₂)
    (haccepted : Pool.Step s₂ (.accepted item) s₃) :
    ∃ more d', Run pools (log ++ more) d' ∧ d'.inFlight = f ∧ d'.guards = []
      ∧ d'.tickets = item.ticket :: d.tickets ∧ d'.lanes = (d.setLane kind s₃).lanes := by
  obtain ⟨inFlight, lanes, guards, tickets⟩ := d
  subst hguards
  have hrun := h.step (.letIn kind item now hfresh haccept)
  have hrun := hrun.step (.ask (show _ = [] ++ _ :: [] from rfl) hask)
  have hrun := hrun.step (.move kind rfl (step_setLane _ henter))
  have hrun := hrun.step (.accept (show _ = [] ++ _ :: [] from rfl)
    (step_setLane _ haccepted))
  have hrun := hrun.step (.handOff (show _ = [] ++ _ :: [] from rfl))
  simp only [List.append_assoc] at hrun
  refine ⟨_, _, hrun, rfl, rfl, rfl, ?_⟩
  refine (lanes_setLane_setLane _ kind s₂ s₃).trans ?_
  exact lanes_setLane_setLane ⟨f, lanes, [], []⟩ kind s₁ s₃

end

end CheckGateway.Dispatch
