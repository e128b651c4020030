/-
Runs of a routine whose calls may be answered in several ways.

`Routine.run` answers every call by a function of the state. A remote
reader is freer than that: it may cut its pages where it likes, it may
fail, and the world may move on between two calls. `Ends` leaves the
answers to a relation, so a statement about every derivation of `Ends` is
one about every reader that the relation admits.

Where several routines take turns, what one of them does depends on the
answers that it got and on nothing else. `Leaves` is that dependence: what
is left of a routine after the calls that have been answered so far, and what
`Concludes` says is that nothing is left but a value.

That a routine comes to an end at all, and which calls it makes on the way,
`Ends` does not say. `Abides` does: it follows the routine through every
answer that may come.
-/
import CheckGateway.Routine

namespace CheckGateway.Routine

variable {Call : Type} {Answer : Call → Type} {α β σ : Type}

/-- A routine that is started in a state can end with a value, in another
state, if every call is answered as `answers` admits. -/
inductive Ends (answers : σ → (c : Call) → Answer c → σ → Prop) :
    Routine Call Answer α → σ → α → σ → Prop where
  | done (a : α) (s : σ) : Ends answers (.done a) s a s
  | call {c : Call} {next : Answer c → Routine Call Answer α} {x : Answer c}
      {s s' s'' : σ} {a : α} (hanswer : answers s c x s')
      (hrest : Ends answers (next x) s' a s'') :
      Ends answers (.call c next) s a s''

variable {answers : σ → (c : Call) → Answer c → σ → Prop}

/-- A routine that hands its value on is itself. -/
theorem bind_done (r : Routine Call Answer α) : r.bind .done = r := by
  induction r with
  | done a => rfl
  | call c next ih => exact congrArg (call c) (funext ih)

/-- Routines that follow one another can be taken together in any way. -/
theorem bind_bind {γ : Type} (r : Routine Call Answer α) (f : α → Routine Call Answer β)
    (g : β → Routine Call Answer γ) : (r.bind f).bind g = r.bind fun a => (f a).bind g := by
  induction r with
  | done a => rfl
  | call c next ih => exact congrArg (call c) (funext ih)

instance : LawfulMonad (Routine Call Answer) :=
  LawfulMonad.mk' _ bind_done (fun _ _ => rfl) bind_bind

/-- A routine that is done ends where it stands. -/
theorem ends_done_iff {a b : α} {s s' : σ} :
    Ends answers (done a : Routine Call Answer α) s b s' ↔ b = a ∧ s' = s := by
  constructor
  · intro h
    cases h
    exact ⟨rfl, rfl⟩
  · rintro ⟨rfl, rfl⟩
    exact .done b s'

/-- A routine that calls ends through an answer to its call. -/
theorem ends_call_iff {c : Call} {next : Answer c → Routine Call Answer α}
    {s s'' : σ} {a : α} :
    Ends answers (call c next) s a s'' ↔
      ∃ x s', answers s c x s' ∧ Ends answers (next x) s' a s'' := by
  constructor
  · intro h
    cases h with
    | call hanswer hrest => exact ⟨_, _, hanswer, hrest⟩
  · rintro ⟨x, s', hanswer, hrest⟩
    exact .call hanswer hrest

/-- A routine followed by another ends through a value of the first. -/
theorem ends_bind_iff {r : Routine Call Answer α}
    {f : α → Routine Call Answer β} {b : β} {s s'' : σ} :
    Ends answers (r.bind f) s b s'' ↔
      ∃ a s', Ends answers r s a s' ∧ Ends answers (f a) s' b s'' := by
  induction r generalizing s with
  | done a =>
      constructor
      · intro h
        exact ⟨a, s, .done a s, h⟩
      · rintro ⟨a', s', ha, hb⟩
        obtain ⟨rfl, rfl⟩ := ends_done_iff.1 ha
        exact hb
  | call c next ih =>
      constructor
      · intro h
        obtain ⟨x, s₁, hx, hrest⟩ := ends_call_iff.1 h
        obtain ⟨a, s', ha, hb⟩ := (ih x).1 hrest
        exact ⟨a, s', .call hx ha, hb⟩
      · rintro ⟨a, s', ha, hb⟩
        obtain ⟨x, s₁, hx, hrest⟩ := ends_call_iff.1 ha
        exact .call hx ((ih x).2 ⟨a, s', hrest, hb⟩)

/-- The run that answers every call by a function is among the runs that
admit its answers. It may have a state of its own, of which `view` is all that
the answers depend on. -/
theorem ends_run_view {τ : Type} {perform : (c : Call) → τ → Answer c × τ} {view : τ → σ}
    (hperform : ∀ t c, answers (view t) c (perform c t).1 (view (perform c t).2))
    (r : Routine Call Answer α) (t : τ) :
    Ends answers r (view t) (r.run perform t).1 (view (r.run perform t).2) := by
  induction r generalizing t with
  | done a => exact .done a (view t)
  | call c next ih => exact .call (hperform t c) (ih _ _)

theorem ends_run {perform : (c : Call) → σ → Answer c × σ}
    (hperform : ∀ s c, answers s c (perform c s).1 (perform c s).2)
    (r : Routine Call Answer α) (s : σ) :
    Ends answers r s (r.run perform s).1 (r.run perform s).2 := by
  have hview : ∀ s c, answers (id s) c (perform c s).1 (id (perform c s).2) := hperform
  exact ends_run_view hview r s

/-- Whatever it is answered, the routine makes only calls of a kind. -/
def Makes (P : Call → Prop) : Routine Call Answer α → Prop
  | done _ => True
  | call c next => P c ∧ ∀ x, (next x).Makes P

theorem Makes.bind {P : Call → Prop} {r : Routine Call Answer α}
    {f : α → Routine Call Answer β} (h : r.Makes P) (hf : ∀ a, (f a).Makes P) :
    (r.bind f).Makes P := by
  induction r with
  | done a => exact hf a
  | call c next ih => exact ⟨h.1, fun x => ih x (h.2 x)⟩

theorem Makes.mono {P Q : Call → Prop} {r : Routine Call Answer α} (h : r.Makes P)
    (himp : ∀ c, P c → Q c) : r.Makes Q := by
  induction r with
  | done a => exact trivial
  | call c next ih => exact ⟨himp c h.1, fun x => ih x (h.2 x)⟩

/-- What is admitted by one relation of answers may be admitted by another. -/
theorem Ends.mono {answers' : σ → (c : Call) → Answer c → σ → Prop}
    {r : Routine Call Answer α} {s s' : σ} {a : α} (h : Ends answers r s a s')
    (himp : ∀ s c x s', answers s c x s' → answers' s c x s') : Ends answers' r s a s' := by
  induction h with
  | done a s => exact .done a s
  | call hanswer _ ih => exact .call (himp _ _ _ _ hanswer) ih

/-- What answers may do to one state, others may do to another that goes with it. -/
theorem Ends.simulate {τ : Type} {answers' : τ → (c : Call) → Answer c → τ → Prop}
    {R : σ → τ → Prop} {r : Routine Call Answer α} {s s' : σ} {t : τ} {a : α}
    (hanswers : ∀ s c x s' t, answers s c x s' → R s t → ∃ t', R s' t' ∧ answers' t c x t')
    (h : Ends answers r s a s') (hR : R s t) : ∃ t', R s' t' ∧ Ends answers' r t a t' := by
  induction h generalizing t with
  | done a s => exact ⟨t, hR, .done a t⟩
  | call hanswer _ ih =>
      obtain ⟨t₁, hR₁, hanswer'⟩ := hanswers _ _ _ _ _ hanswer hR
      obtain ⟨t', hR', hrest⟩ := ih hR₁
      exact ⟨t', hR', .call hanswer' hrest⟩

-- ==================================================== what is left of it

/-- What is left of a routine after some of its calls have been
answered. -/
inductive Leaves : Routine Call Answer α → List ((c : Call) × Answer c) →
    Routine Call Answer α → Prop where
  | untouched (r : Routine Call Answer α) : Leaves r [] r
  | answered {c : Call} {next : Answer c → Routine Call Answer α} {x : Answer c}
      {later : List ((c : Call) × Answer c)} {r : Routine Call Answer α}
      (h : Leaves (next x) later r) : Leaves (.call c next) (⟨c, x⟩ :: later) r

theorem leaves_nil_iff {r q : Routine Call Answer α} : Leaves r [] q ↔ q = r := by
  constructor
  · intro h
    cases h
    rfl
  · rintro rfl
    exact .untouched q

theorem leaves_done_iff {a : α} {es : List ((c : Call) × Answer c)}
    {q : Routine Call Answer α} :
    Leaves (done a) es q ↔ es = [] ∧ q = done a := by
  constructor
  · intro h
    cases h
    exact ⟨rfl, rfl⟩
  · rintro ⟨rfl, rfl⟩
    exact .untouched _

theorem leaves_call_iff {c : Call} {next : Answer c → Routine Call Answer α}
    {es : List ((c : Call) × Answer c)} {q : Routine Call Answer α} :
    Leaves (call c next) es q ↔
      (es = [] ∧ q = call c next)
        ∨ ∃ x later, es = ⟨c, x⟩ :: later ∧ Leaves (next x) later q := by
  constructor
  · intro h
    cases h with
    | untouched => exact .inl ⟨rfl, rfl⟩
    | answered h => exact .inr ⟨_, _, rfl, h⟩
  · rintro (⟨rfl, rfl⟩ | ⟨x, later, rfl, h⟩)
    · exact .untouched _
    · exact .answered h

/-- The next call is answered. -/
theorem Leaves.snoc {r : Routine Call Answer α} {es : List ((c : Call) × Answer c)}
    {c : Call} {next : Answer c → Routine Call Answer α}
    (h : Leaves r es (call c next)) (x : Answer c) :
    Leaves r (es ++ [⟨c, x⟩]) (next x) := by
  generalize hq : call c next = q at h
  induction h with
  | untouched r =>
      subst hq
      exact .answered (.untouched _)
  | answered h ih => exact .answered (ih hq)

/-- A routine followed by another is still in the first, or the first has
ended. -/
theorem leaves_bind {r : Routine Call Answer α} {f : α → Routine Call Answer β}
    {es : List ((c : Call) × Answer c)} {q : Routine Call Answer β}
    (h : Leaves (r.bind f) es q) :
    (∃ c next, Leaves r es (call c next) ∧ q = call c fun x => (next x).bind f)
      ∨ ∃ a before later, es = before ++ later ∧ Leaves r before (done a)
        ∧ Leaves (f a) later q := by
  induction r generalizing es with
  | done a => exact .inr ⟨a, [], es, rfl, .untouched _, h⟩
  | call c next ih =>
      rcases leaves_call_iff.1 h with ⟨rfl, rfl⟩ | ⟨x, later, rfl, hrest⟩
      · exact .inl ⟨c, next, .untouched _, rfl⟩
      · rcases ih x hrest with ⟨c', next', hleft, rfl⟩ | ⟨a, before, later, rfl, ha, hf⟩
        · exact .inl ⟨c', next', .answered hleft, rfl⟩
        · exact .inr ⟨a, _ :: before, later, rfl, .answered ha, hf⟩

-- ============================================== what was asked on the way

/-- A routine can end with a value after some calls and answers: nothing is
left of it then but the value. -/
def Concludes (r : Routine Call Answer α) (es : List ((c : Call) × Answer c)) (a : α) :
    Prop :=
  Leaves r es (done a)

theorem concludes_done_iff {a b : α} {es : List ((c : Call) × Answer c)} :
    Concludes (done a) es b ↔ es = [] ∧ b = a := by
  unfold Concludes
  rw [leaves_done_iff, done.injEq]

theorem concludes_call_iff {c : Call} {next : Answer c → Routine Call Answer α}
    {es : List ((c : Call) × Answer c)} {a : α} :
    Concludes (call c next) es a ↔
      ∃ x later, es = ⟨c, x⟩ :: later ∧ Concludes (next x) later a := by
  unfold Concludes
  constructor
  · intro h
    rcases leaves_call_iff.1 h with ⟨-, hdone⟩ | hanswered
    · cases hdone
    · exact hanswered
  · exact fun h => leaves_call_iff.2 (.inr h)

/-- A routine followed by another ends through a value of the first, and what
is asked is what both ask. -/
theorem concludes_bind_iff {r : Routine Call Answer α} {f : α → Routine Call Answer β}
    {es : List ((c : Call) × Answer c)} {b : β} :
    Concludes (r.bind f) es b ↔
      ∃ a before later, es = before ++ later ∧ Concludes r before a
        ∧ Concludes (f a) later b := by
  induction r generalizing es with
  | done a =>
      constructor
      · intro h
        exact ⟨a, [], es, rfl, concludes_done_iff.2 ⟨rfl, rfl⟩, h⟩
      · rintro ⟨a', before, later, rfl, ha, hb⟩
        obtain ⟨rfl, rfl⟩ := concludes_done_iff.1 ha
        exact hb
  | call c next ih =>
      constructor
      · intro h
        obtain ⟨x, rest, rfl, hrest⟩ := concludes_call_iff.1 h
        obtain ⟨a, before, later, rfl, ha, hb⟩ := (ih x).1 hrest
        exact ⟨a, _ :: before, later, rfl, concludes_call_iff.2 ⟨x, before, rfl, ha⟩, hb⟩
      · rintro ⟨a, before, later, rfl, ha, hb⟩
        obtain ⟨x, rest, rfl, hrest⟩ := concludes_call_iff.1 ha
        exact concludes_call_iff.2
          ⟨x, rest ++ later, rfl, (ih x).2 ⟨a, rest, later, rfl, hrest, hb⟩⟩

/-- The calls that a run makes with their answers, the first one first. -/
def transcript (perform : (c : Call) → σ → Answer c × σ) :
    Routine Call Answer α → σ → List ((c : Call) × Answer c)
  | done _, _ => []
  | call c next, s =>
      ⟨c, (perform c s).1⟩
        :: (next (perform c s).1).transcript perform (perform c s).2

/-- A run ends with its value after all that it asks. -/
theorem concludes_run (perform : (c : Call) → σ → Answer c × σ)
    (r : Routine Call Answer α) (s : σ) :
    Concludes r (r.transcript perform s) (r.run perform s).1 := by
  induction r generalizing s with
  | done a => exact concludes_done_iff.2 ⟨rfl, rfl⟩
  | call c next ih => exact concludes_call_iff.2 ⟨_, _, rfl, ih _ _⟩

-- ================================================= whatever it is answered

/-- However its calls are answered, the routine makes only calls of a kind,
and it ends as `post` says. -/
def Abides (answers : σ → (c : Call) → Answer c → σ → Prop) (allowed : Call → Prop)
    (post : α → σ → Prop) : Routine Call Answer α → σ → Prop
  | done a, s => post a s
  | call c next, s =>
      allowed c ∧ ∀ x s', answers s c x s' → (next x).Abides answers allowed post s'

theorem Abides.mono {allowed : Call → Prop} {post post' : α → σ → Prop}
    {r : Routine Call Answer α} {s : σ} (h : r.Abides answers allowed post s)
    (hpost : ∀ a s', post a s' → post' a s') : r.Abides answers allowed post' s := by
  induction r generalizing s with
  | done a => exact hpost a s h
  | call c next ih => exact ⟨h.1, fun x s' hx => ih x (h.2 x s' hx)⟩

/-- A routine followed by another abides if the first one ends where the other
one abides. -/
theorem Abides.bind {allowed : Call → Prop} {post : β → σ → Prop}
    {r : Routine Call Answer α} {f : α → Routine Call Answer β} {s : σ}
    (h : r.Abides answers allowed (fun a s' => (f a).Abides answers allowed post s') s) :
    (r.bind f).Abides answers allowed post s := by
  induction r generalizing s with
  | done a => exact h
  | call c next ih => exact ⟨h.1, fun x s' hx => ih x (h.2 x s' hx)⟩

/-- A routine that comes to an end comes to one that it can come to. -/
theorem Abides.ending {allowed : Call → Prop} {post : α → σ → Prop}
    {r : Routine Call Answer α} {s : σ} (h : r.Abides answers allowed post s) :
    r.Abides answers allowed (fun a s' => post a s' ∧ Ends answers r s a s') s := by
  induction r generalizing s with
  | done a => exact ⟨h, .done a s⟩
  | call c next ih =>
      refine ⟨h.1, fun x s' hx => (ih x (h.2 x s' hx)).mono fun a s'' hpost => ?_⟩
      exact ⟨hpost.1, .call hx hpost.2⟩

/-- The calls that a routine makes whatever it is answered are those that it
makes here. -/
theorem Abides.makes {P allowed : Call → Prop} {post : α → σ → Prop}
    {r : Routine Call Answer α} {s : σ} (h : r.Abides answers allowed post s)
    (hmakes : r.Makes P) : r.Abides answers P post s := by
  induction r generalizing s with
  | done a => exact h
  | call c next ih => exact ⟨hmakes.1, fun x s' hx => ih x (h.2 x s' hx) (hmakes.2 x)⟩

/-- A routine abides with each of its calls replaced by a routine that comes to
an answer to the call. -/
theorem Abides.expand {Call' : Type} {Answer' : Call' → Type}
    {answers' : σ → (c : Call') → Answer' c → σ → Prop}
    {f : (c : Call) → Routine Call' Answer' (Answer c)} {allowed : Call → Prop}
    {allowed' : Call' → Prop} {post : α → σ → Prop} {r : Routine Call Answer α} {s : σ}
    (h : r.Abides answers allowed post s)
    (hf : ∀ s c, allowed c →
      (f c).Abides answers' allowed' (fun x s' => answers s c x s') s) :
    (r.expand f).Abides answers' allowed' post s := by
  induction r generalizing s with
  | done a => exact h
  | call c next ih => exact .bind ((hf s c h.1).mono fun x s' hx => ih x (h.2 x s' hx))

/-- What holds however the calls are answered holds at every end. -/
theorem Abides.ends {allowed : Call → Prop} {post : α → σ → Prop}
    {r : Routine Call Answer α} {s s' : σ} {a : α} (h : r.Abides answers allowed post s)
    (hends : Ends answers r s a s') : post a s' := by
  induction hends with
  | done a s => exact h
  | call hanswer _ ih => exact ih (h.2 _ _ hanswer)

/-- The calls that a run makes, the first one first. -/
def calls (perform : (c : Call) → σ → Answer c × σ) :
    Routine Call Answer α → σ → List Call
  | done _, _ => []
  | call c next, s =>
      c :: (next (perform c s).1).calls perform (perform c s).2

/-- What holds however the calls are answered holds of a run whose answers
are admitted. -/
theorem Abides.run {τ : Type} {perform : (c : Call) → τ → Answer c × τ} {view : τ → σ}
    (hperform : ∀ t c, answers (view t) c (perform c t).1 (view (perform c t).2))
    {allowed : Call → Prop} {post : α → σ → Prop} {r : Routine Call Answer α} {t : τ}
    (h : r.Abides answers allowed post (view t)) :
    post (r.run perform t).1 (view (r.run perform t).2)
      ∧ ∀ c ∈ r.calls perform t, allowed c := by
  induction r generalizing t with
  | done a => exact ⟨h, fun c hc => by cases hc⟩
  | call c next ih =>
      obtain ⟨hpost, hcalls⟩ := ih _ (h.2 _ _ (hperform t c))
      refine ⟨hpost, fun c' hc' => ?_⟩
      obtain rfl | hc' := List.mem_cons.1 hc'
      · exact h.1
      · exact hcalls c' hc'

end CheckGateway.Routine
