import SipGateway.Infra.Machine

/-!
# Handing over through a queue

Producers put items into a queue of an object, under a mutex, and notify a condition variable. A
worker waits on it until there is something in the queue or it is to stop, takes the whole queue
out and handles the items outside of the mutex. The owner stops it: it clears a flag under the
mutex, notifies and joins.

The machine interleaves all of them, one statement at a time, with wake-ups for no reason. Every
item is handled once and in order (`Inv.handled_eq`), and no wake-up is lost (`Inv.joining`).
-/

namespace Infra

/-- An object `σ` with a queue of items `α`. -/
structure Handoff (σ α : Type) where
  queue : σ → List α
  /-- what a producer does not turn away before it takes the mutex -/
  accepts : α → Bool
  push : σ → α → σ
  /-- the object with an empty queue -/
  takeAll : σ → σ
  handle : σ → α → σ
  /-- what the owner does behind the join -/
  finish : σ → σ
  queue_push : ∀ s a, accepts a = true → queue (push s a) = queue s ++ [a]
  queue_takeAll : ∀ s, queue (takeAll s) = []
  queue_handle : ∀ s a, queue (handle s a) = queue s
  queue_finish : ∀ s, queue (finish s) = queue s
  takeAll_push : ∀ s a, takeAll (push s a) = takeAll s
  takeAll_takeAll : ∀ s, takeAll (takeAll s) = takeAll s
  takeAll_handle : ∀ s a, takeAll (handle s a) = handle (takeAll s) a
  takeAll_of_empty : ∀ s, queue s = [] → takeAll s = s

namespace Handoff

/-- Where a producer is, once it has the mutex. -/
inductive ProducerPc where
  | pushing
  | notifying
  | unlocking
deriving DecidableEq, Repr

/-- Who has the mutex. -/
inductive Holder (α : Type) where
  | worker
  | producer (a : α) (pc : ProducerPc)
  | owner

/-- Where the worker is. -/
inductive WorkerPc (α : Type) where
  /-- about to take the mutex, also on the way out of the wait -/
  | locking
  /-- the predicate of the wait -/
  | testing
  /-- asleep, without the mutex -/
  | waiting
  /-- behind the wait: whether to return -/
  | leaving
  | swapping
  | unlocking (batch : List α)
  | handling (batch : List α)
  | done

/-- Where the owner is. -/
inductive OwnerPc where
  | alive
  | locking
  /-- about to clear the flag -/
  | clearing
  | unlocking
  | notifying
  | joining
  /-- behind the join -/
  | finishing
  | gone
deriving DecidableEq, Repr

namespace WorkerPc

variable {α : Type}

/-- The items taken out and not handled yet. -/
def batch : WorkerPc α → List α
  | .unlocking batch | .handling batch => batch
  | _ => []

def hasLock : WorkerPc α → Bool
  | .testing | .leaving | .swapping | .unlocking _ => true
  | _ => false

/-- What `notify_one` makes of the worker. -/
def woken : WorkerPc α → WorkerPc α
  | .waiting => .locking
  | pc => pc

@[simp] theorem woken_batch (pc : WorkerPc α) : pc.woken.batch = pc.batch := by
  cases pc <;> rfl

@[simp] theorem woken_hasLock (pc : WorkerPc α) : pc.woken.hasLock = pc.hasLock := by
  cases pc <;> rfl

@[simp] theorem woken_eq_done {pc : WorkerPc α} : pc.woken = .done ↔ pc = .done := by
  cases pc <;> simp [woken]

@[simp] theorem woken_ne_waiting (pc : WorkerPc α) : pc.woken ≠ .waiting := by
  cases pc <;> simp [woken]

end WorkerPc

namespace OwnerPc

def hasLock : OwnerPc → Bool
  | .clearing | .unlocking => true
  | _ => false

/-- Whether the flag is cleared. -/
def cleared : OwnerPc → Bool
  | .alive | .locking | .clearing => false
  | _ => true

end OwnerPc

end Handoff

/-- The object, and where the threads are; what was put in and what was handled so far. -/
structure HandoffState (σ α : Type) where
  object : σ
  running : Bool := true
  lock : Option (Handoff.Holder α) := none
  worker : Handoff.WorkerPc α := .locking
  owner : Handoff.OwnerPc := .alive
  offered : List α := []
  handled : List α := []

inductive HandoffEvent (α : Type) where
  /-- a producer comes, and takes the mutex if it accepts the item -/
  | offer (a : α)
  /-- the producer goes on -/
  | producer
  | destroy
  /-- the owner goes on -/
  | owner
  /-- the worker goes on -/
  | worker
  /-- the wait ends without a notification -/
  | wake

namespace Handoff

variable {σ α : Type} (H : Handoff σ α)

/-! ## The machine -/

/-- The next statement of the producer that has the mutex. -/
def produce (s : HandoffState σ α) : HandoffState σ α :=
  match s.lock with
  | some (.producer a .pushing) =>
    { s with
      object := H.push s.object a
      offered := s.offered ++ [a]
      lock := some (.producer a .notifying) }
  | some (.producer a .notifying) =>
    { s with worker := s.worker.woken, lock := some (.producer a .unlocking) }
  | some (.producer _ .unlocking) => { s with lock := none }
  | _ => s

def canProduce (s : HandoffState σ α) : Bool :=
  match s.lock with
  | some (.producer _ _) => true
  | _ => false

/-- The next statement of the worker. -/
def work (s : HandoffState σ α) : HandoffState σ α :=
  match s.worker with
  | .locking => { s with lock := some .worker, worker := .testing }
  | .testing =>
    if !(H.queue s.object).isEmpty || !s.running then { s with worker := .leaving }
    else { s with lock := none, worker := .waiting }
  | .leaving =>
    if !s.running && (H.queue s.object).isEmpty then { s with lock := none, worker := .done }
    else { s with worker := .swapping }
  | .swapping =>
    { s with object := H.takeAll s.object, worker := .unlocking (H.queue s.object) }
  | .unlocking batch => { s with lock := none, worker := .handling batch }
  | .handling [] => { s with worker := .locking }
  | .handling (a :: batch) =>
    { s with
      object := H.handle s.object a
      worker := .handling batch
      handled := s.handled ++ [a] }
  | .waiting | .done => s

def canWork (s : HandoffState σ α) : Bool :=
  match s.worker with
  | .locking => s.lock.isNone
  | .waiting | .done => false
  | _ => true

/-- The next statement of the owner. -/
def own (s : HandoffState σ α) : HandoffState σ α :=
  match s.owner with
  | .locking => { s with lock := some .owner, owner := .clearing }
  | .clearing => { s with running := false, owner := .unlocking }
  | .unlocking => { s with lock := none, owner := .notifying }
  | .notifying => { s with worker := s.worker.woken, owner := .joining }
  | .joining => { s with owner := .finishing }
  | .finishing => { s with object := H.finish s.object, owner := .gone }
  | .alive | .gone => s

/-- The mutex is waited for, and so is the worker. -/
def canOwn (s : HandoffState σ α) : Bool :=
  match s.owner with
  | .locking => s.lock.isNone
  | .joining => match s.worker with
    | .done => true
    | _ => false
  | .alive | .gone => false
  | _ => true

/-- The events that can come next. The owner stops the worker after the last item. -/
def enabled (s : HandoffState σ α) : HandoffEvent α → Bool
  | .offer a => s.owner = .alive && (!H.accepts a || s.lock.isNone)
  | .producer => canProduce s
  | .destroy => s.owner = .alive && !canProduce s
  | .owner => canOwn s
  | .worker => canWork s
  | .wake => match s.worker with
    | .waiting => true
    | _ => false

def step (s : HandoffState σ α) : HandoffEvent α → HandoffState σ α
  | .offer a => if H.accepts a then { s with lock := some (.producer a .pushing) } else s
  | .producer => H.produce s
  | .destroy => { s with owner := .locking }
  | .owner => H.own s
  | .worker => H.work s
  | .wake => { s with worker := .locking }

/-- The threads over an object with an empty queue. -/
def machine (s₀ : σ) : Machine (HandoffState σ α) (HandoffEvent α) where
  init s := s = { object := s₀ }
  enabled s e := H.enabled s e = true
  step s e := some (H.step s e)

instance (s₀ : σ) (s : HandoffState σ α) (e : HandoffEvent α) :
    Decidable ((H.machine s₀).enabled s e) :=
  inferInstanceAs (Decidable (H.enabled s e = true))

/-! ## The invariant -/

/-- What holds in every state of a run that starts with `s₀`. -/
structure Inv (s₀ : σ) (s : HandoffState σ α) : Prop where
  order : s.handled ++ (s.worker.batch ++ H.queue s.object) = s.offered
  content : s.owner ≠ .gone → H.takeAll s.object = s.handled.foldl H.handle s₀
  finished : s.owner = .gone → s.object = H.finish (s.handled.foldl H.handle s₀)
  workerLock : s.worker.hasLock = true ↔ s.lock = some .worker
  ownerLock : s.owner.hasLock = true ↔ s.lock = some .owner
  producing : ∀ a pc, s.lock = some (.producer a pc) → s.owner = .alive ∧ H.accepts a = true
  running : s.running = !s.owner.cleared
  done : s.worker = .done → s.running = false ∧ H.queue s.object = []
  joined : s.owner = .finishing ∨ s.owner = .gone → s.worker = .done
  /-- whoever ends the reason to wait has not notified yet -/
  asleep : s.worker = .waiting →
    (H.queue s.object = [] ∨ ∃ a, s.lock = some (.producer a .notifying)) ∧
    (s.running = true ∨ s.owner = .unlocking ∨ s.owner = .notifying)

variable {H} {s₀ : σ} {s : HandoffState σ α}

theorem Inv.init (h₀ : H.queue s₀ = []) : H.Inv s₀ { object := s₀ } where
  order := by simp [WorkerPc.batch, h₀]
  content _ := H.takeAll_of_empty s₀ h₀
  finished h := by cases h
  workerLock := by simp [WorkerPc.hasLock]
  ownerLock := by simp [OwnerPc.hasLock]
  producing := by simp
  running := rfl
  done h := by cases h
  joined h := by rcases h with h | h <;> cases h
  asleep h := by cases h

/-- A mutex that neither of the two has. -/
theorem Inv.hasLock_eq_false (h : H.Inv s₀ s) (hworker : s.lock ≠ some .worker)
    (howner : s.lock ≠ some .owner) :
    s.worker.hasLock = false ∧ s.owner.hasLock = false := by
  rw [← Bool.not_eq_true, ← Bool.not_eq_true, h.workerLock, h.ownerLock]
  exact ⟨hworker, howner⟩

/-- Behind the last item no producer has it. -/
theorem Inv.not_producing (h : H.Inv s₀ s) (howner : s.owner ≠ .alive) (a : α)
    (pc : ProducerPc) : s.lock ≠ some (.producer a pc) :=
  fun hp => howner (h.producing a pc hp).1

/-- A worker that nobody is about to notify sleeps over an empty queue. -/
theorem Inv.queue_of_asleep (h : H.Inv s₀ s) (hw : s.worker = .waiting)
    (hlock : ∀ a, s.lock ≠ some (.producer a .notifying)) : H.queue s.object = [] :=
  (h.asleep hw).1.resolve_right fun ⟨a, ha⟩ => hlock a ha

/-- A producer that pushes, notifies or leaves. -/
theorem Inv.produce (h : H.Inv s₀ s) : H.Inv s₀ (H.produce s) := by
  unfold Handoff.produce
  split
  · next a hlock =>
    obtain ⟨halive, haccepts⟩ := h.producing a _ hlock
    obtain ⟨hworker, howner⟩ := h.hasLock_eq_false (by simp [hlock]) (by simp [hlock])
    refine
      { order := ?_
        content := fun hne => (H.takeAll_push _ _).trans (h.content hne)
        finished := fun hgone => by rw [halive] at hgone; cases hgone
        workerLock := by simp [hworker]
        ownerLock := by simp [howner]
        producing := fun b pc hb => by cases hb; exact ⟨halive, haccepts⟩
        running := h.running
        done := fun hd => ?_
        joined := fun hj => by rw [halive] at hj; rcases hj with hj | hj <;> cases hj
        asleep := fun hw => ⟨Or.inr ⟨a, rfl⟩, (h.asleep hw).2⟩ }
    · rw [H.queue_push s.object a haccepts, ← h.order]
      simp
    · have hrunning := h.running
      rw [(h.done hd).1, halive] at hrunning
      cases hrunning
  · next a hlock =>
    obtain ⟨halive, haccepts⟩ := h.producing a _ hlock
    obtain ⟨hworker, howner⟩ := h.hasLock_eq_false (by simp [hlock]) (by simp [hlock])
    exact
      { order := by simpa using h.order
        content := h.content
        finished := h.finished
        workerLock := by simp [hworker]
        ownerLock := by simp [howner]
        producing := fun b pc hb => by cases hb; exact ⟨halive, haccepts⟩
        running := h.running
        done := fun hd => h.done (WorkerPc.woken_eq_done.mp hd)
        joined := fun hj => by rw [halive] at hj; rcases hj with hj | hj <;> cases hj
        asleep := fun hw => absurd hw (WorkerPc.woken_ne_waiting _) }
  · next a hlock =>
    obtain ⟨hworker, howner⟩ := h.hasLock_eq_false (by simp [hlock]) (by simp [hlock])
    exact
      { h with
        workerLock := by simp [hworker]
        ownerLock := by simp [howner]
        producing := fun b pc hb => by cases hb
        asleep := fun hw =>
          ⟨Or.inl (h.queue_of_asleep hw (by simp [hlock])), (h.asleep hw).2⟩ }
  · exact h

/-- A worker that is about to take the mutex, and the object stays as it is. -/
theorem Inv.locking (h : H.Inv s₀ s) (hworker : s.worker.batch = [])
    (hlock : s.worker.hasLock = false) (hdone : s.worker ≠ .done) :
    H.Inv s₀ { s with worker := .locking } where
  order := by
    have horder := h.order
    rw [hworker] at horder
    exact horder
  content := h.content
  finished := h.finished
  workerLock := by
    rw [← h.workerLock, hlock]
    rfl
  ownerLock := h.ownerLock
  producing := h.producing
  running := h.running
  done hd := by cases hd
  joined hj := absurd (h.joined hj) hdone
  asleep hw := by cases hw

/-- The worker works until it has returned, and the owner is there until then. -/
theorem Inv.owner_of_not_done (h : H.Inv s₀ s) (hdone : s.worker ≠ .done) :
    s.owner ≠ .finishing ∧ s.owner ≠ .gone :=
  ⟨fun ho => hdone (h.joined (Or.inl ho)), fun ho => hdone (h.joined (Or.inr ho))⟩

/-- What a statement of the worker with the mutex leaves to be shown. -/
theorem Inv.of_worker (h : H.Inv s₀ s) {s' : HandoffState σ α} (hdone : s.worker ≠ .done)
    (howner : s'.owner = s.owner) (hrunning : s'.running = s.running)
    (horder : s'.handled ++ (s'.worker.batch ++ H.queue s'.object) = s'.offered)
    (hcontent : H.takeAll s'.object = s'.handled.foldl H.handle s₀)
    (hlock : s'.lock = s.lock ∨ (s.lock = some .worker ∧ s'.lock = none) ∨
      (s.lock = none ∧ s'.lock = some .worker))
    (hworker : s'.worker.hasLock = true ↔ s'.lock = some .worker)
    (hleft : s'.worker = .done → s'.running = false ∧ H.queue s'.object = [])
    (hasleep : s'.worker = .waiting → H.queue s'.object = [] ∧ s'.running = true) :
    H.Inv s₀ s' := by
  obtain ⟨hfinishing, hgone⟩ := h.owner_of_not_done hdone
  refine
    { order := horder
      content := fun _ => hcontent
      finished := fun hg => absurd (howner ▸ hg) hgone
      workerLock := hworker
      ownerLock := ?_
      producing := ?_
      running := by rw [hrunning, howner, h.running]
      done := hleft
      joined := fun hj => ?_
      asleep := fun hw => ⟨Or.inl (hasleep hw).1, Or.inl (hasleep hw).2⟩ }
  · rw [howner, h.ownerLock]
    rcases hlock with hl | ⟨hl, hl'⟩ | ⟨hl, hl'⟩
    · rw [hl]
    · simp [hl, hl']
    · simp [hl, hl']
  · intro a pc hp
    rw [howner]
    rcases hlock with hl | ⟨hl, hl'⟩ | ⟨hl, hl'⟩
    · exact h.producing a pc (hl ▸ hp)
    · rw [hl'] at hp
      cases hp
    · rw [hl'] at hp
      cases hp
  · rw [howner] at hj
    rcases hj with hj | hj
    · exact absurd hj hfinishing
    · exact absurd hj hgone

/-- A statement of the worker. -/
theorem Inv.work (h : H.Inv s₀ s) (hcan : canWork s = true) : H.Inv s₀ (H.work s) := by
  have hdone : s.worker ≠ .done := by
    intro hd
    unfold canWork at hcan
    rw [hd] at hcan
    cases hcan
  have hcontent := h.content (h.owner_of_not_done hdone).2
  have horder := h.order
  unfold Handoff.work
  split
  · next hpc =>
    have hlock : s.lock = none := by
      unfold canWork at hcan
      rw [hpc] at hcan
      exact Option.isNone_iff_eq_none.mp hcan
    rw [hpc] at horder
    exact h.of_worker hdone rfl rfl horder hcontent (Or.inr (Or.inr ⟨hlock, rfl⟩))
      (by simp [WorkerPc.hasLock]) (fun hd => by cases hd) fun hw => by cases hw
  · next hpc =>
    have hlock : s.lock = some .worker := h.workerLock.mp (by rw [hpc]; rfl)
    rw [hpc] at horder
    split
    · exact h.of_worker hdone rfl rfl horder hcontent (Or.inl rfl)
        (by simp [WorkerPc.hasLock, hlock]) (fun hd => by cases hd) fun hw => by cases hw
    · next hwait =>
      refine h.of_worker hdone rfl rfl horder hcontent (Or.inr (Or.inl ⟨hlock, rfl⟩))
        (by simp [WorkerPc.hasLock]) (fun hd => by cases hd) fun _ => ?_
      simpa using hwait
  · next hpc =>
    have hlock : s.lock = some .worker := h.workerLock.mp (by rw [hpc]; rfl)
    rw [hpc] at horder
    split
    · next hleave =>
      refine h.of_worker hdone rfl rfl horder hcontent (Or.inr (Or.inl ⟨hlock, rfl⟩))
        (by simp [WorkerPc.hasLock]) (fun _ => ?_) fun hw => by cases hw
      simpa using hleave
    · exact h.of_worker hdone rfl rfl horder hcontent (Or.inl rfl)
        (by simp [WorkerPc.hasLock, hlock]) (fun hd => by cases hd) fun hw => by cases hw
  · next hpc =>
    -- the queue becomes the batch
    have hlock : s.lock = some .worker := h.workerLock.mp (by rw [hpc]; rfl)
    rw [hpc] at horder
    refine h.of_worker hdone rfl rfl ?_ ?_ (Or.inl rfl) (by simp [WorkerPc.hasLock, hlock])
      (fun hd => by cases hd) fun hw => by cases hw
    · simpa [WorkerPc.batch, H.queue_takeAll] using horder
    · exact (H.takeAll_takeAll _).trans hcontent
  · next batch hpc =>
    have hlock : s.lock = some .worker := h.workerLock.mp (by rw [hpc]; rfl)
    rw [hpc] at horder
    exact h.of_worker hdone rfl rfl horder hcontent (Or.inr (Or.inl ⟨hlock, rfl⟩))
      (by simp [WorkerPc.hasLock]) (fun hd => by cases hd) fun hw => by cases hw
  · next hpc =>
    exact h.locking (by rw [hpc]; rfl) (by rw [hpc]; rfl) hdone
  · next a batch hpc =>
    -- one item from the front of the batch
    rw [hpc] at horder
    refine h.of_worker hdone rfl rfl ?_ ?_ (Or.inl rfl) ?_ (fun hd => by cases hd)
      fun hw => by cases hw
    · simpa [WorkerPc.batch, H.queue_handle] using horder
    · rw [List.foldl_append, ← hcontent]
      exact H.takeAll_handle _ _
    · rw [← h.workerLock, hpc]
      rfl
  · exact h
  · exact h

/-- What a statement of the owner that concerns the flag and the mutex leaves to be shown. -/
theorem Inv.of_owner (h : H.Inv s₀ s) {running : Bool} {lock : Option (Holder α)}
    {owner : OwnerPc} (hbefore : s.owner ≠ .gone) (hafter : owner ≠ .gone)
    (hworker : lock = some .worker ↔ s.lock = some .worker)
    (howner : owner.hasLock = true ↔ lock = some .owner)
    (hproducer : ∀ a pc, lock ≠ some (.producer a pc)) (hrunning : running = !owner.cleared)
    (hdone : s.worker = .done → running = false)
    (hjoined : owner = .finishing → s.worker = .done)
    (hasleep : s.worker = .waiting →
      H.queue s.object = [] ∧ (running = true ∨ owner = .unlocking ∨ owner = .notifying)) :
    H.Inv s₀ { s with running := running, lock := lock, owner := owner } where
  order := h.order
  content _ := h.content hbefore
  finished hg := absurd hg hafter
  workerLock := h.workerLock.trans hworker.symm
  ownerLock := howner
  producing a pc hp := absurd hp (hproducer a pc)
  running := hrunning
  done hd := ⟨hdone hd, (h.done hd).2⟩
  joined hj := hj.elim hjoined fun hg => absurd hg hafter
  asleep hw := ⟨Or.inl (hasleep hw).1, (hasleep hw).2⟩

/-- The owner notifies, and goes on to the join. -/
theorem Inv.notify (h : H.Inv s₀ s) (howner : s.owner = .notifying) :
    H.Inv s₀ { s with worker := s.worker.woken, owner := .joining } := by
  have hownerLock := h.ownerLock
  have hrunning := h.running
  rw [howner] at hownerLock hrunning
  exact
    { h with
      order := by simpa using h.order
      content := fun _ => h.content (by rw [howner]; simp)
      finished := fun hg => by cases hg
      workerLock := by simpa using h.workerLock
      ownerLock := hownerLock
      producing := fun a pc hp => absurd hp (h.not_producing (by simp [howner]) a pc)
      running := hrunning
      done := fun hd => h.done (WorkerPc.woken_eq_done.mp hd)
      joined := fun hj => by rcases hj with hj | hj <;> cases hj
      asleep := fun hw => absurd hw (WorkerPc.woken_ne_waiting _) }

/-- The owner finishes the object the worker has left. -/
theorem Inv.finish (h : H.Inv s₀ s) (howner : s.owner = .finishing) :
    H.Inv s₀ { s with object := H.finish s.object, owner := .gone } := by
  have hownerLock := h.ownerLock
  have hrunning := h.running
  rw [howner] at hownerLock hrunning
  have hworker : s.worker = .done := h.joined (Or.inl howner)
  have hqueue := (h.done hworker).2
  refine
    { h with
      order := by simpa [H.queue_finish] using h.order
      content := fun hne => absurd rfl hne
      finished := fun _ => ?_
      ownerLock := hownerLock
      producing := fun a pc hp => absurd hp (h.not_producing (by simp [howner]) a pc)
      running := hrunning
      done := fun hd => ⟨(h.done hd).1, (H.queue_finish _).trans hqueue⟩
      joined := fun _ => hworker
      asleep := fun hw => by rw [hworker] at hw; cases hw }
  rw [← h.content (by rw [howner]; simp), H.takeAll_of_empty _ hqueue]

/-- A statement of the owner, on its way to the end of the worker. -/
theorem Inv.own (h : H.Inv s₀ s) (hcan : canOwn s = true) : H.Inv s₀ (H.own s) := by
  have hownerLock := h.ownerLock
  have hrunning := h.running
  unfold canOwn at hcan
  unfold Handoff.own
  cases howner : s.owner with
  | alive => exact h
  | gone => exact h
  | notifying => exact h.notify howner
  | finishing => exact h.finish howner
  | locking =>
    rw [howner] at hcan hrunning
    have hlock : s.lock = none := Option.isNone_iff_eq_none.mp hcan
    exact h.of_owner (by simp [howner]) (by simp) (by simp [hlock]) (by simp [OwnerPc.hasLock])
      (by simp) hrunning (fun hd => (h.done hd).1) (fun hj => by cases hj)
      fun hw => ⟨h.queue_of_asleep hw (by simp [hlock]), Or.inl hrunning⟩
  | clearing =>
    rw [howner] at hownerLock
    have hlock : s.lock = some .owner := hownerLock.mp rfl
    exact h.of_owner (by simp [howner]) (by simp) Iff.rfl (by simp [OwnerPc.hasLock, hlock])
      (h.not_producing (by simp [howner])) rfl (fun _ => rfl) (fun hj => by cases hj)
      fun hw => ⟨h.queue_of_asleep hw (by simp [hlock]), Or.inr (Or.inl rfl)⟩
  | unlocking =>
    rw [howner] at hownerLock hrunning
    have hlock : s.lock = some .owner := hownerLock.mp rfl
    exact h.of_owner (by simp [howner]) (by simp) (by simp [hlock]) (by simp [OwnerPc.hasLock])
      (by simp) hrunning (fun hd => (h.done hd).1) (fun hj => by cases hj)
      fun hw => ⟨h.queue_of_asleep hw (by simp [hlock]), Or.inr (Or.inr rfl)⟩
  | joining =>
    rw [howner] at hcan hownerLock hrunning
    have hworker : s.worker = .done := by
      dsimp only at hcan
      split at hcan
      · assumption
      · cases hcan
    exact h.of_owner (by simp [howner]) (by simp) Iff.rfl hownerLock
      (h.not_producing (by simp [howner])) hrunning (fun hd => (h.done hd).1) (fun _ => hworker)
      fun hw => by rw [hworker] at hw; cases hw

theorem Inv.step (h : H.Inv s₀ s) {e : HandoffEvent α} (hen : H.enabled s e = true) :
    H.Inv s₀ (H.step s e) := by
  cases e with
  | producer => exact h.produce
  | owner => exact h.own hen
  | worker => exact h.work hen
  | offer a =>
    simp only [enabled, Bool.and_eq_true, decide_eq_true_eq, Bool.or_eq_true,
      Bool.not_eq_true', Option.isNone_iff_eq_none] at hen
    obtain ⟨halive, hfree⟩ := hen
    unfold Handoff.step
    dsimp only
    split
    · next haccepts =>
      have hlock : s.lock = none := hfree.resolve_left (by simp [haccepts])
      exact
        { h with
          workerLock := by rw [h.workerLock, hlock]; simp
          ownerLock := by rw [h.ownerLock, hlock]; simp
          producing := fun b pc hb => by cases hb; exact ⟨halive, haccepts⟩
          asleep := fun hw =>
            ⟨Or.inl (h.queue_of_asleep hw (by simp [hlock])), (h.asleep hw).2⟩ }
    · exact h
  | destroy =>
    simp only [enabled, Bool.and_eq_true, decide_eq_true_eq, Bool.not_eq_true'] at hen
    obtain ⟨halive, hfree⟩ := hen
    have hrunning := h.running
    have hownerLock := h.ownerLock
    rw [halive] at hrunning hownerLock
    refine
      { h with
        content := fun _ => h.content (by rw [halive]; simp)
        finished := fun hg => by cases hg
        ownerLock := hownerLock
        producing := fun b pc hb => ?_
        running := hrunning
        joined := fun hj => by rcases hj with hj | hj <;> cases hj
        asleep := fun hw => ⟨(h.asleep hw).1, Or.inl hrunning⟩ }
    unfold canProduce at hfree
    rw [show s.lock = some (.producer b pc) from hb] at hfree
    cases hfree
  | wake =>
    have hworker : s.worker = .waiting := by
      unfold enabled at hen
      dsimp only at hen
      split at hen
      · assumption
      · cases hen
    exact h.locking (by rw [hworker]; rfl) (by rw [hworker]; rfl) (by rw [hworker]; simp)

/-- **The invariant holds in every run.** -/
theorem reachable_inv (h₀ : H.queue s₀ = []) (hs : (H.machine s₀).Reachable s) : H.Inv s₀ s :=
  hs.invariant (fun _ h => by cases h; exact Inv.init h₀) fun _ _ _ _ h hen hstep => by
    cases hstep
    exact h.step hen

/-! ## What it says -/

/-- **Once the worker has returned, every item was handled, in the order they came.** -/
theorem Inv.handled_eq (h : H.Inv s₀ s) (hdone : s.worker = .done) : s.handled = s.offered := by
  have horder := h.order
  rw [hdone, (h.done hdone).2] at horder
  simpa [WorkerPc.batch] using horder

/-- The steps the worker needs until it returns, with the flag cleared. -/
def remaining (s : HandoffState σ α) : Nat :=
  let last := if H.queue s.object = [] then 1 else (H.queue s.object).length + 7
  match s.worker with
  | .locking => last + 2
  | .testing => last + 1
  | .leaving => last
  | .swapping => (H.queue s.object).length + 6
  | .unlocking batch => batch.length + last + 4
  | .handling batch => batch.length + last + 3
  | .waiting | .done => 0

/-- A worker that can go on gets nearer to its return. -/
theorem remaining_work (hstopped : s.running = false) (hcan : canWork s = true) :
    remaining (H := H) (H.work s) < remaining (H := H) s := by
  unfold canWork at hcan
  unfold Handoff.work remaining
  cases hpc : s.worker with
  | waiting => simp [hpc] at hcan
  | done => simp [hpc] at hcan
  | locking => simp
  | testing => simp [hstopped]
  | leaving => by_cases hq : H.queue s.object = [] <;> simp [hstopped, hq]
  | swapping => simp [H.queue_takeAll]
  | unlocking batch => simp
  | handling batch =>
    cases batch with
    | nil => simp
    | cons a batch =>
      simp only [H.queue_handle, List.length_cons]
      omega

/-- The worker the owner waits for neither sleeps nor waits for the mutex. -/
theorem Inv.canWork_of_joining (h : H.Inv s₀ s) (howner : s.owner = .joining)
    (hdone : s.worker ≠ .done) : s.worker ≠ .waiting ∧ canWork s = true := by
  have hrunning := h.running
  have hworkerLock := h.workerLock
  have hownerLock := h.ownerLock
  rw [howner] at hrunning hownerLock
  have hawake : s.worker ≠ .waiting := by
    intro hw
    have := (h.asleep hw).2
    simp [hrunning, howner, OwnerPc.cleared] at this
  refine ⟨hawake, ?_⟩
  unfold canWork
  cases hpc : s.worker with
  | waiting => exact absurd hpc hawake
  | done => exact absurd hpc hdone
  | locking =>
    rw [hpc] at hworkerLock
    cases hlock : s.lock with
    | none => rfl
    | some holder =>
      cases holder with
      | worker => simp [WorkerPc.hasLock, hlock] at hworkerLock
      | owner => simp [OwnerPc.hasLock, hlock] at hownerLock
      | producer a pc => exact absurd hlock (h.not_producing (by simp [howner]) a pc)
  | _ => rfl

/-- **No wake-up is lost**: the worker the owner waits for is the one that can go on. -/
theorem Inv.joining (h : H.Inv s₀ s) (howner : s.owner = .joining) (hdone : s.worker ≠ .done) :
    (∀ e, H.enabled s e = true ↔ e = .worker) ∧
      remaining (H := H) (H.work s) < remaining (H := H) s := by
  obtain ⟨hawake, hcan⟩ := h.canWork_of_joining howner hdone
  have hproducer : canProduce s = false := by
    unfold canProduce
    split
    · next a pc hp => exact absurd hp (h.not_producing (by simp [howner]) a pc)
    · rfl
  refine ⟨fun e => ?_, remaining_work (by simp [h.running, howner, OwnerPc.cleared]) hcan⟩
  cases e with
  | worker => simpa [enabled] using hcan
  | producer => simp [enabled, hproducer]
  | destroy => simp [enabled, howner]
  | offer a => simp [enabled, howner]
  | wake =>
    unfold enabled
    dsimp only
    split
    · next hw => exact absurd hw hawake
    · simp
  | owner =>
    unfold enabled canOwn
    rw [howner]
    dsimp only
    split
    · next hd => exact absurd hd hdone
    · simp

/-- **The join ends.** -/
theorem Inv.drains (h : H.Inv s₀ s) (howner : s.owner = .joining) :
    ∃ n t, (H.machine s₀).replay s (List.replicate n .worker) = some t ∧ H.Inv s₀ t ∧
      t.worker = .done := by
  induction hn : remaining (H := H) s using Nat.strong_induction_on generalizing s with
  | _ n ih =>
    by_cases hdone : s.worker = .done
    · exact ⟨0, s, rfl, h, hdone⟩
    · obtain ⟨honly, hless⟩ := h.joining howner hdone
      have hen : (H.machine s₀).enabled s .worker := (honly _).mpr rfl
      have howner' : (H.work s).owner = .joining := by
        unfold Handoff.work
        split <;> (try split) <;> exact howner
      obtain ⟨k, t, hreplay, hinv, ht⟩ := ih _ (hn ▸ hless) (h.work hen) howner' rfl
      refine ⟨k + 1, t, ?_, hinv, ht⟩
      rw [List.replicate_succ, Machine.replay, if_pos hen]
      exact hreplay

end Handoff

end Infra
