import Mathlib.Tactic

/-!
# Buffers that drop the oldest

A queue of limited length takes items at its end, any number at a time. What is too much is
dropped at the front, and frames of one length are taken from the front.

A `Conveyor` is such a queue with its past: everything it has accepted, and what has left it, in
order. That nothing else happens to an item is part of the type. `run` is the conveyor that some
turns lead to.
-/

namespace Infra

variable {α : Type}

/-- The oldest items of a queue that is too long: those over the capacity. -/
def overflow (cap : Nat) (queue : List α) : List α := queue.take (queue.length - cap)

/-- The newest items of a queue, as many as there is room for. -/
def newest (cap : Nat) (queue : List α) : List α := queue.drop (queue.length - cap)

@[simp] theorem overflow_append_newest (cap : Nat) (queue : List α) :
    overflow cap queue ++ newest cap queue = queue := List.take_append_drop _ _

theorem length_newest (cap : Nat) (queue : List α) :
    (newest cap queue).length = min cap queue.length := by
  rw [newest, List.length_drop]
  omega

theorem length_newest_le (cap : Nat) (queue : List α) : (newest cap queue).length ≤ cap := by
  rw [length_newest]
  exact Nat.min_le_left _ _

/-- Items that have left a queue at its front. -/
inductive Departure (α : Type) where
  | emitted (frame : List α)
  | dropped (items : List α)
deriving DecidableEq, Repr

def Departure.items : Departure α → List α
  | .emitted frame => frame
  | .dropped items => items

/-- The items of some departures, in order. -/
def departedItems (gone : List (Departure α)) : List α := gone.flatMap Departure.items

@[simp] theorem departedItems_concat (gone : List (Departure α)) (d : Departure α) :
    departedItems (gone ++ [d]) = departedItems gone ++ d.items := by
  simp [departedItems]

def Departure.frame? : Departure α → Option (List α)
  | .emitted frame => some frame
  | .dropped _ => none

/-- A queue with its past; it holds `cap` items at most and emits frames of `frame` items. -/
structure Conveyor (cap frame : Nat) (α : Type) where
  accepted : List α
  gone : List (Departure α)
  queue : List α
  conserved : accepted = departedItems gone ++ queue
  bounded : queue.length ≤ cap
  framed : ∀ f, Departure.emitted f ∈ gone → f.length = frame

namespace Conveyor

variable {cap frame : Nat}

/-- Nothing has been accepted yet. -/
def empty : Conveyor cap frame α where
  accepted := []
  gone := []
  queue := []
  conserved := rfl
  bounded := Nat.zero_le _
  framed := by simp

/-- Items arrive; the overflow is dropped. -/
def put (c : Conveyor cap frame α) (items : List α) : Conveyor cap frame α where
  accepted := c.accepted ++ items
  gone := c.gone ++ [.dropped (overflow cap (c.queue ++ items))]
  queue := newest cap (c.queue ++ items)
  conserved := by
    rw [departedItems_concat, List.append_assoc, Departure.items, overflow_append_newest,
      ← List.append_assoc, ← c.conserved]
  bounded := length_newest_le _ _
  framed f hf := by
    rcases List.mem_append.mp hf with hf | hf
    · exact c.framed f hf
    · simp at hf

/-- A frame is taken; there must be one. -/
def emit (c : Conveyor cap frame α) (h : frame ≤ c.queue.length) : Conveyor cap frame α where
  accepted := c.accepted
  gone := c.gone ++ [.emitted (c.queue.take frame)]
  queue := c.queue.drop frame
  conserved := by
    rw [departedItems_concat, List.append_assoc, Departure.items, List.take_append_drop]
    exact c.conserved
  bounded := by
    rw [List.length_drop]
    exact (Nat.sub_le _ _).trans c.bounded
  framed f hf := by
    rcases List.mem_append.mp hf with hf | hf
    · exact c.framed f hf
    · simp only [List.mem_singleton, Departure.emitted.injEq] at hf
      rw [hf, List.length_take, Nat.min_eq_left h]

/-- What can be done with a conveyor. -/
inductive Turn (α : Type) where
  | put (items : List α)
  | take
deriving DecidableEq, Repr

/-- The items of a turn. -/
def Turn.items : Turn α → List α
  | .put items => items
  | .take => []

variable (c : Conveyor cap frame α) (items : List α) (h : frame ≤ c.queue.length)

@[simp] theorem put_accepted : (c.put items).accepted = c.accepted ++ items := rfl

@[simp] theorem put_gone :
    (c.put items).gone = c.gone ++ [.dropped (overflow cap (c.queue ++ items))] := rfl

@[simp] theorem put_queue : (c.put items).queue = newest cap (c.queue ++ items) := rfl

@[simp] theorem emit_accepted : (c.emit h).accepted = c.accepted := rfl

@[simp] theorem emit_gone :
    (c.emit h).gone = c.gone ++ [.emitted (c.queue.take frame)] := rfl

@[simp] theorem emit_queue : (c.emit h).queue = c.queue.drop frame := rfl

/-- The frames, in the order they were emitted. -/
def emitted (c : Conveyor cap frame α) : List (List α) := c.gone.filterMap Departure.frame?

@[simp] theorem put_emitted : (c.put items).emitted = c.emitted := by
  simp [emitted, Departure.frame?]

@[simp] theorem emit_emitted : (c.emit h).emitted = c.emitted ++ [c.queue.take frame] := by
  simp [emitted, Departure.frame?]

theorem length_of_mem_emitted {f : List α} (hf : f ∈ c.emitted) : f.length = frame := by
  obtain ⟨d, hd, hframe⟩ := List.mem_filterMap.mp hf
  cases d with
  | emitted f' =>
    cases hframe
    exact c.framed f hd
  | dropped items => cases hframe

/-- As long as nothing was dropped, the items pass unchanged. -/
theorem accepted_of_no_drop (hdrop : ∀ items, Departure.dropped items ∈ c.gone → items = []) :
    c.accepted = c.emitted.flatten ++ c.queue := by
  have hgone : ∀ gone : List (Departure α), (∀ items, Departure.dropped items ∈ gone → items = []) →
      departedItems gone = (gone.filterMap Departure.frame?).flatten := by
    intro gone hgone
    induction gone with
    | nil => rfl
    | cons d gone ih =>
      have hrest := ih fun items hitems => hgone items (List.mem_cons_of_mem _ hitems)
      cases d with
      | emitted f => exact congrArg (f ++ ·) hrest
      | dropped items =>
        rw [hgone items List.mem_cons_self]
        exact hrest
  rw [c.conserved, hgone c.gone hdrop]
  rfl

/-! ## Runs -/

/-- One turn. Where a frame is to be taken and there is none, nothing happens. -/
def turn (c : Conveyor cap frame α) : Turn α → Conveyor cap frame α
  | .put items => c.put items
  | .take => if h : frame ≤ c.queue.length then c.emit h else c

/-- The conveyor after some turns. -/
def run (turns : List (Turn α)) : Conveyor cap frame α := turns.foldl turn empty

theorem turn_take_of_le (h : frame ≤ c.queue.length) : c.turn .take = c.emit h := dif_pos h

theorem turn_take_of_lt (h : ¬ frame ≤ c.queue.length) : c.turn .take = c := dif_neg h

@[simp] theorem turn_accepted (action : Turn α) :
    (c.turn action).accepted = c.accepted ++ action.items := by
  cases action with
  | put items => rfl
  | take =>
    by_cases h : frame ≤ c.queue.length
    · simp [c.turn_take_of_le h, Turn.items]
    · simp [c.turn_take_of_lt h, Turn.items]

@[simp] theorem run_append (turns more : List (Turn α)) :
    (run (turns ++ more) : Conveyor cap frame α) = more.foldl turn (run turns) :=
  List.foldl_append

/-- What a run has accepted is what was put. -/
theorem accepted_run (turns : List (Turn α)) :
    (run turns : Conveyor cap frame α).accepted = turns.flatMap Turn.items := by
  induction turns using List.reverseRecOn with
  | nil => rfl
  | append_singleton turns action ih =>
    rw [run_append, List.foldl_cons, List.foldl_nil, turn_accepted, ih, List.flatMap_append,
      List.flatMap_singleton]

end Conveyor

end Infra
