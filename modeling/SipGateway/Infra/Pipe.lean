import Mathlib.Tactic

/-!
# Frames through a pipe

A sender writes frames as items, the items arrive a few at a time, and a receiver takes off a frame
as soon as all of it is there.

`Pipe` says how far they are: the items of the frames not yet taken are those that have arrived and,
behind them, those in flight. Sending, arriving and taking keep it, so the receiver takes the frames
that were sent, in order.
-/

namespace Infra

variable {φ β : Type}

/-- Frames as items. The first frame is seen as soon as it is complete, whatever follows. -/
structure Framing (φ β : Type) where
  encode : φ → List β
  next? : List β → Option (φ × List β)
  Fits : φ → Prop
  next?_nil : next? [] = none
  next?_encode : ∀ {frame}, Fits frame → ∀ rest, next? (encode frame ++ rest) = some (frame, rest)
  next?_append : ∀ {items rest frame}, next? items = some (frame, rest) →
    ∀ more, next? (items ++ more) = some (frame, rest ++ more)

/-- Of the frames sent so many are taken; what has arrived of the others, and what has not. -/
structure Framing.Pipe (F : Framing φ β) (sent : List φ) (taken : Nat)
    (unread flight : List β) : Prop where
  fits : ∀ frame ∈ sent, F.Fits frame
  taken_le : taken ≤ sent.length
  conserved : (sent.drop taken).flatMap F.encode = unread ++ flight

namespace Framing.Pipe

variable {F : Framing φ β} {sent : List φ} {taken : Nat} {unread flight rest : List β} {frame : φ}

theorem init (F : Framing φ β) : F.Pipe [] 0 [] [] where
  fits := nofun
  taken_le := Nat.le_refl _
  conserved := rfl

theorem send (h : F.Pipe sent taken unread flight) {frames : List φ}
    (hfits : ∀ frame ∈ frames, F.Fits frame) :
    F.Pipe (sent ++ frames) taken unread (flight ++ frames.flatMap F.encode) where
  fits frame hframe := (List.mem_append.mp hframe).elim (h.fits frame) (hfits frame)
  taken_le := by
    rw [List.length_append]
    exact h.taken_le.trans (Nat.le_add_right _ _)
  conserved := by
    rw [List.drop_append_of_le_length h.taken_le, List.flatMap_append, h.conserved,
      List.append_assoc]

theorem arrive (h : F.Pipe sent taken unread flight) (n : Nat) :
    F.Pipe sent taken (unread ++ flight.take n) (flight.drop n) where
  fits := h.fits
  taken_le := h.taken_le
  conserved := by rw [List.append_assoc, List.take_append_drop, h.conserved]

/-- What is taken is the next frame. -/
theorem take (h : F.Pipe sent taken unread flight) (hnext : F.next? unread = some (frame, rest)) :
    sent[taken]? = some frame ∧ F.Pipe sent (taken + 1) rest flight := by
  have hall := F.next?_append hnext flight
  rw [← h.conserved] at hall
  cases hdrop : sent.drop taken with
  | nil =>
    -- all that was sent has been taken
    rw [hdrop, List.flatMap_nil, F.next?_nil] at hall
    cases hall
  | cons first others =>
    have hget : sent[taken]? = some first := by
      rw [← List.head?_drop, hdrop]
      rfl
    have hlt : taken < sent.length := (List.getElem?_eq_some_iff.mp hget).1
    have hfirst : F.Fits first := h.fits first (List.mem_of_getElem? hget)
    rw [hdrop, List.flatMap_cons, F.next?_encode hfirst, Option.some.injEq, Prod.mk.injEq] at hall
    refine ⟨hall.1 ▸ hget, h.fits, hlt, ?_⟩
    rw [← List.tail_drop, hdrop]
    exact hall.2

/-- Once everything has arrived, a frame that is left can be taken. -/
theorem next?_of_arrived (h : F.Pipe sent taken unread []) (hlt : taken < sent.length) :
    (F.next? unread).isSome := by
  have hconserved := h.conserved
  rw [List.append_nil, List.drop_eq_getElem_cons hlt, List.flatMap_cons] at hconserved
  rw [← hconserved, F.next?_encode (h.fits _ (List.getElem_mem hlt))]
  rfl

end Framing.Pipe

end Infra
