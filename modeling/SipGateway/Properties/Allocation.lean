import SipGateway.Rtp.Worker

/-!
# What a search for a port leaves behind

`RtpWorker::allocatePort` opens a socket for every free port it tries, and closes it again when
`bind` or `epoll_ctl` fails. The entry it has made before `epoll_ctl` is not taken back.

The system never hands out a descriptor that is open; that is the only thing assumed of it.
-/

namespace SipGateway

open Infra

namespace RtpWorker

variable {net : Int → SocketAttempt} {ps : List Int} {w : RtpWorker} {p : Int}

/-- An entry for a port that is not among some others makes none of them free or taken. -/
theorem filter_insert_of_not_mem (hp : p ∉ ps) (m : Std.ExtTreeMap Int Int) (fd : Int) :
    ps.filter (· ∉ m.insert p fd) = ps.filter (· ∉ m) := by
  refine List.filter_congr fun x hx => ?_
  have hne : x ≠ p := fun he => hp (he ▸ hx)
  simp only [mem_insert_key, hne, false_or]

/-- The port a loop over `ps` opens. -/
def opensOf (net : Int → SocketAttempt) (ps : List Int) (w : RtpWorker) : Option Int :=
  (ps.filter (· ∉ w.activeSockets)).find? fun p => (net p).Ok

theorem opensOf_taken (hact : p ∈ w.activeSockets) :
    opensOf net (p :: ps) w = opensOf net ps w := by
  simp [opensOf, hact]

theorem opensOf_ok (hact : p ∉ w.activeSockets) (hok : (net p).Ok) :
    opensOf net (p :: ps) w = some p := by
  simp [opensOf, hact, hok]

theorem opensOf_not_ok (hact : p ∉ w.activeSockets) (hok : ¬ (net p).Ok) :
    opensOf net (p :: ps) w = opensOf net ps w := by
  simp [opensOf, hact, hok]

/-- Whether a descriptor is the one a loop keeps. -/
def Keeps (net : Int → SocketAttempt) (o : Option Int) (fd : Int) : Prop :=
  ∃ p, o = some p ∧ (net p).fd = fd

/-- What a run of the loop does to the descriptors, when it opens `o`. -/
structure Holds (net : Int → SocketAttempt) (o : Option Int) (w w' : RtpWorker) : Prop where
  kept : ∀ q ∈ w.activeSockets, w'.activeSockets[q]? = w.activeSockets[q]?
  stored : ∀ p, o = some p → w'.activeSockets[p]? = some (net p).fd
  sockets : ∀ fd, fd ∈ w'.sockets ↔ fd ∈ w.sockets ∨ Keeps net o fd
  epoll : ∀ fd, fd ∈ w'.epoll → fd ∈ w.epoll ∨ Keeps net o fd
  watched : ∀ fd, Keeps net o fd ∨ (fd ∈ w.sockets ∧ fd ∈ w.epoll) → fd ∈ w'.epoll

/-- The loop finds nothing and changes nothing. -/
theorem Holds.refl (net : Int → SocketAttempt) (w : RtpWorker) : Holds net none w w where
  kept _ _ := rfl
  stored _ h := by cases h
  sockets fd := by simp [Keeps]
  epoll fd h := Or.inl h
  watched fd h := by
    rcases h with ⟨_, h, _⟩ | h
    · cases h
    · exact h.2

/-- The socket of the port that is found is open, stored and registered. -/
theorem Holds.opened (hact : p ∉ w.activeSockets) :
    Holds net (some p) w
      { w with sockets := (net p).fd :: w.sockets
               activeSockets := w.activeSockets.insert p (net p).fd
               epoll := (net p).fd :: w.epoll } where
  kept q hq := by
    have hne : q ≠ p := fun he => hact (he ▸ hq)
    rw [getElem?_insert_key, if_neg hne]
  stored q hq := by
    cases hq
    rw [getElem?_insert_key, if_pos rfl]
  sockets fd := by
    simp only [List.mem_cons, Keeps, Option.some.injEq, exists_eq_left']
    rw [or_comm, eq_comm (a := fd)]
  epoll fd h := by
    simp only [List.mem_cons, Keeps, Option.some.injEq, exists_eq_left'] at h ⊢
    rw [or_comm, eq_comm (b := fd)]
    exact h
  watched fd h := by
    simp only [List.mem_cons, Keeps, Option.some.injEq, exists_eq_left'] at h ⊢
    rcases h with h | h
    · exact Or.inl h.symm
    · exact Or.inr h.2

/-- A socket that was not open before can be opened and closed. -/
theorem Holds.closed {fd : Int} (hfd : fd ∉ w.sockets) {m : Std.ExtTreeMap Int Int}
    (hm : ∀ q ∈ w.activeSockets, q ∈ m ∧ m[q]? = w.activeSockets[q]?) {o : Option Int}
    {w' : RtpWorker}
    (h : Holds net o
      (RtpWorker.closeSocket { w with sockets := fd :: w.sockets, activeSockets := m } fd) w') :
    Holds net o w w' where
  kept q hq := (h.kept q (hm q hq).1).trans (hm q hq).2
  stored := h.stored
  sockets x := by
    rw [h.sockets]
    refine or_congr_left ?_
    have hmem : x ∈ w.sockets → x ≠ fd := fun hx he => hfd (he ▸ hx)
    simp only [closeSocket, List.mem_filter, List.mem_cons, decide_eq_true_eq, ne_eq]
    tauto
  epoll x hx := by
    refine (h.epoll x hx).imp_left fun hx => ?_
    exact (List.mem_filter.mp hx).1
  watched x hx := by
    refine h.watched x (hx.imp_right fun ⟨hs, he⟩ => ?_)
    have hne : x ≠ fd := fun h => hfd (h ▸ hs)
    simp [closeSocket, hs, he, hne]

theorem allocateLoop_holds (hfresh : ∀ p, (net p).fd ∉ w.sockets) (hnd : ps.Nodup) :
    Holds net (opensOf net ps w) w (allocateLoop net ps w).1 := by
  induction ps generalizing w with
  | nil => exact Holds.refl net w
  | cons p ps ih =>
    obtain ⟨hp, hnd⟩ := List.nodup_cons.mp hnd
    rw [allocateLoop]
    by_cases hact : p ∈ w.activeSockets
    · rw [if_pos hact, opensOf_taken hact]
      exact ih hfresh hnd
    · rw [if_neg hact]
      by_cases hok : (net p).Ok
      · obtain ⟨hfd, hbound, hadded⟩ := hok
        rw [if_pos hfd, opensOf_ok hact ⟨hfd, hbound, hadded⟩]
        simp only [hbound, hadded, if_true]
        exact Holds.opened hact
      · rw [opensOf_not_ok hact hok]
        -- what the loop goes on with has the sockets of `w`, and maybe one more entry
        have hrest : ∀ w' : RtpWorker, (∀ x ∈ w'.sockets, x ∈ w.sockets) →
            ps.filter (· ∉ w'.activeSockets) = ps.filter (· ∉ w.activeSockets) →
            Holds net (opensOf net ps w) w' (allocateLoop net ps w').1 := by
          intro w' hsub hsame
          have hloop := ih (w := w') (fun q hq => hfresh q (hsub _ hq)) hnd
          unfold opensOf at hloop ⊢
          rwa [hsame] at hloop
        have hclose : ∀ m, ∀ x ∈ (RtpWorker.closeSocket
            { w with sockets := (net p).fd :: w.sockets, activeSockets := m } (net p).fd).sockets,
            x ∈ w.sockets := by
          intro m x hx
          simp only [closeSocket, List.mem_filter, List.mem_cons, decide_eq_true_eq, ne_eq] at hx
          exact hx.1.resolve_left hx.2
        split
        · dsimp only
          split
          · split
            · next hfd hbound hadded => exact absurd ⟨hfd, hbound, hadded⟩ hok
            · refine Holds.closed (hfresh p) (fun q hq => ?_)
                (hrest _ (hclose _) (filter_insert_of_not_mem hp _ _))
              have hne : q ≠ p := fun he => hact (he ▸ hq)
              exact ⟨(mem_insert_key _ _ _ _).mpr (Or.inr hq), by
                rw [getElem?_insert_key, if_neg hne]⟩
          · exact Holds.closed (hfresh p) (fun q hq => ⟨hq, rfl⟩) (hrest _ (hclose _) rfl)
        · exact hrest w (fun _ hx => hx) rfl

/-- **The descriptors after `allocatePort`**: those from before, and that of the port it opens. -/
theorem allocatePort_holds (hfresh : ∀ p, (net p).fd ∉ w.sockets) :
    Holds net (w.opens net) w (w.allocatePort net).1 :=
  allocateLoop_holds hfresh w.nodup_candidates

/-! ## Leaving no trace -/

/--
A call of `allocatePort` adds the port it returns to the table and nothing else, stores open and
registered sockets only, keeps none but that of the port, and spoils no port for later calls.
-/
structure LeavesNoTrace (w : RtpWorker) (net : Int → SocketAttempt) : Prop where
  failed : (w.allocatePort net).2 = -1 → (w.allocatePort net).1.activeSockets = w.activeSockets
  added : ∀ q ∈ (w.allocatePort net).1.activeSockets, q ∉ w.activeSockets →
    q = (w.allocatePort net).2
  kept : ∀ q ∈ w.activeSockets,
    (w.allocatePort net).1.activeSockets[q]? = w.activeSockets[q]?
  live : ∀ q fd : Int, (w.allocatePort net).1.activeSockets[q]? = some fd →
    fd ∈ (w.allocatePort net).1.sockets ∧ fd ∈ (w.allocatePort net).1.epoll
  closed : ∀ fd ∈ (w.allocatePort net).1.sockets, fd ∉ w.sockets →
    (w.allocatePort net).1.activeSockets[(w.allocatePort net).2]? = some fd
  retried : ∀ q ∈ w.free, q ≠ (w.allocatePort net).2 →
    ∃ net', ((w.allocatePort net).1.allocatePort net').2 = q

/--
When a call leaves no trace, by what it finds and what the system answers: of the free ports up to
the first for which every call succeeds, `epoll_ctl` alone fails for none; the number of that port
is not the -1 of a failure; and what is stored before the call is open and registered, unless its
number is handed out again for that port.
-/
structure Untroubled (w : RtpWorker) (net : Int → SocketAttempt) : Prop where
  registers : w.stale net = []
  numbered : w.opens net ≠ some (-1)
  live : ∀ q fd : Int, w.activeSockets[q]? = some fd →
    (fd ∈ w.sockets ∧ fd ∈ w.epoll) ∨ Keeps net (w.opens net) fd

/-- A free port is found when the system lets no other be opened. -/
theorem exists_allocatePort_eq {q : Int} (h : q ∈ w.free) :
    ∃ net', (w.allocatePort net').2 = q := by
  refine ⟨fun p => { fd := 0, bound := p = q, added := true }, ?_⟩
  have hfind : w.free.find? (fun p => decide (p = q)) = some q := by
    have hsome : (w.free.find? fun p => decide (p = q)).isSome = true := by
      rw [List.find?_isSome]
      exact ⟨q, h, by simp⟩
    obtain ⟨p, hp⟩ := Option.isSome_iff_exists.mp hsome
    have hpq : p = q := by simpa using List.find?_some hp
    rw [hp, hpq]
  rw [(w.allocatePort_searched _).1, opens]
  simp [SocketAttempt.Ok, hfind]

theorem mem_free_iff {q : Int} : q ∈ w.free ↔ q ∈ w.candidates ∧ q ∉ w.activeSockets := by
  simp [free]

/-- The port that is opened was free. -/
theorem opens_not_mem {q : Int} (h : w.opens net = some q) : q ∉ w.activeSockets :=
  (mem_free (opens_some h).1).2

/-- **A call that meets the condition leaves no trace.** -/
theorem Untroubled.leavesNoTrace (hfresh : ∀ p, (net p).fd ∉ w.sockets)
    (h : w.Untroubled net) : w.LeavesNoTrace net := by
  obtain ⟨hresult, hstart, hend, hactive⟩ := w.allocatePort_searched net
  have hholds := allocatePort_holds hfresh
  have hmem : ∀ q, q ∈ (w.allocatePort net).1.activeSockets ↔
      q ∈ w.activeSockets ∨ w.opens net = some q := by
    intro q
    rw [hactive, h.registers]
    simp
  have hopened : ∀ {q}, w.opens net = some q → (w.allocatePort net).2 = q := by
    intro q hq
    rw [hresult, hq, Option.getD_some]
  have hadded : ∀ q ∈ (w.allocatePort net).1.activeSockets, q ∉ w.activeSockets →
      q = (w.allocatePort net).2 :=
    fun q hq hnot => (hopened (((hmem q).mp hq).resolve_left hnot)).symm
  refine ⟨?_, hadded, hholds.kept, ?_, ?_, ?_⟩
  · -- a search that fails has opened no port
    intro hfailed
    have hnone : w.opens net = none := by
      cases ho : w.opens net with
      | none => rfl
      | some q => exact absurd (by rw [ho, ← hopened ho, hfailed]) h.numbered
    refine Std.ExtTreeMap.ext_getElem? fun q => ?_
    by_cases hq : q ∈ w.activeSockets
    · exact hholds.kept q hq
    · have hq' : q ∉ (w.allocatePort net).1.activeSockets := by
        rw [hmem, hnone]
        simp [hq]
      rw [(not_mem_iff_getElem?_none _ _).mp hq, (not_mem_iff_getElem?_none _ _).mp hq']
  · intro q fd hq
    have hkeeps : Keeps net (w.opens net) fd ∨ (fd ∈ w.sockets ∧ fd ∈ w.epoll) := by
      have hin := (mem_iff_exists_getElem? _ _).mpr ⟨fd, hq⟩
      rcases (hmem q).mp hin with hold | hnew
      · rw [hholds.kept q hold] at hq
        exact (h.live q fd hq).symm
      · rw [hholds.stored q hnew, Option.some.injEq] at hq
        exact Or.inl ⟨q, hnew, hq⟩
    refine ⟨(hholds.sockets fd).mpr ?_, hholds.watched fd hkeeps⟩
    exact hkeeps.symm.imp_left And.left
  · intro fd hfd hnot
    obtain ⟨p, hp, rfl⟩ := ((hholds.sockets fd).mp hfd).resolve_left hnot
    rw [hopened hp]
    exact hholds.stored p hp
  · intro q hq hne
    obtain ⟨hcand, hfree⟩ := mem_free_iff.mp hq
    refine exists_allocatePort_eq (mem_free_iff.mpr ⟨?_, fun hin => hne (hadded q hin hfree)⟩)
    unfold candidates at hcand ⊢
    rwa [hstart, hend]

/-- **A call that leaves no trace meets the condition.** -/
theorem LeavesNoTrace.untroubled (hfresh : ∀ p, (net p).fd ∉ w.sockets)
    (h : w.LeavesNoTrace net) : w.Untroubled net := by
  obtain ⟨hresult, -, -, hactive⟩ := w.allocatePort_searched net
  have hholds := allocatePort_holds hfresh
  refine ⟨?_, ?_, ?_⟩
  · -- a port given up is in the table now, and is not the one returned
    refine List.eq_nil_iff_forall_not_mem.mpr fun q hq => ?_
    obtain ⟨hfree, hok⟩ := mem_stale hq
    have hnot := (mem_free hfree).2
    have hin := (hactive q).mpr (Or.inr (Or.inl hq))
    have hq' := h.added q hin hnot
    cases ho : w.opens net with
    | none =>
      rw [ho, Option.getD_none] at hresult
      rw [h.failed hresult] at hin
      exact hnot hin
    | some p =>
      rw [ho, Option.getD_some] at hresult
      have hpq : q = p := hq'.trans hresult
      exact hok (hpq ▸ (opens_some ho).2)
  · intro ho
    rw [ho, Option.getD_some] at hresult
    have hin := (hactive (-1)).mpr (Or.inr (Or.inr ho))
    rw [h.failed hresult] at hin
    exact opens_not_mem ho hin
  · intro q fd hq
    have hin := (mem_iff_exists_getElem? _ _).mpr ⟨fd, hq⟩
    obtain ⟨hopen, hwatched⟩ := h.live q fd (by rw [hholds.kept q hin, hq])
    rcases (hholds.sockets fd).mp hopen with hs | hk
    · exact (hholds.epoll fd hwatched).imp_left fun he => ⟨hs, he⟩
    · exact Or.inr hk

/--
**When a search for a port leaves no trace.**

The failure that does is that of `epoll_ctl` alone: the entry for the port stays, with a
descriptor that is closed.
-/
theorem leavesNoTrace_iff (hfresh : ∀ p, (net p).fd ∉ w.sockets) :
    w.LeavesNoTrace net ↔ w.Untroubled net :=
  ⟨LeavesNoTrace.untroubled hfresh, Untroubled.leavesNoTrace hfresh⟩

/-- A worker with one port, before anything is opened. -/
def onePort : RtpWorker := { workerId := 0, startPort := 20000, endPort := 20001 }

/-- No socket for the first port, the second cannot be bound, and the third is opened. -/
def exampleRefusals (p : Int) : SocketAttempt where
  fd := if p = 20000 then -1 else p - 20000
  bound := p ≠ 20002
  added := true

theorem leavesNoTrace_iff_refusals :
    (({ workerId := 0, startPort := 20000, endPort := 20005 } : RtpWorker).allocatePort
        exampleRefusals).2 = 20004 ∧
      ({ workerId := 0, startPort := 20000, endPort := 20005 } : RtpWorker).LeavesNoTrace
        exampleRefusals := by
  refine ⟨by decide +kernel, (leavesNoTrace_iff (by simp)).mpr ⟨?_, ?_, ?_⟩⟩
  · decide +kernel
  · decide +kernel
  · simp

/-- `epoll_ctl` fails: no port is returned, and the only one there is will never be free again. -/
theorem refused_by_epoll :
    (onePort.allocatePort fun _ => { fd := 7, bound := true, added := false }).2 = -1 ∧
    (onePort.allocatePort fun _ => { fd := 7, bound := true, added := false }
      ).1.activeSockets[(20000 : Int)]? = some 7 ∧
    ¬ onePort.LeavesNoTrace (fun _ => { fd := 7, bound := true, added := false }) := by
  refine ⟨by decide +kernel, by decide +kernel, fun h => ?_⟩
  have hstale := (h.untroubled (by simp [onePort])).registers
  revert hstale
  decide +kernel

end RtpWorker

end SipGateway
