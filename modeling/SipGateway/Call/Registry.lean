import SipGateway.Infra.Tables
import SipGateway.Call.Starting

/-!
# The call registry

`CallRegistry.cpp`: the calls by Call-ID, the call of every RTP port, and the ports of every call.

The sessions are shared objects of the source; here the table holds the session itself, and
`setSession` writes a changed session back.
-/

namespace SipGateway

open Infra

/-- `class CallRegistry`. -/
structure CallRegistry where
  calls : Std.ExtTreeMap Bytes CallSession := ∅
  portMap : Std.ExtTreeMap Int Bytes := ∅
  callToPorts : Std.ExtTreeMap Bytes (List Int) := ∅

namespace CallRegistry

/-- `addCall`; a call that is there already stays. -/
def addCall (reg : CallRegistry) (callId : Bytes) (session : CallSession) : CallRegistry × Bool :=
  if callId ∈ reg.calls then (reg, false)
  else ({ reg with calls := reg.calls.insert callId session }, true)

def getCall (reg : CallRegistry) (callId : Bytes) : Option CallSession := reg.calls[callId]?

/-- `removeCall`: the ports of the call go with it. -/
def removeCall (reg : CallRegistry) (callId : Bytes) : CallRegistry where
  calls := reg.calls.erase callId
  portMap := (dropOwner reg.portMap reg.callToPorts callId).1
  callToPorts := (dropOwner reg.portMap reg.callToPorts callId).2

def registerRtpPort (reg : CallRegistry) (port : Int) (callId : Bytes) : CallRegistry :=
  { reg with
    portMap := (assign reg.portMap reg.callToPorts port callId).1
    callToPorts := (assign reg.portMap reg.callToPorts port callId).2 }

def getCallByPort (reg : CallRegistry) (port : Int) : Option CallSession :=
  match reg.portMap[port]? with
  | some callId => reg.calls[callId]?
  | none => none

def count (reg : CallRegistry) : Nat := reg.calls.size

/-- A change to the session object registered under the Call-ID, if there is one. -/
def setSession (reg : CallRegistry) (callId : Bytes) (session : CallSession) : CallRegistry :=
  if callId ∈ reg.calls then { reg with calls := reg.calls.insert callId session } else reg

/-! ## Lookups after an update -/

section Lookup

variable (reg : CallRegistry) (c c' : Bytes) (p p' : Int) (s : CallSession)

theorem getCall_addCall :
    (reg.addCall c s).1.getCall c' =
      if c' = c ∧ reg.getCall c = none then some s else reg.getCall c' := by
  unfold addCall getCall
  split
  · next hmem =>
    obtain ⟨v, hv⟩ := (mem_iff_exists_getElem? _ _).mp hmem
    rw [hv, if_neg (by simp)]
  · next hmem =>
    rw [(not_mem_iff_getElem?_none _ _).mp hmem, getElem?_insert_key]
    simp only [and_true]

@[simp] theorem addCall_portMap : (reg.addCall c s).1.portMap = reg.portMap := by
  unfold addCall; split <;> rfl

@[simp] theorem addCall_callToPorts : (reg.addCall c s).1.callToPorts = reg.callToPorts := by
  unfold addCall; split <;> rfl

theorem getCall_removeCall :
    (reg.removeCall c).getCall c' = if c' = c then none else reg.getCall c' :=
  getElem?_erase_key _ _ _

@[simp] theorem getCall_registerRtpPort :
    (reg.registerRtpPort p c).getCall c' = reg.getCall c' := rfl

theorem portMap_registerRtpPort :
    (reg.registerRtpPort p c).portMap[p']? = if p' = p then some c else reg.portMap[p']? :=
  getElem?_insert_key _ _ _ _

theorem getCall_setSession :
    (reg.setSession c s).getCall c' =
      if c' = c then (reg.getCall c).map fun _ => s else reg.getCall c' := by
  unfold setSession getCall
  split
  · next hmem =>
    obtain ⟨v, hv⟩ := (mem_iff_exists_getElem? _ _).mp hmem
    rw [hv, getElem?_insert_key]
    rfl
  · next hmem =>
    rw [(not_mem_iff_getElem?_none _ _).mp hmem]
    split
    · next he => rw [he, (not_mem_iff_getElem?_none _ _).mp hmem]; rfl
    · rfl

@[simp] theorem setSession_portMap : (reg.setSession c s).portMap = reg.portMap := by
  unfold setSession; split <;> rfl

@[simp] theorem setSession_callToPorts :
    (reg.setSession c s).callToPorts = reg.callToPorts := by
  unfold setSession; split <;> rfl

theorem getCallByPort_of {reg : CallRegistry} {p : Int} {c : Bytes}
    (h : reg.portMap[p]? = some c) : reg.getCallByPort p = reg.getCall c := by
  unfold getCallByPort
  rw [h]
  rfl

end Lookup

/-! ## The invariant of the three tables -/

/-- The two port tables are each other's inverse, and every port is one of a registered call. -/
structure Consistent (reg : CallRegistry) : Prop where
  inverse : Inverse reg.portMap reg.callToPorts
  registered : ∀ (p : Int) (c : Bytes), reg.portMap[p]? = some c → ∃ s, reg.getCall c = some s

theorem Consistent.empty : Consistent {} where
  inverse := Inverse.empty
  registered p c h := by simp at h

theorem Consistent.addCall {reg : CallRegistry} (h : reg.Consistent) (c : Bytes)
    (s : CallSession) : (reg.addCall c s).1.Consistent where
  inverse := by rw [addCall_portMap, addCall_callToPorts]; exact h.inverse
  registered p c' hp := by
    rw [addCall_portMap] at hp
    obtain ⟨s', hs'⟩ := h.registered p c' hp
    rw [getCall_addCall]
    split
    · exact ⟨s, rfl⟩
    · exact ⟨s', hs'⟩

theorem Consistent.setSession {reg : CallRegistry} (h : reg.Consistent) (c : Bytes)
    (s : CallSession) : (reg.setSession c s).Consistent where
  inverse := by rw [setSession_portMap, setSession_callToPorts]; exact h.inverse
  registered p c' hp := by
    rw [setSession_portMap] at hp
    obtain ⟨s', hs'⟩ := h.registered p c' hp
    rw [getCall_setSession]
    split
    · next he => rw [← he, hs']; exact ⟨s, rfl⟩
    · exact ⟨s', hs'⟩

/-- A port no call has can be given to a registered one. -/
theorem Consistent.registerRtpPort {reg : CallRegistry} (h : reg.Consistent) {p : Int}
    {c : Bytes} {s : CallSession} (hp : reg.portMap[p]? = none) (hc : reg.getCall c = some s) :
    (reg.registerRtpPort p c).Consistent where
  inverse := h.inverse.assign hp c
  registered p' c' hp' := by
    rw [portMap_registerRtpPort] at hp'
    rw [getCall_registerRtpPort]
    split at hp'
    · cases hp'; exact ⟨s, hc⟩
    · exact h.registered p' c' hp'

theorem portMap_removeCall {reg : CallRegistry} (h : reg.Consistent) (c : Bytes) (p : Int) :
    (reg.removeCall c).portMap[p]? =
      if reg.portMap[p]? = some c then none else reg.portMap[p]? :=
  getElem?_dropOwner h.inverse c p

theorem Consistent.removeCall {reg : CallRegistry} (h : reg.Consistent) (c : Bytes) :
    (reg.removeCall c).Consistent where
  inverse := h.inverse.dropOwner c
  registered p c' hp := by
    rw [portMap_removeCall h] at hp
    split at hp
    · cases hp
    · next hne =>
      obtain ⟨s, hs⟩ := h.registered p c' hp
      refine ⟨s, ?_⟩
      rw [getCall_removeCall, if_neg, hs]
      exact fun he => hne (he ▸ hp)

/-- A call that is not registered has no ports. -/
theorem Consistent.no_ports {reg : CallRegistry} (h : reg.Consistent) {c : Bytes}
    (hc : reg.getCall c = none) : reg.callToPorts[c]? = none := by
  cases hl : reg.callToPorts[c]? with
  | none => rfl
  | some ports =>
    cases ports with
    | nil => exact absurd hl (h.inverse.nonempty c)
    | cons p ps =>
      have hp : p ∈ keysOf reg.callToPorts c := by simp [keysOf, hl]
      obtain ⟨s, hs⟩ := h.registered p c ((h.inverse.listed p c).mp hp)
      rw [hc] at hs
      cases hs

/-- **What is added for a call that was not there, `removeCall` takes out again.** -/
theorem removeCall_addCall {reg : CallRegistry} (h : reg.Consistent) {c : Bytes}
    (hc : reg.getCall c = none) (s : CallSession) : (reg.addCall c s).1.removeCall c = reg := by
  unfold addCall
  rw [if_neg ((not_mem_iff_getElem?_none _ _).mpr hc)]
  unfold removeCall dropOwner
  have hports := h.no_ports hc
  have hkeys : keysOf reg.callToPorts c = [] := by rw [keysOf, hports]; rfl
  dsimp only
  rw [erase_insert_of_not_mem hc, hkeys, erase_of_not_mem hports]
  rfl

/-- The same with a port registered in between. -/
theorem removeCall_registerRtpPort_addCall {reg : CallRegistry} (h : reg.Consistent) {c : Bytes}
    (hc : reg.getCall c = none) (s : CallSession) {p : Int} (hp : reg.portMap[p]? = none) :
    ((reg.addCall c s).1.registerRtpPort p c).removeCall c = reg := by
  unfold addCall
  rw [if_neg ((not_mem_iff_getElem?_none _ _).mpr hc)]
  unfold removeCall registerRtpPort dropOwner assign
  have hports := h.no_ports hc
  have hkeys : keysOf reg.callToPorts c = [] := by rw [keysOf, hports]; rfl
  dsimp only
  rw [keysOf_insert, if_pos rfl, hkeys, List.nil_append, List.foldl_cons, List.foldl_nil,
    erase_insert_of_not_mem hc, erase_insert_of_not_mem hp, erase_insert_of_not_mem hports]

end CallRegistry

end SipGateway
