import SipGateway.Sip.Parser

/-!
# Server transactions

`SipTransaction.cpp`. A transaction is created for every executed request; it remembers the
last response and moves through `TransactionState`.

Times are readings of `steady_clock` in nanoseconds.
-/

namespace SipGateway

open Infra

/-- `enum class TransactionState`. -/
inductive TransactionState where
  | trying
  | proceeding
  | completed
  | confirmed
  | terminated
deriving DecidableEq, Repr

/-- `class SipTransaction`. -/
structure SipTransaction where
  branch : Bytes
  method : Bytes
  state : TransactionState := .trying
  lastResponse : Option SipMessage := none
  lastActive : Nat
deriving DecidableEq

namespace SipTransaction

/-- The constructor. -/
def create (req : SipMessage) (now : Nat) : SipTransaction :=
  { branch := req.getBranch, method := req.methodStr, lastActive := now }

def isInviteTransaction (tx : SipTransaction) : Bool := tx.method = bytes "INVITE"

/-- Whether the state still takes a response of ours. -/
def isOpen (tx : SipTransaction) : Bool := tx.state = .trying || tx.state = .proceeding

def sendResponse (tx : SipTransaction) (res : SipMessage) (now : Nat) : SipTransaction :=
  let tx := { tx with lastActive := now, lastResponse := some res }
  if tx.isInviteTransaction then
    if tx.isOpen then
      if 100 ≤ res.statusCode ∧ res.statusCode < 200 then { tx with state := .proceeding }
      else if 200 ≤ res.statusCode ∧ res.statusCode < 300 then { tx with state := .terminated }
      else if 300 ≤ res.statusCode ∧ res.statusCode ≤ 699 then { tx with state := .completed }
      else tx
    else tx
  else if tx.isOpen then
    if 200 ≤ res.statusCode ∧ res.statusCode ≤ 699 then { tx with state := .completed }
    else if 100 ≤ res.statusCode ∧ res.statusCode < 200 then { tx with state := .proceeding }
    else tx
  else tx

def receiveRequest (tx : SipTransaction) (msg : SipMessage) (now : Nat) : SipTransaction :=
  let tx := { tx with lastActive := now }
  if tx.isInviteTransaction then
    if msg.method = .ack ∧ (tx.state = .completed ∨ tx.state = .confirmed) then
      { tx with state := .confirmed }
    else tx
  else tx

def receiveResponse (tx : SipTransaction) (msg : SipMessage) (now : Nat) : SipTransaction :=
  let tx := { tx with lastActive := now }
  if !tx.isInviteTransaction then
    if 200 ≤ msg.statusCode ∧ msg.statusCode ≤ 699 then { tx with state := .completed } else tx
  else
    if 200 ≤ msg.statusCode ∧ msg.statusCode ≤ 299 then { tx with state := .terminated }
    else if 300 ≤ msg.statusCode ∧ msg.statusCode ≤ 699 then { tx with state := .completed }
    else tx

/-- Both kinds of transaction answer a retransmission in PROCEEDING and COMPLETED only. -/
def shouldResendResponse (tx : SipTransaction) (req : SipMessage) : Bool :=
  if req.getBranch ≠ tx.branch then false
  else if tx.isInviteTransaction then tx.state = .proceeding || tx.state = .completed
  else tx.state = .proceeding || tx.state = .completed

/-! ## What the operations leave alone -/

section Frame

variable (tx : SipTransaction) (msg : SipMessage) (now : Nat)

@[simp] theorem sendResponse_branch : (tx.sendResponse msg now).branch = tx.branch := by
  unfold sendResponse; grind

@[simp] theorem sendResponse_method : (tx.sendResponse msg now).method = tx.method := by
  unfold sendResponse; grind

@[simp] theorem sendResponse_lastResponse :
    (tx.sendResponse msg now).lastResponse = some msg := by
  unfold sendResponse; grind

@[simp] theorem sendResponse_lastActive : (tx.sendResponse msg now).lastActive = now := by
  unfold sendResponse; grind

@[simp] theorem receiveRequest_branch : (tx.receiveRequest msg now).branch = tx.branch := by
  unfold receiveRequest; grind

@[simp] theorem receiveRequest_method : (tx.receiveRequest msg now).method = tx.method := by
  unfold receiveRequest; grind

@[simp] theorem receiveRequest_lastResponse :
    (tx.receiveRequest msg now).lastResponse = tx.lastResponse := by
  unfold receiveRequest; grind

@[simp] theorem receiveRequest_lastActive : (tx.receiveRequest msg now).lastActive = now := by
  unfold receiveRequest; grind

@[simp] theorem receiveResponse_branch : (tx.receiveResponse msg now).branch = tx.branch := by
  unfold receiveResponse; grind

@[simp] theorem receiveResponse_method : (tx.receiveResponse msg now).method = tx.method := by
  unfold receiveResponse; grind

@[simp] theorem receiveResponse_lastResponse :
    (tx.receiveResponse msg now).lastResponse = tx.lastResponse := by
  unfold receiveResponse; grind

@[simp] theorem receiveResponse_lastActive : (tx.receiveResponse msg now).lastActive = now := by
  unfold receiveResponse; grind

end Frame

end SipTransaction

end SipGateway
