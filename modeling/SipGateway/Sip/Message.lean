import SipGateway.Infra.Bytes
import SipGateway.Infra.Multimap

/-!
# SIP messages

`SipMessage.h` / `SipMessage.cpp`: the record both parser and response builder fill,
and the accessors that read single header fields.

The cuts of the accessors start behind something `find` has found, so unlike those of the
parsers they are written without the exception of `substr`.
-/

namespace SipGateway

open Infra

/-- `enum class SipMethod`. -/
inductive SipMethod where
  | invite
  | ack
  | bye
  | cancel
  | options
  | refer
  | unknown
deriving DecidableEq, Repr

/-- `class SipMessage`. -/
structure SipMessage where
  isRequest : Bool := false
  method : SipMethod := .unknown
  methodStr : Bytes := []
  uri : Bytes := []
  version : Bytes := bytes "SIP/2.0"
  statusCode : Int := 0
  statusPhrase : Bytes := []
  headers : Multimap Bytes Bytes := Multimap.empty
  body : Bytes := []
deriving DecidableEq

namespace SipMessage

/-- Header names are kept in lower case. -/
def addHeader (msg : SipMessage) (name value : Bytes) : SipMessage :=
  { msg with headers := msg.headers.insert (name.map toLower) value }

def getHeader (msg : SipMessage) (name : Bytes) : Option Bytes :=
  msg.headers.find? (name.map toLower)

def getCallId (msg : SipMessage) : Bytes := (msg.getHeader (bytes "Call-ID")).getD []

/-- The text between `branch=` and the next `;` of the first Via. -/
def getBranch (msg : SipMessage) : Bytes :=
  let via := (msg.getHeader (bytes "Via")).getD []
  match findStr (bytes "branch=") via with
  | none => []
  | some pos =>
    match findByte semicolon via pos with
    | none => via.drop (pos + 7)
    | some last => (via.drop (pos + 7)).take (last - (pos + 7))

/-- The text behind the first blank of the CSeq, where `getCSeqMethod` looks for a method. -/
def getCSeqMethodStr (msg : SipMessage) : Bytes :=
  let cseq := (msg.getHeader (bytes "CSeq")).getD []
  match findByte sp cseq 0 with
  | none => []
  | some pos => cseq.drop (pos + 1)

/-- `static extractUserFromUri`: the user of `<sip:user@host>` or `sip:user@host`. -/
def extractUserFromUri (uri : Bytes) : Bytes :=
  match findStr (bytes "sip:") uri with
  | none => []
  | some pos =>
    let start := pos + 4
    let last := match findByte 64 uri start with
      | some i => i
      | none => (findByte 62 uri start).getD uri.length
    (uri.drop start).take (last - start)

def getFromUser (msg : SipMessage) : Bytes :=
  extractUserFromUri ((msg.getHeader (bytes "From")).getD [])

def getToUser (msg : SipMessage) : Bytes :=
  extractUserFromUri ((msg.getHeader (bytes "To")).getD [])

end SipMessage

/-! ## Building responses -/

namespace SipResponseBuilder

/--
`SipResponseBuilder::createResponse`.

`sysNow` is the count of `system_clock` the generated To tag is taken from.
`toString` adds the Content-Length later.
-/
def createResponse (sysNow : Nat) (req : SipMessage) (code : Int) (phrase : Bytes) : SipMessage :=
  let res : SipMessage :=
    { isRequest := false, version := req.version, statusCode := code, statusPhrase := phrase }
  let res := (req.headers.equalRange (bytes "via")).foldl
    (fun res via => res.addHeader (bytes "Via") via) res
  let res := match req.getHeader (bytes "From") with
    | some value => res.addHeader (bytes "From") value
    | none => res
  let res := match req.getHeader (bytes "To") with
    | some value =>
      let toVal := if code ≥ 200 ∧ findStr (bytes "tag=") value = none then
          value ++ bytes ";tag=gen" ++ natDecimal (sysNow % 1000000)
        else value
      res.addHeader (bytes "To") toVal
    | none => res
  let res := match req.getHeader (bytes "Call-ID") with
    | some value => res.addHeader (bytes "Call-ID") value
    | none => res
  let res := match req.getHeader (bytes "CSeq") with
    | some value => res.addHeader (bytes "CSeq") value
    | none => res
  res.addHeader (bytes "User-Agent") (bytes "SIP-RTP-Gateway")

end SipResponseBuilder

/-! ## What building a response leaves alone -/

@[simp] theorem SipMessage.addHeader_statusCode (msg : SipMessage) (name value : Bytes) :
    (msg.addHeader name value).statusCode = msg.statusCode := rfl

@[simp] theorem SipMessage.addHeader_body (msg : SipMessage) (name value : Bytes) :
    (msg.addHeader name value).body = msg.body := rfl

theorem foldl_addHeader_statusCode (name : Bytes) (vias : List Bytes) (res : SipMessage) :
    (vias.foldl (fun res via => res.addHeader name via) res).statusCode = res.statusCode := by
  induction vias generalizing res with
  | nil => rfl
  | cons via vias ih =>
    rw [List.foldl_cons, ih]
    rfl

/-- A response carries the status code it was asked for. -/
@[simp] theorem createResponse_statusCode (sysNow : Nat) (req : SipMessage) (code : Int)
    (phrase : Bytes) :
    (SipResponseBuilder.createResponse sysNow req code phrase).statusCode = code := by
  simp only [SipResponseBuilder.createResponse, SipMessage.addHeader_statusCode]
  split <;> split <;> split <;> split <;>
    simp only [SipMessage.addHeader_statusCode, foldl_addHeader_statusCode]

end SipGateway
