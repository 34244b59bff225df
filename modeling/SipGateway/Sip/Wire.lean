import SipGateway.Infra.Text
import SipGateway.Sip.Parser

/-!
# SIP messages on the wire

`SipMessage::toString`, and what `SipParser::parse` makes of a response it has written.

The Content-Length that `toString` adds is, for the parser, one more field behind the others.
So the text is a first line, a list of fields, an empty line and the body, and the parser is
followed over the list of fields by induction.
-/

namespace SipGateway

open Infra

namespace SipMessage

/-- `"\r\n"`. -/
def crlf : Bytes := [cr, nl]

/-- The first line, without its line end. -/
def startLine (msg : SipMessage) : Bytes :=
  if msg.isRequest then msg.methodStr ++ [sp] ++ msg.uri ++ [sp] ++ msg.version
  else msg.version ++ [sp] ++ decimal msg.statusCode ++ [sp] ++ msg.statusPhrase

/-- `oss << name << ": " << value << "\r\n"` for one field after the other. -/
def fieldsText (fields : List (Bytes × Bytes)) : Bytes :=
  fields.flatMap fun f => f.1 ++ bytes ": " ++ f.2 ++ crlf

/-- `SipMessage::toString`. -/
def toString (msg : SipMessage) : Bytes :=
  msg.startLine ++ crlf ++ fieldsText msg.headers.entries
    ++ (if msg.getHeader (bytes "Content-Length") = none then
        bytes "Content-Length: " ++ natDecimal msg.body.length ++ crlf
      else [])
    ++ crlf ++ msg.body

theorem fieldsText_append (fields more : List (Bytes × Bytes)) :
    fieldsText (fields ++ more) = fieldsText fields ++ fieldsText more := List.flatMap_append

/-! ## Header fields -/

@[simp] theorem equalRange_addHeader (msg : SipMessage) (name value k : Bytes) :
    (msg.addHeader name value).headers.equalRange k
      = msg.headers.equalRange k ++ if name.map toLower = k then [value] else [] :=
  Multimap.equalRange_insert _ _ _ _

/-- `getHeader` is the first of the fields of that name. -/
theorem getHeader_eq_head? (msg : SipMessage) (name : Bytes) :
    msg.getHeader name = (msg.headers.equalRange (name.map toLower)).head? :=
  Multimap.find?_eq_head? _ _

/-- A name that the parser reads back: without a colon, a line break or blanks around it. -/
def IsFieldName (name : Bytes) : Prop :=
  colon ∉ name ∧ nl ∉ name ∧ trim name = name ∧ SipParser.isFolded (name ++ [colon]) = false

instance (name : Bytes) : Decidable (IsFieldName name) := inferInstanceAs (Decidable (_ ∧ _))

/-- What `toString` writes so that `parse` gets it back. -/
structure Sendable (res : SipMessage) : Prop where
  response : res.isRequest = false
  version : res.version = bytes "SIP/2.0"
  code : 0 ≤ res.statusCode ∧ res.statusCode < 2 ^ 31
  phrase : nl ∉ res.statusPhrase
  names : ∀ f ∈ res.headers.entries, IsFieldName f.1 ∧ f.1.map toLower = f.1
  values : ∀ f ∈ res.headers.entries, nl ∉ f.2
  noLength : ∀ f ∈ res.headers.entries, f.1 ≠ bytes "content-length"
  body : res.body.length < 2 ^ 31

/-- The fields as they stand on the wire. -/
def wireFields (res : SipMessage) : List (Bytes × Bytes) :=
  res.headers.entries ++ [(bytes "Content-Length", natDecimal res.body.length)]

theorem Sendable.toString_eq {res : SipMessage} (h : res.Sendable) :
    res.toString = (res.startLine ++ [cr]) ++ nl ::
      (fieldsText res.wireFields ++ ([cr] ++ nl :: res.body)) := by
  have hnone : res.getHeader (bytes "Content-Length") = none := by
    unfold getHeader Multimap.find?
    rw [Option.map_eq_none_iff, List.find?_eq_none]
    intro f hf hname
    exact h.noLength f hf (of_decide_eq_true hname)
  unfold toString wireFields
  rw [if_pos hnone, fieldsText_append]
  simp [fieldsText, crlf, bytes]

end SipMessage

namespace SipParser

open SipMessage

/-! ## The first line -/

/-- **A status line is read back.** -/
theorem parseFirstLine_status {code : Nat} (hcode : code < 2 ^ 31) (phrase : Bytes) :
    parseFirstLine (bytes "SIP/2.0" ++ [sp] ++ natDecimal code ++ [sp] ++ phrase)
      = .ok (some { isRequest := false, statusCode := code, statusPhrase := phrase }) := by
  have hsp : sp ∉ natDecimal code := not_mem_natDecimal (by decide) code
  have hassoc : bytes "SIP/2.0" ++ [sp] ++ natDecimal code ++ [sp] ++ phrase
      = bytes "SIP/2.0" ++ [sp] ++ natDecimal code ++ sp :: phrase := by simp
  rw [hassoc]
  generalize hline : bytes "SIP/2.0" ++ [sp] ++ natDecimal code ++ sp :: phrase = line
  have hfirst : findByte sp line 0 = some 7 :=
    findByte_eq_some.mpr ⟨bytes "SIP/2.0", natDecimal code ++ sp :: phrase,
      by rw [← hline]; simp, by decide, rfl⟩
  have hsecond : findByte sp line (7 + 1) = some (8 + (natDecimal code).length) := by
    rw [← hline]
    exact findByte_append (bytes "SIP/2.0" ++ [sp]) _ phrase hsp
  have hlen : line.length = 8 + (natDecimal code).length + 1 + phrase.length := by
    rw [← hline]
    simp only [List.length_append, List.length_cons, List.length_nil,
      show (bytes "SIP/2.0").length = 7 from rfl]
    omega
  have hdrop : line.drop 8 = natDecimal code ++ sp :: phrase := by
    rw [← hline, List.append_assoc]
    rfl
  have hcodeText : substr line (7 + 1) (8 + (natDecimal code).length - 7 - 1)
      = .ok (natDecimal code) := by
    rw [substr_of_le _ (by omega), hdrop,
      show 8 + (natDecimal code).length - 7 - 1 = (natDecimal code).length by omega,
      List.take_left]
  have hphrase : substrFrom line (8 + (natDecimal code).length + 1) = .ok phrase := by
    rw [substrFrom_of_le (by omega),
      show 8 + (natDecimal code).length + 1 = 8 + ((natDecimal code).length + 1) by omega,
      ← List.drop_drop, hdrop, ← List.drop_drop, List.drop_left]
    rfl
  have hstatus : statusLine line 7 (8 + (natDecimal code).length) = .ok ((code : Int), phrase) := by
    unfold statusLine
    rw [hcodeText, hphrase]
    simp only [bind, Except.bind, stoi_natDecimal hcode, pure, Except.pure]
  have hprefix : (bytes "SIP/2.0").isPrefixOf line = true := by
    rw [List.isPrefixOf_iff_prefix, ← hline, List.append_assoc, List.append_assoc]
    exact List.prefix_append _ _
  unfold parseFirstLine parseStatusLine
  rw [if_pos hprefix, hfirst]
  simp only [hsecond, hstatus]

/-! ## The fields -/

/-- What the header loop makes of one field. -/
def readField (st : HeaderState) (f : Bytes × Bytes) : HeaderState where
  msg := st.msg.addHeader f.1 (trim f.2)
  lastName := f.1.map toLower
  contentLength :=
    if f.1.map toLower = bytes "content-length" then contentLengthOf (trim f.2)
    else st.contentLength

theorem headerLine_field {name : Bytes} (h : IsFieldName name) (st : HeaderState) (value : Bytes) :
    headerLine st (name ++ bytes ": " ++ value) = .ok (readField st (name, value)) := by
  obtain ⟨hcolon, -, htrim, hfold⟩ := h
  have hline : name ++ bytes ": " ++ value = name ++ colon :: sp :: value := by
    rw [List.append_assoc]
    rfl
  have hnot : isFolded (name ++ colon :: sp :: value) = false := by
    cases name with
    | nil => rfl
    | cons c name => exact hfold
  have hpos : findByte colon (name ++ colon :: sp :: value) 0 = some name.length :=
    findByte_eq_some.mpr ⟨name, sp :: value, rfl, hcolon, rfl⟩
  have hname : substr (name ++ colon :: sp :: value) 0 name.length = .ok name := by
    rw [substr_of_le _ (Nat.zero_le _), List.drop_zero, List.take_left]
  have hvalue : substrFrom (name ++ colon :: sp :: value) (name.length + 1)
      = .ok (sp :: value) := by
    rw [substrFrom_of_le (by simp), ← List.drop_drop, List.drop_left]
    rfl
  rw [hline]
  unfold headerLine
  rw [hnot, if_neg Bool.false_ne_true, hpos]
  simp only [hname, hvalue, bind, Except.bind, pure, Except.pure, htrim,
    trim_cons_blank (show isBlank sp = true from rfl)]
  rfl

/-- **The header loop reads the fields one after the other**, then goes on behind them. -/
theorem headerLoop_fields (tail : Bytes) : ∀ (fields : List (Bytes × Bytes)) (st : HeaderState),
    (∀ f ∈ fields, IsFieldName f.1 ∧ nl ∉ f.2) →
    headerLoop (getlines (fieldsText fields ++ tail)) st
      = headerLoop (getlines tail) (fields.foldl readField st)
  | [], st, _ => rfl
  | (name, value) :: fields, st, h => by
    obtain ⟨hname, hvalue⟩ := h (name, value) List.mem_cons_self
    have hrest : ∀ f ∈ fields, IsFieldName f.1 ∧ nl ∉ f.2 :=
      fun f hf => h f (List.mem_cons_of_mem _ hf)
    have hnl : nl ∉ name ++ bytes ": " ++ value ++ [cr] := by
      simp only [List.mem_append, not_or]
      exact ⟨⟨⟨hname.2.1, by decide⟩, hvalue⟩, by decide⟩
    have htext : fieldsText ((name, value) :: fields) ++ tail
        = (name ++ bytes ": " ++ value ++ [cr]) ++ nl :: (fieldsText fields ++ tail) := by
      simp [fieldsText, crlf]
    have hne : ¬ (name ++ bytes ": " ++ value).isEmpty = true := by
      simp [bytes]
    rw [htext, getlines_append_nl hnl, headerLoop]
    simp only [stripCr_append_cr]
    rw [if_neg hne, headerLine_field hname]
    exact headerLoop_fields tail fields (readField st (name, value)) hrest

/-- What reading fields adds to the fields of one name. -/
theorem equalRange_foldl_readField (k : Bytes) (fields : List (Bytes × Bytes)) :
    ∀ st : HeaderState, (fields.foldl readField st).msg.headers.equalRange k
      = st.msg.headers.equalRange k
        ++ ((fields.filter fun f => f.1.map toLower = k).map fun f => trim f.2) := by
  induction fields with
  | nil =>
    intro st
    simp
  | cons f fields ih =>
    intro st
    rw [List.foldl_cons, ih, List.filter_cons]
    unfold readField
    rw [equalRange_addHeader, List.append_assoc]
    by_cases hk : f.1.map toLower = k
    · simp [hk]
    · simp [hk]

/-- Reading fields leaves the first line as it was. -/
theorem foldl_readField_start (fields : List (Bytes × Bytes)) :
    ∀ st : HeaderState, (fields.foldl readField st).msg.isRequest = st.msg.isRequest ∧
      (fields.foldl readField st).msg.statusCode = st.msg.statusCode ∧
      (fields.foldl readField st).msg.statusPhrase = st.msg.statusPhrase := by
  induction fields with
  | nil => exact fun st => ⟨rfl, rfl, rfl⟩
  | cons f fields ih => exact fun st => ih (readField st f)

/-! ## The whole message -/

/-- What comes back of a response: all of it, each field value without the blanks around it. -/
structure ReadBack (res back : SipMessage) : Prop where
  response : back.isRequest = false
  code : back.statusCode = res.statusCode
  phrase : back.statusPhrase = res.statusPhrase
  body : back.body = res.body
  fields : ∀ k ≠ bytes "content-length",
    back.headers.equalRange k = (res.headers.equalRange k).map trim

section Sendable

variable {res : SipMessage} (h : res.Sendable)
include h

theorem wireFields_readable : ∀ f ∈ res.wireFields, IsFieldName f.1 ∧ nl ∉ f.2 := by
  intro f hf
  rcases List.mem_append.mp hf with hf | hf
  · exact ⟨(h.names f hf).1, h.values f hf⟩
  · rw [List.mem_singleton] at hf
    rw [hf]
    exact ⟨show IsFieldName (bytes "Content-Length") by decide, not_mem_natDecimal (by decide) _⟩

/-- The Content-Length stands last, so it is the one that counts. -/
theorem contentLength_wireFields (st : HeaderState) :
    (res.wireFields.foldl readField st).contentLength = res.body.length := by
  unfold wireFields
  rw [List.foldl_append, List.foldl_cons, List.foldl_nil]
  unfold readField
  simp only [trim_natDecimal, contentLengthOf, stoi_natDecimal h.body]
  exact if_pos (by decide)

/-- On the wire stand the fields of the message, and the Content-Length. -/
theorem filter_wireFields {k : Bytes} (hk : k ≠ bytes "content-length") :
    res.wireFields.filter (fun f => f.1.map toLower = k)
      = res.headers.entries.filter (fun f => f.1 = k) := by
  have hlast : ¬ (bytes "Content-Length").map toLower = k := by
    intro he
    exact hk (he ▸ by decide)
  have hnone : [(bytes "Content-Length", natDecimal res.body.length)].filter
      (fun f => f.1.map toLower = k) = [] := by
    rw [List.filter_cons_of_neg (by simpa using hlast), List.filter_nil]
  unfold wireFields
  rw [List.filter_append, hnone, List.append_nil]
  refine List.filter_congr fun f hf => ?_
  rw [(h.names f hf).2]

/-- **The parser reads a response back from its text.** -/
theorem parse_toString :
    ∃ back, parse res.toString = .ok (some back) ∧ ReadBack res back := by
  obtain ⟨code, hcode⟩ := Int.eq_ofNat_of_zero_le h.code.1
  have hlt : code < 2 ^ 31 := by
    have := h.code.2
    omega
  have hstart : res.startLine
      = bytes "SIP/2.0" ++ [sp] ++ natDecimal code ++ [sp] ++ res.statusPhrase := by
    unfold startLine
    rw [h.response, if_neg Bool.false_ne_true, h.version, hcode]
    rfl
  have hnl : nl ∉ res.startLine ++ [cr] := by
    rw [hstart]
    simp only [List.mem_append, not_or]
    exact ⟨⟨⟨⟨⟨by decide, by decide⟩, not_mem_natDecimal (by decide) code⟩, by decide⟩, h.phrase⟩,
      by decide⟩
  let start : HeaderState :=
    { msg := { isRequest := false, statusCode := code, statusPhrase := res.statusPhrase } }
  have hloop : headerLoop (getlines (fieldsText res.wireFields ++ ([cr] ++ nl :: res.body))) start
      = .ok (res.wireFields.foldl readField start, res.body) := by
    rw [headerLoop_fields _ _ _ (wireFields_readable h), getlines_append_nl (by decide), headerLoop]
    rfl
  have hbody : (if (res.body.length : Int) > 0 then res.body.take (res.body.length : Int).toNat
      else []) = res.body := by
    split
    · rw [Int.toNat_natCast, List.take_length]
    · next hzero =>
      have : res.body.length = 0 := by omega
      exact (List.length_eq_zero_iff.mp this).symm
  refine ⟨{ (res.wireFields.foldl readField start).msg with body := res.body }, ?_, ?_⟩
  · unfold parse
    rw [h.toString_eq, getlines_append_nl hnl]
    simp only [stripCr_append_cr]
    rw [hstart, parseFirstLine_status hlt]
    show (headerLoop _ start >>= _) = _
    rw [hloop]
    simp only [bind, Except.bind, pure, Except.pure, contentLength_wireFields h, hbody]
  · obtain ⟨hresponse, hcode', hphrase⟩ := foldl_readField_start res.wireFields start
    refine ⟨hresponse, hcode'.trans hcode.symm, hphrase, rfl, ?_⟩
    intro k hk
    show (res.wireFields.foldl readField start).msg.headers.equalRange k = _
    rw [equalRange_foldl_readField, filter_wireFields h hk]
    unfold Multimap.equalRange
    rw [List.map_map]
    rfl

end Sendable

end SipParser

end SipGateway
