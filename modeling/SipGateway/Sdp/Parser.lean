import SipGateway.Infra.Bytes

/-!
# The SDP parser

`SdpParser.cpp`. Every line is handled on its own; a session keeps one connection address and
one rtpmap table for all its media.

The number of an `a=rtpmap:` line goes through an unguarded `std::stoi`, so `parse` can throw.
-/

namespace SipGateway

open Infra

/-- `struct SdpMedia`. -/
structure SdpMedia where
  type : Bytes := []
  port : Int := 0
  proto : Bytes := []
  payloadTypes : List Int := []
deriving DecidableEq

/-- `struct SdpSession`. -/
structure SdpSession where
  version : Bytes := []
  origin : Bytes := []
  sessionName : Bytes := []
  connectionIp : Bytes := []
  media : List SdpMedia := []
  rtpMap : Std.ExtTreeMap Int Bytes := ∅

namespace SdpParser

/-- A line `type=value`, trimmed. -/
def splitLine (line : Bytes) : Option (UInt8 × Bytes) :=
  match trim line with
  | type :: eq :: value => if eq = 61 then some (type, value) else none
  | _ => none

/-- The address of a `c=` line: the text behind the last space, in a line that says `IN IP4`. -/
def connectionAddress (value : Bytes) : Option Bytes :=
  if findStr (bytes "IN IP4") value ≠ none then
    (rfindByte sp value).map fun pos => value.drop (pos + 1)
  else none

/-- An `m=` line, read with `>>`. -/
def parseMedia (value : Bytes) : SdpMedia :=
  let st : IStream := { rest := value }
  let (type, st) := st.word []
  let (port, st) := st.int 0
  let (proto, st) := st.word []
  { type := type, port := port, proto := proto, payloadTypes := st.ints }

/-- What an `a=` line adds to the rtpmap table. -/
def parseRtpmap (value : Bytes) : Except StdException (Option (Int × Bytes)) :=
  if (bytes "rtpmap:").isPrefixOf value then
    match findByte colon value 0, findByte sp value 0 with
    | some pos, some space => do
      let pt ← stoi (← substr value (pos + 1) (space - pos - 1))
      let codec ← substrFrom value (space + 1)
      let codec := match findByte 47 codec 0 with
        | some slash => codec.take slash
        | none => codec
      pure (some (pt, codec))
    | _, _ => .ok none
  else .ok none

/-- The body of the loop. -/
def parseLine (session : SdpSession) (line : Bytes) : Except StdException SdpSession :=
  match splitLine line with
  | none => .ok session
  | some (type, value) =>
    if type = 118 then .ok { session with version := value }
    else if type = 111 then .ok { session with origin := value }
    else if type = 115 then .ok { session with sessionName := value }
    else if type = 99 then
      .ok { session with connectionIp := (connectionAddress value).getD session.connectionIp }
    else if type = 109 then .ok { session with media := session.media ++ [parseMedia value] }
    else if type = 97 then do
      match ← parseRtpmap value with
      | some (pt, codec) => pure { session with rtpMap := session.rtpMap.insert pt codec }
      | none => pure session
    else .ok session

/-- `SdpParser::parse`. It returns a session or throws, never `nullopt`. -/
def parse (sdpBody : Bytes) : Except StdException (Option SdpSession) := do
  let session ← (lines sdpBody).foldlM parseLine {}
  pure (some session)

/-- `parse` has no way to reject a body. -/
theorem parse_some {sdpBody : Bytes} {r : Option SdpSession} (h : parse sdpBody = .ok r) :
    ∃ session, r = some session := by
  unfold parse at h
  cases hf : (lines sdpBody).foldlM parseLine ({} : SdpSession) with
  | error e => rw [hf] at h; simp [bind, Except.bind] at h
  | ok session =>
    rw [hf] at h
    simp only [bind, Except.bind, pure, Except.pure, Except.ok.injEq] at h
    exact ⟨session, h.symm⟩

/-! ## When the parser throws -/

/--
A line that is no `a=rtpmap:` line with a space, or one whose number `std::stoi` takes: the text
between the colon and the first space.
-/
def NumberedRtpmap (line : Bytes) : Prop :=
  ∀ num rest, trim line = bytes "a=rtpmap:" ++ (num ++ sp :: rest) → sp ∉ num →
    ∃ n, stoi num = .ok n

theorem splitLine_eq_some {line : Bytes} {type : UInt8} {value : Bytes} :
    splitLine line = some (type, value) ↔ trim line = type :: 61 :: value := by
  unfold splitLine
  split
  · next t e v h =>
    rw [h]
    by_cases he : e = 61
    · rw [if_pos he, he]
      simp
    · rw [if_neg he]
      simp [he]
  · next h =>
    constructor
    · intro hn; cases hn
    · exact fun he => absurd he (h _ _ _)

/-- What is kept of the text behind the number: the part before the first slash. -/
def encodingName (codec : Bytes) : Bytes :=
  match findByte 47 codec 0 with
  | some slash => codec.take slash
  | none => codec

/-- An rtpmap with a number and a space is read as far as `std::stoi` takes the number. -/
theorem parseRtpmap_eq {num rest : Bytes} (h : sp ∉ num) :
    parseRtpmap (bytes "rtpmap:" ++ (num ++ sp :: rest)) =
      (stoi num).map fun n => some (n, encodingName rest) := by
  set value := bytes "rtpmap:" ++ (num ++ sp :: rest) with hvalue
  have hcolon : findByte colon value 0 = some 6 :=
    findByte_eq_some.mpr ⟨bytes "rtpmap", num ++ sp :: rest, rfl, by decide, rfl⟩
  have hspace : findByte sp value 0 = some (7 + num.length) := by
    refine findByte_eq_some.mpr ⟨bytes "rtpmap:" ++ num, rest, by rw [hvalue, List.append_assoc],
      ?_, by rw [List.length_append]; rfl⟩
    rw [List.mem_append, not_or]
    exact ⟨by decide, h⟩
  have hlen : value.length = 7 + (num.length + (rest.length + 1)) := by
    rw [hvalue, List.length_append, List.length_append, List.length_cons]
    rfl
  have hnum : (value.drop 7).take num.length = num := by
    rw [hvalue, show (7 : Nat) = (bytes "rtpmap:").length from rfl, List.drop_left, List.take_left]
  have hsub : substr value (6 + 1) (7 + num.length - 6 - 1) = .ok num := by
    rw [substr_of_le _ (by omega), show 7 + num.length - 6 - 1 = num.length by omega, hnum]
  have hfrom : substrFrom value (7 + num.length + 1) = .ok rest := by
    rw [substrFrom_of_le (by omega), show 7 + num.length + 1 = 7 + (num.length + 1) by omega,
      ← List.drop_drop, hvalue, show (7 : Nat) = (bytes "rtpmap:").length from rfl,
      List.drop_left, ← List.drop_drop, List.drop_left]
    rfl
  have hprefix : (bytes "rtpmap:").isPrefixOf value = true := by
    rw [List.isPrefixOf_iff_prefix]
    exact List.prefix_append _ _
  unfold parseRtpmap encodingName
  rw [if_pos hprefix, hcolon, hspace]
  dsimp only
  rw [hsub, hfrom]
  cases hn : stoi num <;> simp [bind, Except.bind, pure, Except.pure, Except.map, hn]

/-- The number of an rtpmap, when there is one to be read. -/
theorem parseRtpmap_number {num rest : Bytes} (h : sp ∉ num) :
    (∃ r, parseRtpmap (bytes "rtpmap:" ++ (num ++ sp :: rest)) = .ok r) ↔
      ∃ n, stoi num = .ok n := by
  rw [parseRtpmap_eq h]
  cases stoi num <;> simp [Except.map]

/-- Without a colon and a space to cut at, nothing is read. -/
theorem parseRtpmap_total {value : Bytes}
    (h : ¬ ∃ num rest, value = bytes "rtpmap:" ++ (num ++ sp :: rest) ∧ sp ∉ num) :
    parseRtpmap value = .ok none := by
  unfold parseRtpmap
  by_cases hp : (bytes "rtpmap:").isPrefixOf value = true
  · rw [if_pos hp]
    obtain ⟨tail, rfl⟩ := List.isPrefixOf_iff_prefix.mp hp
    have hspace : findByte sp (bytes "rtpmap:" ++ tail) 0 = none := by
      refine findByte_eq_none.mpr fun hm => h ?_
      rcases List.mem_append.mp hm with hm | hm
      · exact absurd hm (by decide)
      · cases hf : findByte sp tail 0 with
        | none => exact absurd hm (findByte_eq_none.mp hf)
        | some i =>
          obtain ⟨num, rest, htail, hnum, -⟩ := findByte_eq_some.mp hf
          exact ⟨num, rest, by rw [htail], hnum⟩
    rw [hspace]
    split <;> simp_all
  · rw [if_neg hp]

/-- One line: only the number of an rtpmap can throw. -/
theorem parseLine_ok_iff (session : SdpSession) (line : Bytes) :
    (∃ session', parseLine session line = .ok session') ↔ NumberedRtpmap line := by
  have hrtpmap : ∀ num rest, trim line = bytes "a=rtpmap:" ++ (num ++ sp :: rest) →
      splitLine line = some (97, bytes "rtpmap:" ++ (num ++ sp :: rest)) :=
    fun _ _ h => splitLine_eq_some.mpr h
  unfold parseLine
  cases hs : splitLine line with
  | none =>
    refine iff_of_true ⟨session, rfl⟩ fun num rest ht _ => ?_
    rw [hrtpmap num rest ht] at hs
    cases hs
  | some p =>
    obtain ⟨type, value⟩ := p
    dsimp only
    by_cases ha : type = 97
    · subst ha
      rw [if_neg (by decide), if_neg (by decide), if_neg (by decide), if_neg (by decide),
        if_neg (by decide), if_pos rfl]
      have hbind : (∃ session', (parseRtpmap value >>= fun r => match r with
            | some (pt, codec) =>
              pure { session with rtpMap := session.rtpMap.insert pt codec }
            | none => pure session) = Except.ok session') ↔ ∃ r, parseRtpmap value = .ok r := by
        cases parseRtpmap value with
        | error e => simp [bind, Except.bind]
        | ok r => cases r <;> simp [bind, Except.bind, pure, Except.pure]
      refine hbind.trans ?_
      by_cases hv : ∃ num rest, value = bytes "rtpmap:" ++ (num ++ sp :: rest) ∧ sp ∉ num
      · obtain ⟨num, rest, rfl, hnum⟩ := hv
        rw [parseRtpmap_number hnum]
        constructor
        · -- the first space stands in one place, so there is one number to speak of
          intro hok num' rest' ht hnum'
          rw [hrtpmap num' rest' ht] at hs
          simp only [Option.some.injEq, Prod.mk.injEq, true_and] at hs
          have hsame := List.append_cancel_left hs
          have hfirst := findByte_eq_some.mpr ⟨num', rest', rfl, hnum', rfl⟩
          rw [hsame, findByte_eq_some.mpr ⟨num, rest, rfl, hnum, rfl⟩] at hfirst
          have hlen := Option.some.inj hfirst
          rw [(List.append_inj hsame hlen.symm).1]
          exact hok
        · intro hall
          exact hall num rest (splitLine_eq_some.mp hs) hnum
      · refine iff_of_true ⟨none, parseRtpmap_total hv⟩ fun num rest ht hnum => ?_
        rw [hrtpmap num rest ht] at hs
        simp only [Option.some.injEq, Prod.mk.injEq, true_and] at hs
        exact absurd ⟨num, rest, hs.symm, hnum⟩ hv
    · refine iff_of_true ?_ fun num rest ht _ => ?_
      · repeat' split
        all_goals exact ⟨_, rfl⟩
      · rw [hrtpmap num rest ht] at hs
        simp only [Option.some.injEq, Prod.mk.injEq] at hs
        exact absurd hs.1.symm ha

theorem foldlM_parseLine_ok_iff (ls : List Bytes) (session : SdpSession) :
    (∃ session', ls.foldlM parseLine session = .ok session') ↔
      ∀ line ∈ ls, NumberedRtpmap line := by
  induction ls generalizing session with
  | nil => simp [pure, Except.pure]
  | cons line ls ih =>
    rw [List.foldlM_cons, List.forall_mem_cons, ← parseLine_ok_iff session line]
    cases hl : parseLine session line with
    | error e => simp [bind, Except.bind]
    | ok session' =>
      show (∃ r, ls.foldlM parseLine session' = .ok r) ↔ _
      rw [ih session']
      simp

/-- **`parse` throws exactly on a bad rtpmap number.** -/
theorem parse_ok_iff (sdpBody : Bytes) :
    (∃ r, parse sdpBody = .ok r) ↔ ∀ line ∈ lines sdpBody, NumberedRtpmap line := by
  rw [← foldlM_parseLine_ok_iff (lines sdpBody) {}]
  unfold parse
  cases (lines sdpBody).foldlM parseLine ({} : SdpSession) with
  | error e => simp [bind, Except.bind]
  | ok session => simp [bind, Except.bind, pure, Except.pure]

end SdpParser

end SipGateway
