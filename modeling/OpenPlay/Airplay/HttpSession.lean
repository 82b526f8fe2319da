import OpenPlay.Airplay.Response
import OpenPlay.Miracast.Framing

/-!
# Responses of an AirPlay receiver

`read_http_response` of `openplay-airplay`'s `http_session.rs`: headers up to the first blank
line, read piece by piece, and the rest of the body in one more read.  All that came with the
headers is taken for the body, however long it is.

`response_read_iff` says for which streams this is the response that was sent, and the same
however the stream is cut.
-/

namespace OpenPlay.Airplay

open Miracast (Declares IsContentLength)
open Utf8 (IsAscii)

/-! ## The code -/

namespace HttpSession

/-- `find_header_end`. -/
def findHeaderEnd (buf : List UInt8) : Option Nat := Text.find headerEndMark buf

/-- `status_is_success`. -/
def statusIsSuccess (headers : List Char) : Bool :=
  ((Text.lines headers).head?.bind fun line =>
    (Text.words isWhitespace line)[1]?.bind (Text.parseUnsigned 10 UInt16.size)).any fun code =>
      200 ≤ code ∧ code < 300

/-- `parse_content_length`: the first such line decides. -/
def parseContentLength (headers : List Char) : Option Nat :=
  ((Text.lines headers).findSome? fun line =>
    (Text.stripPrefix "Content-Length:".toList line).or
      (Text.stripPrefix "content-length:".toList line)).bind fun val =>
        Text.parseUnsigned 10 UInt64.size (Text.trim isWhitespace val)

/-- What comes behind the bytes of a stream: the peer closes it, it fails, or it stays open. -/
inductive Ending
  | closes
  | fails (e : String)
  | staysOpen
deriving DecidableEq, Repr

inductive HttpError
  | read (e : String)
  | closed
  | tooLarge
  | body (e : String)
deriving DecidableEq, Repr

def HttpError.text : HttpError → String
  | read e => "Read error: " ++ e
  | closed => "Connection closed during HTTP response"
  | tooLarge => "HTTP headers too large"
  | body e => "Failed to read body: " ++ e

/-- What the function returns; `waiting` when it does not, and `capacityOverflow` when it
panics because a `Vec` of the declared length cannot be. -/
inductive HttpResponse
  | ok (headers : List Char) (body : List UInt8)
  | error (e : HttpError)
  | waiting
  | capacityOverflow
deriving DecidableEq, Repr

/-- A read for more of the headers when nothing is left. -/
def Ending.inHeaders : Ending → HttpResponse
  | closes => .error .closed
  | fails e => .error (.read e)
  | staysOpen => .waiting

/-- `read_exact` when less is left than the body needs. -/
def Ending.inBody : Ending → HttpResponse
  | closes => .error (.body "early eof")
  | fails e => .error (.body e)
  | staysOpen => .waiting

/-- The bound on the headers. -/
def maxHeaderBytes : Nat := 64 * 1024

/-- `isize::MAX`, the largest capacity. -/
def maxCapacity : Nat := 2 ^ 63 - 1

/-- What follows the headers: `rest` is what has not been read. -/
def readBody (headerEnd : Nat) (buf rest : List UInt8) (ending : Ending) : HttpResponse :=
  let headers := Utf8.decodeLossy (buf.take headerEnd)
  let contentLength := (parseContentLength headers).getD 0
  let bodyStart := headerEnd + 4
  let alreadyRead := buf.length - bodyStart
  if contentLength > maxCapacity then .capacityOverflow
  else
    let body := buf.drop bodyStart
    if alreadyRead < contentLength then
      let remaining := contentLength - alreadyRead
      if remaining ≤ rest.length then .ok headers (body ++ rest.take remaining)
      else ending.inBody
    else .ok headers body

/-- The loop up to the end of the headers.  The `k`-th read finds `cuts k + 1` bytes, or as
many as are left; the buffer makes room by itself. -/
def readHeaders (cuts : Nat → Nat) (ending : Ending) (k : Nat) (buf incoming : List UInt8) :
    HttpResponse :=
  if incoming = [] then ending.inHeaders
  else
    let total := buf ++ incoming.take (cuts k + 1)
    let rest := incoming.drop (cuts k + 1)
    match findHeaderEnd total with
    | some headerEnd => readBody headerEnd total rest ending
    | none =>
        if total.length > maxHeaderBytes then .error .tooLarge
        else readHeaders cuts ending (k + 1) total rest
termination_by incoming.length
decreasing_by
  rw [List.length_drop]
  have := List.length_pos_iff.mpr ‹_›
  omega

/-- `read_http_response`, on the bytes that come, cut in some way. -/
def readHttpResponse (cuts : Nat → Nat) (incoming : List UInt8) (ending : Ending) :
    HttpResponse :=
  readHeaders cuts ending 0 [] incoming

end HttpSession

open HttpSession

/-! ## The response that was sent -/

/-- The header block has one header that declares a length, and this is it. -/
def DeclaredLength (headers : List Char) (n : Nat) : Prop :=
  Declares (Text.lines headers) n ∧ ∃ line ∈ Text.lines headers, IsContentLength line

/-- The header block in front of a blank line, and what follows it. -/
def headerText (incoming : List UInt8) (headerEnd : Nat) : List Char :=
  Utf8.decodeLossy (incoming.take headerEnd)

def following (incoming : List UInt8) (headerEnd : Nat) : List UInt8 :=
  incoming.drop (headerEnd + 4)

/-- The outcome is that of the bytes, and for a whole response its header block with the body
of the declared length. -/
structure ReadFromBytes (incoming : List UInt8) (ending : Ending) : Prop where
  same : ∀ cuts cuts',
    readHttpResponse cuts incoming ending = readHttpResponse cuts' incoming ending
  exact : ∀ headerEnd length, findHeaderEnd incoming = some headerEnd →
    DeclaredLength (headerText incoming headerEnd) length →
    length ≤ (following incoming headerEnd).length → ∀ cuts,
      readHttpResponse cuts incoming ending =
        .ok (headerText incoming headerEnd) ((following incoming headerEnd).take length)

/-- The two spellings of the header's name that the code knows. -/
def Spelled (name : List Char) : Prop :=
  name = "Content-Length".toList ∨ name = "content-length".toList

/-- A header of the block is spelled in one of them. -/
def IsSpelled (headers : List Char) : Prop :=
  ∃ name value, Spelled name ∧ name ++ ':' :: value ∈ Text.lines headers

/-- The length that is read from the header block. -/
def lengthRead (incoming : List UInt8) (headerEnd : Nat) : Nat :=
  (HttpSession.parseContentLength (headerText incoming headerEnd)).getD 0

/-- The header block is within its bound, nothing follows the body that the code expects, and
a declared body that is all there is empty or declared in a spelling that the code knows. -/
structure NothingBeyond (incoming : List UInt8) (headerEnd : Nat) : Prop where
  bounded : headerEnd + 3 ≤ maxHeaderBytes
  noSurplus : lengthRead incoming headerEnd ≤ maxCapacity →
    (following incoming headerEnd).length ≤ lengthRead incoming headerEnd
  spelled : ∀ length, DeclaredLength (headerText incoming headerEnd) length →
    length ≤ (following incoming headerEnd).length →
      (length = 0 ∨ IsSpelled (headerText incoming headerEnd)) ∧ length ≤ maxCapacity

/-! ## The spelling -/

/-- What the code takes for the value of a header line. -/
theorem stripName_eq_some_iff {line value : List Char} :
    (Text.stripPrefix "Content-Length:".toList line).or
        (Text.stripPrefix "content-length:".toList line) = some value ↔
      ∃ name, Spelled name ∧ line = name ++ ':' :: value := by
  have hupper : "Content-Length:".toList = "Content-Length".toList ++ [':'] := by decide
  have hlower : "content-length:".toList = "content-length".toList ++ [':'] := by decide
  rw [Option.or_eq_some_iff, Text.stripPrefix_eq_some_iff, Text.stripPrefix_eq_some_iff, hupper,
    hlower, List.append_assoc, List.append_assoc]
  constructor
  · rintro (rfl | ⟨-, rfl⟩)
    · exact ⟨_, .inl rfl, rfl⟩
    · exact ⟨_, .inr rfl, rfl⟩
  · rintro ⟨name, rfl | rfl, rfl⟩
    · exact .inl rfl
    · refine .inr ⟨?_, rfl⟩
      rw [Option.eq_none_iff_forall_ne_some]
      intro rest hrest
      have hhead := congrArg List.head? (Text.stripPrefix_eq_some_iff.mp hrest)
      exact absurd hhead (by simp)

/-- A spelled name is the name of a header that declares a length. -/
theorem Spelled.isContentLength {name : List Char} (h : Spelled name) (value : List Char) :
    IsContentLength (name ++ ':' :: value) := by
  refine ⟨name, value, rfl, ?_⟩
  rcases h with rfl | rfl <;> decide

theorem parseContentLength_of_not_isSpelled {headers : List Char} (h : ¬ IsSpelled headers) :
    HttpSession.parseContentLength headers = none := by
  rw [HttpSession.parseContentLength, List.findSome?_eq_none_iff.mpr, Option.bind_none]
  intro line hline
  rw [Option.eq_none_iff_forall_ne_some]
  intro value hvalue
  obtain ⟨name, hname, rfl⟩ := stripName_eq_some_iff.mp hvalue
  exact h ⟨name, value, hname, hline⟩

theorem Spelled.length_eq {name : List Char} (h : Spelled name) : name.length = 14 := by
  rcases h with rfl | rfl <;> rfl

/-- The one header that declares a length is the one that is read. -/
theorem parseContentLength_of_declared {headers : List Char} {n : Nat}
    (hdeclared : DeclaredLength headers n) (hspelled : IsSpelled headers)
    (hn : n < UInt64.size) : HttpSession.parseContentLength headers = some n := by
  obtain ⟨hlines, declaring, hmem, hdeclaring⟩ := hdeclared
  obtain ⟨name', value', hname', hmem'⟩ := hspelled
  rw [HttpSession.parseContentLength]
  generalize Text.lines headers = lines at *
  cases hlines with
  | absent none => exact absurd hdeclaring (none declaring hmem)
  | @present before after name lead digits trail _ others named blank nonempty decimal value =>
    have hline : name' ++ ':' :: value' = name ++ ':' :: (lead ++ (digits ++ trail)) := by
      rw [List.mem_append, List.mem_cons] at hmem'
      rcases hmem' with hbefore | hline | hafter
      · exact absurd (hname'.isContentLength value') (others _ (List.mem_append_left _ hbefore))
      · exact hline
      · exact absurd (hname'.isContentLength value') (others _ (List.mem_append_right _ hafter))
    have hlength : name'.length = name.length := by
      rw [hname'.length_eq, ← List.length_map Char.toLower, named]
      rfl
    have hvalue := (List.cons.inj (List.append_inj_right hline hlength)).2
    have hbefore : before.findSome? (fun line =>
        (Text.stripPrefix "Content-Length:".toList line).or
          (Text.stripPrefix "content-length:".toList line)) = none := by
      rw [List.findSome?_eq_none_iff]
      intro line hmem
      rw [Option.eq_none_iff_forall_ne_some]
      intro rest hrest
      obtain ⟨name'', hname'', rfl⟩ := stripName_eq_some_iff.mp hrest
      exact others _ (List.mem_append_left _ hmem) (hname''.isContentLength rest)
    rw [List.findSome?_append, hbefore, Option.none_or, ← hline,
      List.findSome?_cons_of_isSome (by rw [stripName_eq_some_iff.mpr ⟨name', hname', rfl⟩]; rfl),
      stripName_eq_some_iff.mpr ⟨name', hname', rfl⟩, Option.bind_some, hvalue]
    exact (Miracast.value_of_padded blank nonempty decimal value hn).2

section

variable {cuts : Nat → Nat} {ending : Ending} {incoming : List UInt8} {headerEnd : Nat}

theorem lengthRead_of_not_isSpelled (h : ¬ IsSpelled (headerText incoming headerEnd)) :
    lengthRead incoming headerEnd = 0 := by
  rw [lengthRead, parseContentLength_of_not_isSpelled h, Option.getD_none]

theorem lengthRead_of_declared {length : Nat}
    (hdeclared : DeclaredLength (headerText incoming headerEnd) length)
    (hspelled : length = 0 ∨ IsSpelled (headerText incoming headerEnd))
    (hcapacity : length ≤ maxCapacity) : lengthRead incoming headerEnd = length := by
  by_cases hknown : IsSpelled (headerText incoming headerEnd)
  · have hsize : length < UInt64.size := hcapacity.trans_lt (by decide)
    rw [lengthRead, parseContentLength_of_declared hdeclared hknown hsize, Option.getD_some]
  · rw [lengthRead_of_not_isSpelled hknown, hspelled.resolve_right hknown]

/-! ## One cut after the other -/

/-- What is read when the headers have come together with some of what follows. -/
def readAt (incoming : List UInt8) (headerEnd front : Nat) (ending : Ending) : HttpResponse :=
  readBody headerEnd (incoming.take front) (incoming.drop front) ending

/-- The two modules look for the same blank line. -/
theorem findHeaderEnd_eq (buf : List UInt8) :
    HttpSession.findHeaderEnd buf = findHeaderEnd buf :=
  rfl

/-- The first bytes have a blank line as soon as it is among them. -/
theorem findHeaderEnd_front (hfind : findHeaderEnd incoming = some headerEnd) (front : Nat) :
    findHeaderEnd (incoming.take front) = if front < headerEnd + 4 then none else some headerEnd := by
  split_ifs with hfront
  · exact findHeaderEnd_take_eq_none hfind hfront
  · exact Text.find_take hfind (Nat.not_lt.mp hfront)

/-- The bytes behind the headers, in the two parts that a cut makes of them. -/
theorem following_eq {front : Nat} (hfront : headerEnd + 4 ≤ front) :
    following incoming headerEnd =
      (incoming.take front).drop (headerEnd + 4) ++ incoming.drop front := by
  have hparts : incoming.drop front = (incoming.drop (headerEnd + 4)).drop
      (front - (headerEnd + 4)) := by
    rw [List.drop_drop, Nat.add_sub_cancel' hfront]
  rw [following, List.drop_take, hparts, List.take_append_drop]

/-- **What a cut decides**: how much of what follows is taken for the body. -/
theorem readAt_eq {front : Nat} (hfront : headerEnd + 4 ≤ front) :
    readAt incoming headerEnd front ending =
      if lengthRead incoming headerEnd > maxCapacity then .capacityOverflow
      else if lengthRead incoming headerEnd ≤ (following incoming headerEnd).length then
        .ok (headerText incoming headerEnd) ((following incoming headerEnd).take
          (max (lengthRead incoming headerEnd) (front - (headerEnd + 4))))
      else ending.inBody := by
  have htext : Utf8.decodeLossy ((incoming.take front).take headerEnd) =
      headerText incoming headerEnd := by
    rw [headerText, List.take_take, Nat.min_eq_left (by omega)]
  have hlength : (HttpSession.parseContentLength (headerText incoming headerEnd)).getD 0 =
      lengthRead incoming headerEnd := rfl
  have hparts : following incoming headerEnd =
      (incoming.take front).drop (headerEnd + 4) ++ incoming.drop front := following_eq hfront
  have hbody : ((incoming.take front).drop (headerEnd + 4)).length =
      min front incoming.length - (headerEnd + 4) := by
    rw [List.length_drop, List.length_take]
  have hfollowing : (following incoming headerEnd).length = incoming.length - (headerEnd + 4) := by
    rw [following, List.length_drop]
  rw [readAt, readBody]
  simp only [htext, hlength, List.length_take, List.length_drop]
  generalize lengthRead incoming headerEnd = length
  split_ifs with hcapacity halready hrest hle hle hle
  · rfl
  · have hmax : max length (front - (headerEnd + 4)) = length := by omega
    rw [hmax, hparts, List.take_append, hbody,
      List.take_of_length_le (hbody.trans_le halready.le)]
  · omega
  · omega
  · rfl
  · have hmax : max length (front - (headerEnd + 4)) = front - (headerEnd + 4) := by omega
    rw [hmax, following, List.drop_take]
  · omega

/-! ## Every cut -/

/-- The loop on what it has read of a stream and what is left of it. -/
theorem readHeaders_of_none (k : Nat) (buf : List UInt8) (hbuf : buf.length ≤ maxHeaderBytes)
    (hnone : findHeaderEnd (buf ++ incoming) = none) :
    readHeaders cuts ending k buf incoming =
      if (buf ++ incoming).length > maxHeaderBytes then .error .tooLarge
      else ending.inHeaders := by
  fun_induction readHeaders cuts ending k buf incoming with
  | case1 k buf =>
    rw [List.append_nil, if_neg (Nat.not_lt.mpr hbuf)]
  | case2 k buf incoming hne total rest headerEnd hfind =>
    have hwhole := Text.find_append hfind rest
    rw [List.append_assoc, List.take_append_drop] at hwhole
    exact absurd (hwhole.symm.trans hnone) nofun
  | case3 k buf incoming hne total hfind hlarge =>
    have hlen : total.length ≤ (buf ++ incoming).length := by
      rw [List.length_append, List.length_append, List.length_take]
      omega
    rw [if_pos (Nat.lt_of_lt_of_le hlarge hlen)]
  | case4 k buf incoming hne total rest hfind hsmall ih =>
    have hparts : total ++ rest = buf ++ incoming := by
      rw [List.append_assoc, List.take_append_drop]
    rw [hparts] at ih
    exact ih (Nat.not_lt.mp hsmall) hnone

/-- The headers come whole with some read, unless they are too large for the bound. -/
theorem readHeaders_of_some (k : Nat) (buf : List UInt8) (hbuf : findHeaderEnd buf = none)
    (hsome : findHeaderEnd (buf ++ incoming) = some headerEnd)
    (hbound : headerEnd + 3 ≤ maxHeaderBytes) :
    ∃ front, headerEnd + 4 ≤ front ∧
      readHeaders cuts ending k buf incoming = readAt (buf ++ incoming) headerEnd front ending := by
  fun_induction readHeaders cuts ending k buf incoming with
  | case1 k buf =>
    rw [List.append_nil, hbuf] at hsome
    cases hsome
  | case2 k buf incoming hne total rest headerEnd' hfind =>
    have hparts : total ++ rest = buf ++ incoming := by
      rw [List.append_assoc, List.take_append_drop]
    have hwhole : findHeaderEnd (total ++ rest) = some headerEnd' := Text.find_append hfind rest
    rw [hparts, hsome] at hwhole
    cases hwhole
    refine ⟨total.length, Text.length_le_of_find hfind, ?_⟩
    rw [readAt, ← hparts, List.take_left, List.drop_left]
  | case3 k buf incoming hne total hfind hlarge =>
    -- the blank line would be among the bytes already
    have hparts : total ++ incoming.drop (cuts k + 1) = buf ++ incoming := by
      rw [List.append_assoc, List.take_append_drop]
    have hfront := findHeaderEnd_front hsome total.length
    rw [← hparts, List.take_left, ← findHeaderEnd_eq, hfind] at hfront
    split_ifs at hfront with hshort
    omega
  | case4 k buf incoming hne total rest hfind hsmall ih =>
    have hparts : total ++ rest = buf ++ incoming := by
      rw [List.append_assoc, List.take_append_drop]
    rw [hparts] at ih
    exact ih hfind hsome

/-- A first read of the headers together with some of what follows. -/
theorem readHttpResponse_at (hfind : findHeaderEnd incoming = some headerEnd) (surplus : Nat) :
    readHttpResponse (fun _ => headerEnd + 3 + surplus) incoming ending =
      readAt incoming headerEnd (headerEnd + 4 + surplus) ending := by
  have hne : incoming ≠ [] := by
    rintro rfl
    exact absurd (Text.length_le_of_find hfind) (Nat.not_succ_le_zero _)
  have hfront : findHeaderEnd (incoming.take (headerEnd + 4 + surplus)) = some headerEnd :=
    Text.find_take hfind (Nat.le_add_right _ _)
  have hcut : headerEnd + 3 + surplus + 1 = headerEnd + 4 + surplus := by omega
  rw [readHttpResponse, readHeaders, if_neg hne, hcut]
  simp only [List.nil_append, findHeaderEnd_eq, hfront]
  rfl

/-- A first read of more than the bound, one byte short of the end of the headers. -/
theorem readHttpResponse_tooLarge (hfind : findHeaderEnd incoming = some headerEnd)
    (hbound : maxHeaderBytes < headerEnd + 3) :
    readHttpResponse (fun _ => headerEnd + 2) incoming ending = .error .tooLarge := by
  have hroom : headerEnd + 4 ≤ incoming.length := Text.length_le_of_find hfind
  have hne : incoming ≠ [] := by
    rintro rfl
    exact absurd hroom (Nat.not_succ_le_zero _)
  have hfront : findHeaderEnd (incoming.take (headerEnd + 3)) = none :=
    findHeaderEnd_take_eq_none hfind (Nat.lt_succ_self _)
  have hlen : (incoming.take (headerEnd + 3)).length = headerEnd + 3 := by
    rw [List.length_take]
    omega
  rw [readHttpResponse, readHeaders, if_neg hne]
  simp only [List.nil_append, findHeaderEnd_eq, hfront, hlen]
  exact if_pos hbound

/-- Behind the headers the outcome is no longer that they are too large. -/
theorem readAt_ne_tooLarge {front : Nat} (hfront : headerEnd + 4 ≤ front) :
    readAt incoming headerEnd front ending ≠ .error .tooLarge := by
  rw [readAt_eq hfront]
  cases ending <;> split_ifs <;> nofun

/-! ## When it is the response that was sent -/

/-- With nothing beyond, it does not matter how much came with the headers. -/
theorem NothingBeyond.readAt_eq (hall : NothingBeyond incoming headerEnd) {front : Nat}
    (hfront : headerEnd + 4 ≤ front) :
    readAt incoming headerEnd front ending = readAt incoming headerEnd (headerEnd + 4) ending := by
  rw [Airplay.readAt_eq hfront, Airplay.readAt_eq (Nat.le_refl _)]
  split_ifs with hcapacity hle
  · rfl
  · have hsurplus := hall.noSurplus (Nat.not_lt.mp hcapacity)
    rw [List.take_of_length_le (by omega), List.take_of_length_le (by omega)]
  · rfl

theorem NothingBeyond.read (hall : NothingBeyond incoming headerEnd)
    (hfind : findHeaderEnd incoming = some headerEnd) (cuts : Nat → Nat) :
    readHttpResponse cuts incoming ending = readAt incoming headerEnd (headerEnd + 4) ending := by
  obtain ⟨front, hfront, hread⟩ : ∃ front, headerEnd + 4 ≤ front ∧
      readHeaders cuts ending 0 [] incoming = readAt incoming headerEnd front ending :=
    readHeaders_of_some 0 [] rfl hfind hall.bounded
  rw [readHttpResponse, hread]
  exact hall.readAt_eq hfront

theorem NothingBeyond.readFromBytes (hall : NothingBeyond incoming headerEnd)
    (hfind : findHeaderEnd incoming = some headerEnd) : ReadFromBytes incoming ending where
  same cuts cuts' := by
    rw [hall.read hfind, hall.read hfind]
  exact headerEnd' length hfind' hdeclared hle cuts := by
    cases hfind.symm.trans hfind'
    obtain ⟨hspelled, hcapacity⟩ := hall.spelled length hdeclared hle
    have hlength := lengthRead_of_declared hdeclared hspelled hcapacity
    rw [hall.read hfind, Airplay.readAt_eq (Nat.le_refl _), hlength,
      if_neg (Nat.not_lt.mpr hcapacity), if_pos hle, Nat.sub_self, Nat.max_zero]

theorem ReadFromBytes.nothingBeyond (hread : ReadFromBytes incoming ending)
    (hfind : findHeaderEnd incoming = some headerEnd) : NothingBeyond incoming headerEnd where
  bounded := by
    by_contra hbound
    have hsame := hread.same (fun _ => headerEnd + 2) (fun _ => headerEnd + 3 + 0)
    rw [readHttpResponse_tooLarge hfind (Nat.not_le.mp hbound), readHttpResponse_at hfind] at hsame
    exact readAt_ne_tooLarge (Nat.le_refl _) hsame.symm
  noSurplus hcapacity := by
    by_contra hmore
    have hsame := hread.same (fun _ => headerEnd + 3 + (following incoming headerEnd).length)
      (fun _ => headerEnd + 3 + 0)
    rw [readHttpResponse_at hfind, readHttpResponse_at hfind, readAt_eq (by omega),
      readAt_eq (by omega), if_neg (Nat.not_lt.mpr hcapacity), if_neg (Nat.not_lt.mpr hcapacity),
      if_pos (by omega), if_pos (by omega)] at hsame
    have hlengths := congrArg List.length (HttpResponse.ok.inj hsame).2
    rw [List.length_take, List.length_take] at hlengths
    omega
  spelled length hdeclared hle := by
    have hexact := hread.exact headerEnd length hfind hdeclared hle (fun _ => headerEnd + 3 + 0)
    rw [readHttpResponse_at hfind, readAt_eq (by omega)] at hexact
    split_ifs at hexact with hcapacity hless
    · have hlengths := congrArg List.length (HttpResponse.ok.inj hexact).2
      rw [List.length_take, List.length_take] at hlengths
      have hlength : lengthRead incoming headerEnd = length := by omega
      refine ⟨?_, by omega⟩
      by_cases hknown : IsSpelled (headerText incoming headerEnd)
      · exact .inr hknown
      · exact .inl (hlength.symm.trans (lengthRead_of_not_isSpelled hknown))
    · cases ending <;> cases hexact

/-- **Which responses are read from their bytes alone.** -/
theorem response_read_iff (incoming : List UInt8) (ending : Ending) :
    ReadFromBytes incoming ending ↔
      ∀ headerEnd, findHeaderEnd incoming = some headerEnd → NothingBeyond incoming headerEnd := by
  constructor
  · intro hread headerEnd hfind
    exact hread.nothingBeyond hfind
  · intro hall
    rcases hfind : findHeaderEnd incoming with _ | headerEnd
    · refine ⟨fun cuts cuts' => ?_, fun headerEnd length hsome => ?_⟩
      · rw [readHttpResponse, readHttpResponse, readHeaders_of_none 0 [] (Nat.zero_le _) hfind,
          readHeaders_of_none 0 [] (Nat.zero_le _) hfind]
      · exact absurd (hsome.symm.trans hfind) nofun
    · exact (hall headerEnd hfind).readFromBytes hfind

end

/-! ### One byte too much, and a third spelling -/

def okHead : List Char := "HTTP/1.1 200 OK\r\nContent-Length: 2".toList

/-- A response and one more byte. -/
def surplusResponse : List UInt8 := Utf8.encode okHead ++ (headerEndMark ++ [111, 107, 33])

def shoutedHead : List Char := "HTTP/1.1 200 OK\r\nCONTENT-LENGTH: 2".toList

def shoutedResponse : List UInt8 := Utf8.encode shoutedHead ++ (headerEndMark ++ [111, 107])

theorem headerText_encode {head : List Char} (hascii : ∀ c ∈ head, IsAscii c)
    (rest : List UInt8) : headerText (Utf8.encode head ++ rest) head.length = head := by
  rw [headerText, List.take_left' (Utf8.length_encode_ascii hascii), Utf8.decodeLossy_encode]

theorem declaredLength_shoutedHead : DeclaredLength shoutedHead 2 := by
  have hlines : Text.lines shoutedHead = ["HTTP/1.1 200 OK".toList] ++
      ("CONTENT-LENGTH".toList ++ ':' :: ([' '] ++ (['2'] ++ []))) :: [] := by decide
  have hother : ¬ IsContentLength "HTTP/1.1 200 OK".toList := by
    rw [← Miracast.startsWithLower_iff]
    decide
  have hdecimal : ∀ c ∈ ['2'], ∃ d < 10, c = Text.digitChar d := fun c hc =>
    ⟨2, by decide, List.mem_singleton.mp hc⟩
  constructor
  · rw [hlines]
    exact .present (fun line hline => by rwa [List.mem_singleton.mp hline]) (by decide)
      (fun c hc => .inl (List.mem_singleton.mp hc)) (by decide) hdecimal (by decide)
  · refine ⟨"CONTENT-LENGTH: 2".toList, by decide, ?_⟩
    rw [← Miracast.startsWithLower_iff]
    decide

/-- The byte that follows is taken for a part of the body or not, as the bytes come; and a
length that is declared in capital letters is not read. -/
theorem response_read_differs :
    (¬ ReadFromBytes surplusResponse .closes) ∧ ¬ ReadFromBytes shoutedResponse .closes := by
  constructor
  · intro hread
    have hascii : ∀ c ∈ okHead, IsAscii c := List.all_iff_forall_prop.mp (by decide)
    have hfind : findHeaderEnd surplusResponse = some okHead.length :=
      Miracast.find_headerEnd hascii (by decide) _
    have htext : headerText surplusResponse okHead.length = okHead := headerText_encode hascii _
    have hlength : lengthRead surplusResponse okHead.length = 2 := by
      rw [lengthRead, htext]
      decide
    have hmore := (hread.nothingBeyond hfind).noSurplus (by rw [hlength]; decide)
    rw [hlength] at hmore
    exact absurd hmore (by decide)
  · intro hread
    have hascii : ∀ c ∈ shoutedHead, IsAscii c := List.all_iff_forall_prop.mp (by decide)
    have hfind : findHeaderEnd shoutedResponse = some shoutedHead.length :=
      Miracast.find_headerEnd hascii (by decide) _
    have htext : headerText shoutedResponse shoutedHead.length = shoutedHead :=
      headerText_encode hascii _
    obtain ⟨hspelled, -⟩ := (hread.nothingBeyond hfind).spelled 2
      (by rw [htext]; exact declaredLength_shoutedHead) (by decide)
    rw [htext] at hspelled
    have hnone : HttpSession.parseContentLength shoutedHead = none := by decide
    have hsome := parseContentLength_of_declared declaredLength_shoutedHead
      (hspelled.resolve_left (by decide)) (by decide)
    exact absurd (hnone.symm.trans hsome) nofun

end OpenPlay.Airplay
