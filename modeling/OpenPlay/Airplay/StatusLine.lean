import OpenPlay.Airplay.HttpSession

/-!
# The status line of a response

The code of a response to `POST /stream` is read three times: by `status_is_success` as the
second word of the first line; by `wants_authentication` out of the text of the error, behind
the version; and on the encrypted channel by looking for "200" anywhere in the line.

`auth_fallback_iff` says for which responses the second agrees with the first, and
`encrypted_success_iff` for which the third does.
-/

namespace OpenPlay.Airplay

/-! ## The code -/

/-- The status line that both paths show, from a text that starts with it. -/
def statusLineOf (text : List Char) : List Char :=
  (Text.lines text).head?.getD "<no status line>".toList

/-- The end of `post_stream`: the text of the error with which it rejects a header block. -/
def HttpSession.rejection (headers : List Char) : Option (List Char) :=
  if statusIsSuccess headers then none
  else some ("POST /stream failed: ".toList ++ statusLineOf headers)

def http11 : List Char := "HTTP/1.1".toList

def http10 : List Char := "HTTP/1.0".toList

/-- `status_code`. -/
def statusCode (msg : List Char) : Option Nat :=
  (Text.lines msg).head?.bind fun statusLine =>
    ((Text.secondPiece http11 statusLine).or (Text.secondPiece http10 statusLine)).bind
      fun afterVersion =>
        (Text.words isWhitespace afterVersion).head?.bind (Text.parseUnsigned 10 UInt16.size)

/-- The codes behind which pairing is tried. -/
def retriedCodes : List Nat := [401, 403, 404, 470, 501]

/-- `wants_authentication`. -/
def wantsAuthentication (msg : List Char) : Bool :=
  (statusCode msg).any fun code => code ∈ retriedCodes

/-- The status check of `negotiate_with_auth` on a response of the encrypted channel. -/
def encryptedAccepts (response : List UInt8) : Bool :=
  Text.contains "200".toList (statusLineOf (Utf8.decodeLossy response))

/-! ## The code that is read -/

/-- The word that is read for the code: behind the version, up to another one. -/
def wordBehindVersion (line : List Char) : Option (List Char) :=
  ((Text.secondPiece http11 line).or (Text.secondPiece http10 line)).bind fun afterVersion =>
    (Text.words isWhitespace afterVersion).head?

/-- The second word of a line. -/
def secondWord (line : List Char) : Option (List Char) := (Text.words isWhitespace line)[1]?

/-- A word that is one of the codes. -/
def IsRetried (word : Option (List Char)) : Prop :=
  ∃ code ∈ retriedCodes, word.bind (Text.parseUnsigned 10 UInt16.size) = some code

/-- A rejected header block is worth pairing exactly if its code is one of those. -/
def FollowsCode (headers : List Char) : Prop :=
  ∀ msg, HttpSession.rejection headers = some msg →
    (wantsAuthentication msg = true ↔ ∃ code ∈ retriedCodes, codeOf headers = some code)

theorem http11_eq : http11 = 'H' :: "TTP/1.1".toList := by decide

theorem http10_eq : http10 = 'H' :: "TTP/1.0".toList := by decide

theorem codeOf_eq (headers : List Char) :
    codeOf headers =
      (secondWord (statusLineOf headers)).bind (Text.parseUnsigned 10 UInt16.size) := by
  rw [codeOf, statusLineOf]
  rcases (Text.lines headers).head? with _ | line
  · decide
  · rfl

/-- The text of the error is one line, and the version is looked for behind the colon. -/
theorem statusCode_rejection (headers : List Char) :
    statusCode ("POST /stream failed: ".toList ++ statusLineOf headers) =
      (wordBehindVersion (statusLineOf headers)).bind (Text.parseUnsigned 10 UInt16.size) := by
  have hlf : '\n' ∉ statusLineOf headers := by
    unfold statusLineOf
    rcases hfirst : (Text.lines headers).head? with _ | line
    · decide
    · exact Text.lf_not_mem_head hfirst
  have hline : '\n' ∉ "POST /stream failed: ".toList ++ statusLineOf headers := by
    rw [List.mem_append]
    exact not_or.mpr ⟨by decide, hlf⟩
  have hlines := Text.lines_of_not_mem hline (List.append_ne_nil_of_left_ne_nil (by decide) _)
  have hskip : 'H' ∉ "POST /stream failed: ".toList := by decide
  rw [statusCode, hlines, List.head?_cons, Option.bind_some, wordBehindVersion, Option.bind_assoc,
    http11_eq, http10_eq, Text.secondPiece_skip hskip, Text.secondPiece_skip hskip]

theorem wantsAuthentication_iff (headers : List Char) :
    wantsAuthentication ("POST /stream failed: ".toList ++ statusLineOf headers) = true ↔
      IsRetried (wordBehindVersion (statusLineOf headers)) := by
  rw [wantsAuthentication, statusCode_rejection, IsRetried]
  rcases (wordBehindVersion (statusLineOf headers)).bind (Text.parseUnsigned 10 UInt16.size) with
    _ | code
  · simp
  · simp

theorem followsCode_iff (headers : List Char) :
    FollowsCode headers ↔ HttpSession.statusIsSuccess headers = true ∨
      (IsRetried (wordBehindVersion (statusLineOf headers)) ↔
        IsRetried (secondWord (statusLineOf headers))) := by
  unfold FollowsCode HttpSession.rejection
  rw [codeOf_eq]
  split_ifs with hsuccess
  · exact iff_of_true nofun (.inl hsuccess)
  · rw [or_iff_right hsuccess, ← wantsAuthentication_iff]
    exact ⟨fun h => h _ rfl, fun h msg hmsg => by cases hmsg; exact h⟩

/-! ## Lines with a version in front -/

/-- A line that starts with one of the versions, and has no other. -/
def StartsWithVersion (line : List Char) : Prop :=
  ∃ version space rest, (version = http11 ∨ version = http10) ∧
    isWhitespace space = true ∧ line = version ++ space :: rest ∧
      Text.contains http11 rest = false ∧ Text.contains http10 rest = false

/-- White space is no part of a version. -/
theorem find_version_space {version tail rest : List Char} {space : Char}
    (hversion : version = 'H' :: tail) (hspace : isWhitespace space = true)
    (h : Text.contains version rest = false) : Text.find version (space :: rest) = none := by
  subst hversion
  have hne : 'H' ∉ [space] := by
    intro hmem
    rw [← List.mem_singleton.mp hmem] at hspace
    exact absurd hspace (by decide)
  have hnone : Text.find ('H' :: tail) rest = none := by
    rwa [Text.contains, Option.isSome_eq_false_iff, Option.isNone_iff_eq_none] at h
  exact (Text.find_skip hne rest).trans (by rw [hnone]; rfl)

/-- The other version does not begin in "HTTP/1.0". -/
theorem secondPiece_http10 {rest : List Char} {space : Char} (hspace : isWhitespace space = true)
    (h : Text.contains http11 rest = false) :
    Text.secondPiece http11 (http10 ++ space :: rest) = none := by
  have hhere : ¬ http11 <+: 'H' :: ("TTP/1.0".toList ++ space :: rest) := by
    -- the two are of one length and end in different digits
    intro hbegins
    rw [← List.cons_append, ← http10_eq] at hbegins
    have heq := List.prefix_of_prefix_length_le hbegins
      (List.prefix_append http10 (space :: rest)) (by decide)
    exact absurd heq (by decide)
  have hskip : 'H' ∉ "TTP/1.0".toList := by decide
  have hlater : Text.find http11 ("TTP/1.0".toList ++ space :: rest) = none := by
    have hspaced := find_version_space http11_eq hspace h
    rw [http11_eq] at hspaced ⊢
    rw [Text.find_skip hskip, hspaced, Option.map_none]
  rw [Text.secondPiece, http10_eq, List.cons_append, Text.find_cons_later hhere, hlater]
  rfl

/-- Behind the version stands the second word. -/
theorem StartsWithVersion.wordBehindVersion_eq {line : List Char} (h : StartsWithVersion line) :
    wordBehindVersion line = secondWord line := by
  obtain ⟨version, space, rest, hversion, hspace, rfl, hno11, hno10⟩ := h
  have hpiece : (Text.secondPiece http11 (version ++ space :: rest)).or
      (Text.secondPiece http10 (version ++ space :: rest)) = some (space :: rest) := by
    -- "HTTP/1.1" is tried first, and is not in a line of version 1.0
    rcases hversion with rfl | rfl
    · rw [Text.secondPiece_append (find_version_space http11_eq hspace hno11), Option.some_or]
    · rw [secondPiece_http10 hspace hno11, Option.none_or,
        Text.secondPiece_append (find_version_space http10_eq hspace hno10)]
  have hword : ∀ c ∈ version, isWhitespace c = false := by
    rcases hversion with rfl | rfl
    · exact List.all_iff_forall_prop.mp (by decide)
    · exact List.all_iff_forall_prop.mp (by decide)
  have hne : version ≠ [] := by
    rcases hversion with rfl | rfl <;> decide
  rw [wordBehindVersion, hpiece, Option.bind_some, Text.words_cons hspace, secondWord,
    Text.words_space hne hword hspace, List.getElem?_cons_succ, List.head?_eq_getElem?]

/-- Without a version no code is found. -/
theorem wordBehindVersion_of_none {line : List Char} (hno11 : Text.contains http11 line = false)
    (hno10 : Text.contains http10 line = false) : wordBehindVersion line = none := by
  rw [Text.contains, Option.isSome_eq_false_iff, Option.isNone_iff_eq_none] at hno11 hno10
  rw [wordBehindVersion, Text.secondPiece, Text.secondPiece, hno11, hno10]
  rfl

/-- **When the fallback follows the code.**  A response is accepted, or the word behind the
version is one of the codes exactly if the second word is.  So it is on a line that starts with
its only version; and on a line without a version exactly if the code is none of those. -/
theorem auth_fallback_iff (headers : List Char) :
    (FollowsCode headers ↔ HttpSession.statusIsSuccess headers = true ∨
      (IsRetried (wordBehindVersion (statusLineOf headers)) ↔
        IsRetried (secondWord (statusLineOf headers)))) ∧
    (StartsWithVersion (statusLineOf headers) → FollowsCode headers) ∧
    (Text.contains http11 (statusLineOf headers) = false →
      Text.contains http10 (statusLineOf headers) = false →
        (FollowsCode headers ↔ HttpSession.statusIsSuccess headers = true ∨
          ¬ IsRetried (secondWord (statusLineOf headers)))) := by
  refine ⟨followsCode_iff headers, fun h => ?_, fun hno11 hno10 => ?_⟩
  · rw [followsCode_iff, h.wordBehindVersion_eq]
    exact .inr Iff.rfl
  · have hnone : ¬ IsRetried none := by
      rintro ⟨code, -, h⟩
      cases h
    rw [followsCode_iff, wordBehindVersion_of_none hno11 hno10, iff_false_left hnone]

/-- A receiver that asks for a password in the version of RTSP, and one whose reason names
another version. -/
theorem fallback_misses_code :
    ¬ FollowsCode "RTSP/1.0 470 Connection Authorization Required".toList ∧
      ¬ FollowsCode "HTTP/1.0 500 not HTTP/1.1 404".toList := by
  refine ⟨fun h => ?_, fun h => ?_⟩
  · have hmsg := h "POST /stream failed: RTSP/1.0 470 Connection Authorization Required".toList
      (by decide)
    exact absurd (hmsg.mpr ⟨470, by decide, by decide⟩) (by decide)
  · have hmsg := h "POST /stream failed: HTTP/1.0 500 not HTTP/1.1 404".toList (by decide)
    obtain ⟨code, hcode, hsome⟩ := hmsg.mp (by decide)
    have hread : codeOf "HTTP/1.0 500 not HTTP/1.1 404".toList = some 500 := by decide
    cases hread.symm.trans hsome
    exact absurd hcode (by decide)

/-! ## The encrypted channel -/

/-- Both paths judge a response alike, of which the plain one only sees the header block. -/
def JudgedAlike (block body : List UInt8) : Prop :=
  encryptedAccepts (block ++ (headerEndMark ++ body)) =
    HttpSession.statusIsSuccess (Utf8.decodeLossy block)

/-- The first line of a header block, empty in an empty one. -/
def firstLine (block : List UInt8) : List Char :=
  (Text.lines (Utf8.decodeLossy block)).head?.getD []

/-- The code is 200; or it is another success, and "200" stands elsewhere in the line; or it is
none, and "200" stands nowhere. -/
inductive ShowsSuccess (block : List UInt8) : Prop where
  | ok (is200 : codeOf (Utf8.decodeLossy block) = some 200)
  | other {code} (read : codeOf (Utf8.decodeLossy block) = some code) (above : 200 < code)
      (below : code < 300) (shown : "200".toList <:+: firstLine block)
  | failure (read : ∀ code, codeOf (Utf8.decodeLossy block) = some code →
      ¬ (200 ≤ code ∧ code < 300)) (hidden : ¬ "200".toList <:+: firstLine block)

theorem statusLineOf_response (block body : List UInt8) :
    statusLineOf (Utf8.decodeLossy (block ++ (headerEndMark ++ body))) = firstLine block := by
  have hmark : Utf8.decodeLossy (headerEndMark ++ body) =
      Text.blankLine ++ Utf8.decodeLossy body := by
    have hcr : Utf8.IsAscii '\r' := by decide
    have hlf : Utf8.IsAscii '\n' := by decide
    have hrest := Utf8.decodeLossy_cons_ascii hcr (10 :: 13 :: 10 :: body)
    rw [show headerEndMark ++ body = '\r'.val.toUInt8 :: 10 :: 13 :: 10 :: body from rfl, hrest,
      show (10 : UInt8) :: 13 :: 10 :: body = '\n'.val.toUInt8 :: 13 :: 10 :: body from rfl,
      Utf8.decodeLossy_cons_ascii hlf,
      show (13 : UInt8) :: 10 :: body = '\r'.val.toUInt8 :: 10 :: body from rfl,
      Utf8.decodeLossy_cons_ascii hcr,
      show (10 : UInt8) :: body = '\n'.val.toUInt8 :: body from rfl,
      Utf8.decodeLossy_cons_ascii hlf]
    rfl
  have hblock : Utf8.decodeLossy (block ++ (headerEndMark ++ body)) =
      Utf8.decodeLossy block ++ (Text.blankLine ++ Utf8.decodeLossy body) := by
    rw [← hmark]
    exact Utf8.decodeLossy_append_ascii block (by decide) _
  rw [statusLineOf, hblock, Text.head_lines_blankLine, firstLine, Option.getD_some]

theorem encryptedAccepts_iff (block body : List UInt8) :
    encryptedAccepts (block ++ (headerEndMark ++ body)) = true ↔
      "200".toList <:+: firstLine block := by
  rw [encryptedAccepts, statusLineOf_response, Text.contains_iff]

theorem statusIsSuccess_iff (headers : List Char) :
    HttpSession.statusIsSuccess headers = true ↔
      ∃ code, codeOf headers = some code ∧ 200 ≤ code ∧ code < 300 := by
  have hcode : HttpSession.statusIsSuccess headers =
      (codeOf headers).any fun code => 200 ≤ code ∧ code < 300 := by
    rw [HttpSession.statusIsSuccess, codeOf, Option.bind_assoc]
  rw [hcode, Option.any_eq_true]
  simp

/-- The code 200 is shown. -/
theorem shown_of_code_200 {block : List UInt8}
    (h : codeOf (Utf8.decodeLossy block) = some 200) : "200".toList <:+: firstLine block := by
  obtain ⟨word, hword, hcode⟩ := Option.bind_eq_some_iff.mp h
  obtain ⟨line, hline, hsecond⟩ := Option.bind_eq_some_iff.mp hword
  have hmem := Text.infix_of_mem_words (List.mem_of_getElem? hsecond)
  rw [firstLine, hline, Option.getD_some]
  exact (Text.suffix_of_parseUnsigned_200 hcode).isInfix.trans hmem

/-- **When both paths judge alike.** -/
theorem encrypted_success_iff (block body : List UInt8) :
    JudgedAlike block body ↔ ShowsSuccess block := by
  rw [JudgedAlike, Bool.eq_iff_iff, encryptedAccepts_iff, statusIsSuccess_iff]
  constructor
  · intro h
    by_cases hshown : "200".toList <:+: firstLine block
    · obtain ⟨code, hcode, hlow, hhigh⟩ := h.mp hshown
      rcases Nat.eq_or_lt_of_le hlow with rfl | habove
      · exact .ok hcode
      · exact .other hcode habove hhigh hshown
    · exact .failure (fun code hcode hrange => hshown (h.mpr ⟨code, hcode, hrange⟩)) hshown
  · intro h
    cases h with
    | ok is200 => exact iff_of_true (shown_of_code_200 is200) ⟨200, is200, by decide, by decide⟩
    | other read above below shown => exact iff_of_true shown ⟨_, read, above.le, below⟩
    | failure read hidden =>
      exact iff_of_false hidden fun ⟨code, hcode, hrange⟩ => read code hcode hrange

/-- A success without a body, and an error that mentions 200. -/
theorem encrypted_success_differs :
    ¬ JudgedAlike (Utf8.encode "HTTP/1.1 204 No Content".toList) [] ∧
      ¬ JudgedAlike (Utf8.encode "HTTP/1.1 500 Error 200".toList) [] := by
  have hlines : ∀ {line : List Char}, '\n' ∉ line → line ≠ [] →
      firstLine (Utf8.encode line) = line := by
    intro line hlf hne
    rw [firstLine, Utf8.decodeLossy_encode, Text.lines_of_not_mem hlf hne]
    rfl
  refine ⟨fun h => ?_, fun h => ?_⟩
  · rw [JudgedAlike, Bool.eq_iff_iff, encryptedAccepts_iff, hlines (by decide) (by decide),
      Utf8.decodeLossy_encode, ← Text.contains_iff] at h
    exact absurd (h.mpr (by decide)) (by decide)
  · rw [JudgedAlike, Bool.eq_iff_iff, encryptedAccepts_iff, hlines (by decide) (by decide),
      Utf8.decodeLossy_encode, ← Text.contains_iff] at h
    exact absurd (h.mp (by decide)) (by decide)

end OpenPlay.Airplay
