import OpenPlay.Airplay.HttpSession
import OpenPlay.Crypto.Fingerprint

/-!
# Requests with a device name

The four requests of `http_session.rs`, which carry the display name of the sender in a
header.  `header_safe_device_name` takes out of it what could end a line.

* `SplitsInto`: what a reader of a request finds in it
* `no_header_injection`: the lines that are meant and the body, whatever the name
-/

namespace OpenPlay.Airplay

/-! ## The code -/

/-- A value of a property list, as far as one is sent; `real` is that of a whole number. -/
inductive PlistValue
  | integer (value : UInt32)
  | boolean (value : Bool)
  | real (value : UInt32)
  | string (value : List Char)
deriving DecidableEq

/-- A `Vec<u8>`. -/
structure Bytes where
  bytes : List UInt8
  fits : bytes.length < UInt64.size

/-- `to_writer_binary` on a dictionary, which is the work of the `plist` crate. -/
abbrev WriterBinary := List (List Char × PlistValue) → Except (List Char) Bytes

namespace HttpSession

def airplayUserAgent : List Char := "AirPlay/550.10".toList

def defaultDeviceName : List Char := "OpenPlay".toList

/-- `header_safe_device_name`. -/
def headerSafeDeviceName (name : List Char) : List Char :=
  let cleaned := Text.trim isWhitespace (name.filter fun c => ! isControl c)
  if cleaned = [] then defaultDeviceName else cleaned

example : headerSafeDeviceName "Laptop\r\nX-Injected: yes".toList =
    "LaptopX-Injected: yes".toList := by decide

/-- The text of a `format!` that ends each of these lines, and the header block behind the
last. -/
def headerFormat (lines : List (List Char)) : List UInt8 :=
  Utf8.encode (lines.flatMap (· ++ Text.crlf) ++ Text.crlf)

/-- The lines that the requests have in common, from a name that is safe. -/
def commonLines (sessionId deviceName : List Char) : List (List Char) :=
  ["User-Agent: ".toList ++ airplayUserAgent,
    "X-Apple-Device-Name: ".toList ++ deviceName,
    "X-Apple-Session-ID: ".toList ++ sessionId,
    "X-Apple-ProtocolVersion: 1".toList]

def infoLines (sessionId deviceName : List Char) : List (List Char) :=
  "GET /info HTTP/1.1".toList :: commonLines sessionId deviceName ++
    ["Content-Length: 0".toList]

def lengthLine (length : Nat) : List Char := "Content-Length: ".toList ++ Miracast.decimal length

def streamLines (sessionId deviceName : List Char) (length : Nat) : List (List Char) :=
  "POST /stream HTTP/1.1".toList :: commonLines sessionId deviceName ++
    ["Content-Type: application/x-apple-binary-plist".toList, lengthLine length]

/-- What `get_info` writes. -/
def getInfo (sessionId deviceName : List Char) : List UInt8 :=
  headerFormat (infoLines sessionId (headerSafeDeviceName deviceName))

/-- What `get_info_raw` writes. -/
def getInfoRaw (sessionId deviceName : List Char) : List UInt8 :=
  headerFormat (infoLines sessionId (headerSafeDeviceName deviceName))

/-- The dictionary of `POST /stream`, in the order of a `BTreeMap`. -/
def streamParams (width height fps : UInt32) (sessionId : List Char) :
    List (List Char × PlistValue) :=
  [("fps".toList, .integer fps),
    ("height".toList, .integer height),
    ("overscanned".toList, .boolean false),
    ("refreshRate".toList, .real fps),
    ("sessionID".toList, .string sessionId),
    ("version".toList, .string "1.0".toList),
    ("width".toList, .integer width)]

/-- The error of a dictionary that cannot be encoded. -/
def plistError (e : List Char) : List Char := "Failed to encode plist: ".toList ++ e

/-- What `post_stream` writes, in two pieces. -/
def postStream (toWriterBinary : WriterBinary) (width height fps : UInt32)
    (sessionId deviceName : List Char) : Except (List Char) (List (List UInt8)) :=
  let deviceName := headerSafeDeviceName deviceName
  match toWriterBinary (streamParams width height fps sessionId) with
  | .error e => .error (plistError e)
  | .ok body => .ok [headerFormat (streamLines sessionId deviceName body.bytes.length), body.bytes]

/-- `build_stream_request`. -/
def buildStreamRequest (toWriterBinary : WriterBinary) (width height fps : UInt32)
    (sessionId deviceName : List Char) : Except (List Char) (List UInt8) :=
  let deviceName := headerSafeDeviceName deviceName
  match toWriterBinary (streamParams width height fps sessionId) with
  | .error e => .error (plistError e)
  | .ok body =>
      .ok (headerFormat (streamLines sessionId deviceName body.bytes.length) ++ body.bytes)

end HttpSession

open HttpSession

/-! ## What a reader finds -/

/-- The name of the header is `X-Apple-Device-Name`, in capitals or not. -/
def isDeviceName (line : List Char) : Bool :=
  Miracast.startsWithLower "x-apple-device-name:".toList line

/-- The message is these lines, the first blank line, and the body: they are what is read
in front of it and behind it. -/
structure SplitsInto (message : List UInt8) (lines : List (List Char)) (body : List UInt8) :
    Prop where
  bytes : message = Utf8.encode (Text.crlf.intercalate lines) ++ (headerEndMark ++ body)
  unbroken : ∀ line ∈ lines, '\r' ∉ line ∧ '\n' ∉ line
  ends : HttpSession.findHeaderEnd message = some (Utf8.encode (Text.crlf.intercalate lines)).length
  head : Text.lines (Text.crlf.intercalate lines) = lines
  declared : DeclaredLength (Text.crlf.intercalate lines) body.length
  length : HttpSession.parseContentLength (Text.crlf.intercalate lines) = some body.length
  oneName : lines.countP isDeviceName = 1

/-- The text of a `Uuid`: groups of hexadecimal digits with hyphens between. -/
structure Uuid where
  text : List Char
  groups : (text.splitOn '-').map List.length = [8, 4, 4, 4, 12]
  digits : ∀ c ∈ text, c = '-' ∨ Crypto.isAsciiHexdigit c = true

example : Uuid :=
  ⟨"6f1c2f0e-53b0-4d6e-9a55-0b7d7c1e8a42".toList, by decide,
    List.all_iff_forall_prop.mp (by decide)⟩

/-- A stream request for the dictionary: none if it cannot be encoded, and otherwise one that
splits into its lines and the encoding. -/
def RequestsStream (toWriterBinary : WriterBinary) (width height fps : UInt32)
    (sessionId deviceName : List Char) (result : Except (List Char) (List UInt8)) : Prop :=
  match toWriterBinary (streamParams width height fps sessionId) with
  | .error e => result = .error (plistError e)
  | .ok body => ∃ request, result = .ok request ∧
      SplitsInto request
        (streamLines sessionId (headerSafeDeviceName deviceName) body.bytes.length) body.bytes

/-! ## Safe names -/

/-- A name that a header can carry as it is. -/
structure IsHeaderSafe (name : List Char) : Prop where
  ne_nil : name ≠ []
  trimmed : Text.trim isWhitespace name = name
  clean : ∀ c ∈ name, isControl c = false

theorem isHeaderSafe_headerSafeDeviceName (name : List Char) :
    IsHeaderSafe (headerSafeDeviceName name) := by
  unfold headerSafeDeviceName
  simp only
  split_ifs with empty
  · exact ⟨by decide, by decide, List.all_iff_forall_prop.mp (by decide)⟩
  · refine ⟨empty, Text.trim_trim _, ?_⟩
    intro c mem
    have kept := List.of_mem_filter (Text.mem_of_mem_trim mem)
    simpa using kept

theorem headerSafeDeviceName_of_isHeaderSafe {name : List Char} (h : IsHeaderSafe name) :
    headerSafeDeviceName name = name := by
  have kept : name.filter (fun c => ! isControl c) = name := by
    rw [List.filter_eq_self]
    intro c mem
    rw [h.clean c mem]
    rfl
  unfold headerSafeDeviceName
  rw [kept, h.trimmed]
  exact if_neg h.ne_nil

/-- A safe name ends no line. -/
theorem IsHeaderSafe.no_break {name : List Char} (h : IsHeaderSafe name) :
    '\r' ∉ name ∧ '\n' ∉ name := by
  constructor
  · intro mem
    exact absurd (h.clean _ mem) (by decide)
  · intro mem
    exact absurd (h.clean _ mem) (by decide)

theorem Uuid.no_break (id : Uuid) : '\r' ∉ id.text ∧ '\n' ∉ id.text := by
  constructor
  · intro mem
    exact absurd (id.digits _ mem) (by decide)
  · intro mem
    exact absurd (id.digits _ mem) (by decide)

/-! ## Lines -/

/-- A pattern that is no longer than the beginning is looked for in it alone. -/
theorem startsWithLower_append {pattern line : List Char} (h : pattern.length ≤ line.length)
    (rest : List Char) : Miracast.startsWithLower pattern (line ++ rest) =
      Miracast.startsWithLower pattern line := by
  unfold Miracast.startsWithLower
  rw [Bool.eq_iff_iff, List.isPrefixOf_iff_prefix, List.isPrefixOf_iff_prefix, List.map_append]
  constructor
  · intro starts
    exact Text.prefix_of_prefix_append starts (by rw [List.length_map]; exact h)
  · intro starts
    exact starts.trans (List.prefix_append _ _)

/-- A line that differs from the pattern at its beginning does not start with it. -/
theorem not_startsWithLower_append {pattern line : List Char} (n : Nat)
    (room : (pattern.take n).length ≤ line.length)
    (differs : Miracast.startsWithLower (pattern.take n) line = false) (rest : List Char) :
    Miracast.startsWithLower pattern (line ++ rest) = false := by
  rw [← startsWithLower_append room rest] at differs
  rw [Bool.eq_false_iff] at differs ⊢
  intro starts
  apply differs
  unfold Miracast.startsWithLower at starts ⊢
  rw [List.isPrefixOf_iff_prefix] at starts ⊢
  exact (List.take_prefix n pattern).trans starts

theorem flatMap_crlf {lines : List (List Char)} (h : lines ≠ []) :
    lines.flatMap (· ++ Text.crlf) = Text.crlf.intercalate lines ++ Text.crlf := by
  induction lines with
  | nil => exact absurd rfl h
  | cons line rest ih =>
      cases rest with
      | nil => simp
      | cons next more =>
          rw [List.flatMap_cons, ih (List.cons_ne_nil _ _), List.intercalate_cons_cons]
          simp

theorem encode_blankLine : Utf8.encode Text.blankLine = headerEndMark := by
  rw [Utf8.encode_ascii (List.all_iff_forall_prop.mp (by decide))]
  rfl

theorem headerFormat_eq {lines : List (List Char)} (h : lines ≠ []) :
    headerFormat lines = Utf8.encode (Text.crlf.intercalate lines) ++ headerEndMark := by
  have blank : Text.crlf ++ Text.crlf = Text.blankLine := rfl
  rw [headerFormat, flatMap_crlf h, List.append_assoc, blank, Utf8.encode_append,
    encode_blankLine]

/-- The blank line behind the lines is the first one in the bytes, too. -/
theorem find_headerEndMark {lines : List (List Char)} (hne : lines ≠ [])
    (h : ∀ line ∈ lines, Text.IsLine line) (body : List UInt8) :
    HttpSession.findHeaderEnd (Utf8.encode (Text.crlf.intercalate lines) ++ (headerEndMark ++ body)) =
      some (Utf8.encode (Text.crlf.intercalate lines)).length := by
  have inText := Text.find_blankLine hne h []
  have ascii : ∀ c ∈ Text.blankLine, Utf8.IsAscii c := List.all_iff_forall_prop.mp (by decide)
  have inBytes := Utf8.find_encode ascii (by decide) inText
  rw [List.append_nil, List.take_left, Utf8.encode_append, encode_blankLine] at inBytes
  rw [HttpSession.findHeaderEnd, ← List.append_assoc]
  exact Text.find_append inBytes body

theorem lengthLine_eq (length : Nat) : lengthLine length =
    "Content-Length".toList ++ ':' :: ([' '] ++ (Miracast.decimal length ++ [])) := by
  have name : "Content-Length: ".toList = "Content-Length".toList ++ [':', ' '] := by decide
  have value : [':', ' '] ++ Miracast.decimal length = ':' :: ([' '] ++ Miracast.decimal length) :=
    rfl
  unfold lengthLine
  rw [name, List.append_nil, List.append_assoc]
  exact congrArg (fun tail => "Content-Length".toList ++ tail) value

theorem isLine_lengthLine (length : Nat) : Text.IsLine (lengthLine length) :=
  Miracast.isLine_append_decimal (Text.isLine_of_all (by decide)) length

theorem not_isDeviceName_lengthLine (length : Nat) : isDeviceName (lengthLine length) = false :=
  not_startsWithLower_append 1 (by decide) (by decide) _

/-- One line declares the length, in a spelling that is read. -/
theorem declaredLength_of_lines {headers : List Char} {front : List (List Char)} {length : Nat}
    (read : Text.lines headers = front ++ [lengthLine length])
    (others : ∀ line ∈ front, Miracast.startsWithLower "content-length:".toList line = false) :
    DeclaredLength headers length ∧ IsSpelled headers := by
  have last : lengthLine length ∈ Text.lines headers := by
    rw [read]
    exact List.mem_append_right _ (List.mem_singleton_self _)
  have notContentLength : ∀ line ∈ front ++ [], ¬ Miracast.IsContentLength line := by
    intro line mem
    rw [List.append_nil] at mem
    rw [← Miracast.startsWithLower_iff, others line mem]
    exact Bool.false_ne_true
  refine ⟨⟨?_, lengthLine length, last, ?_⟩, ?_⟩
  · rw [read, lengthLine_eq]
    refine .present notContentLength (by decide) ?_ (Text.digits_ne_nil 10 _) ?_
      (Text.ofDigits_digits (by decide) (by decide) _)
    · intro c mem
      exact Or.inl (List.mem_singleton.mp mem)
    · intro c mem
      exact Text.exists_digit_of_mem (by decide) mem
  · rw [lengthLine_eq]
    exact ⟨_, _, rfl, by decide⟩
  · rw [lengthLine_eq] at last
    exact ⟨_, _, Or.inl rfl, last⟩

/-- **Lines without a line break are read back**, and the last declares the length. -/
theorem splitsInto_of_lines {front : List (List Char)} {body : List UInt8}
    (isLine : ∀ line ∈ front, Text.IsLine line)
    (others : ∀ line ∈ front, Miracast.startsWithLower "content-length:".toList line = false)
    (oneName : front.countP isDeviceName = 1) (fits : body.length < UInt64.size) :
    SplitsInto (headerFormat (front ++ [lengthLine body.length]) ++ body)
      (front ++ [lengthLine body.length]) body := by
  have nonempty : front ++ [lengthLine body.length] ≠ [] :=
    List.append_ne_nil_of_right_ne_nil _ (List.cons_ne_nil _ _)
  have all : ∀ line ∈ front ++ [lengthLine body.length], Text.IsLine line := by
    intro line mem
    rcases List.mem_append.mp mem with mem | mem
    · exact isLine line mem
    · rw [List.mem_singleton.mp mem]
      exact isLine_lengthLine _
  have read := Text.lines_intercalate all
  have bytes := headerFormat_eq nonempty
  obtain ⟨declared, spelled⟩ := declaredLength_of_lines read others
  refine ⟨?_, ?_, ?_, read, declared, parseContentLength_of_declared declared spelled fits, ?_⟩
  · rw [bytes, List.append_assoc]
  · intro line mem
    exact ⟨(all line mem).no_cr, (all line mem).no_lf⟩
  · rw [bytes, List.append_assoc]
    exact find_headerEndMark nonempty all body
  · rw [List.countP_append, oneName, List.countP_singleton, not_isDeviceName_lengthLine]
    rfl

/-! ## The requests -/

/-- The lines in front of the length, for a name and an identifier without a line break. -/
structure CarriesName (front : List (List Char)) : Prop where
  isLine : ∀ line ∈ front, Text.IsLine line
  others : ∀ line ∈ front, Miracast.startsWithLower "content-length:".toList line = false
  oneName : front.countP isDeviceName = 1

theorem carriesName_commonLines {sessionId deviceName : List Char}
    (session : '\r' ∉ sessionId ∧ '\n' ∉ sessionId)
    (device : '\r' ∉ deviceName ∧ '\n' ∉ deviceName) :
    CarriesName (commonLines sessionId deviceName) := by
  refine ⟨?_, ?_, ?_⟩
  · intro line mem
    simp only [commonLines, List.mem_cons, List.not_mem_nil, or_false] at mem
    rcases mem with rfl | rfl | rfl | rfl
    · exact Text.isLine_of_all (by decide)
    · exact (Text.isLine_of_all (by decide)).append device.1 device.2
    · exact (Text.isLine_of_all (by decide)).append session.1 session.2
    · exact Text.isLine_of_all (by decide)
  · intro line mem
    simp only [commonLines, List.mem_cons, List.not_mem_nil, or_false] at mem
    rcases mem with rfl | rfl | rfl | rfl
    · decide
    · rw [startsWithLower_append (by decide)]
      decide
    · rw [startsWithLower_append (by decide)]
      decide
    · decide
  · have agent : isDeviceName ("User-Agent: ".toList ++ airplayUserAgent) = false := by decide
    have name : isDeviceName ("X-Apple-Device-Name: ".toList ++ deviceName) = true := by
      rw [isDeviceName, startsWithLower_append (by decide)]
      decide
    have identifier : isDeviceName ("X-Apple-Session-ID: ".toList ++ sessionId) = false := by
      rw [isDeviceName, startsWithLower_append (by decide)]
      decide
    have version : isDeviceName "X-Apple-ProtocolVersion: 1".toList = false := by decide
    rw [commonLines, List.countP_cons_of_neg (Bool.eq_false_iff.mp agent),
      List.countP_cons_of_pos name, List.countP_cons_of_neg (Bool.eq_false_iff.mp identifier),
      List.countP_cons_of_neg (Bool.eq_false_iff.mp version), List.countP_nil]

/-- A line that is neither a length nor a name. -/
def isPlain (line : List Char) : Bool :=
  (! line.isEmpty && line.all fun c => c != '\r' && c != '\n') &&
    ! Miracast.startsWithLower "content-length:".toList line && ! isDeviceName line

/-- Lines that are neither may stand around. -/
theorem CarriesName.surround {front before after : List (List Char)} (h : CarriesName front)
    (plain : (before ++ after).all isPlain = true) : CarriesName (before ++ front ++ after) := by
  have split : ∀ line ∈ before ++ front ++ after, line ∈ front ∨ isPlain line = true := by
    intro line mem
    rw [List.mem_append, List.mem_append] at mem
    rw [List.all_eq_true] at plain
    rcases mem with (mem | mem) | mem
    · exact Or.inr (plain line (List.mem_append_left _ mem))
    · exact Or.inl mem
    · exact Or.inr (plain line (List.mem_append_right _ mem))
  have none : (before ++ after).countP isDeviceName = 0 := by
    rw [List.countP_eq_zero]
    intro line mem
    have other := List.all_eq_true.mp plain line mem
    simp only [isPlain, Bool.and_eq_true, Bool.not_eq_true'] at other
    rw [other.2]
    exact Bool.false_ne_true
  refine ⟨?_, ?_, ?_⟩
  · intro line mem
    rcases split line mem with mem | other
    · exact h.isLine line mem
    · rw [isPlain, Bool.and_assoc, Bool.and_eq_true] at other
      exact Text.isLine_of_all other.1
  · intro line mem
    rcases split line mem with mem | other
    · exact h.others line mem
    · simp only [isPlain, Bool.and_eq_true, Bool.not_eq_true'] at other
      exact other.1.2
  · rw [List.countP_append] at none
    rw [List.countP_append, List.countP_append, h.oneName]
    omega

section

variable {sessionId deviceName : List Char}

theorem splitsInto_info (session : '\r' ∉ sessionId ∧ '\n' ∉ sessionId)
    (device : '\r' ∉ deviceName ∧ '\n' ∉ deviceName) :
    SplitsInto (headerFormat (infoLines sessionId deviceName)) (infoLines sessionId deviceName)
      [] := by
  have front := (carriesName_commonLines session device).surround
    (show (["GET /info HTTP/1.1".toList] ++ []).all isPlain = true by decide)
  have zero : "Content-Length: 0".toList = lengthLine 0 := by decide
  have lines : infoLines sessionId deviceName = ["GET /info HTTP/1.1".toList] ++
      commonLines sessionId deviceName ++ [] ++ [lengthLine 0] := by
    rw [infoLines, zero, List.append_nil]
    rfl
  have split := splitsInto_of_lines front.isLine front.others front.oneName
    (show ([] : List UInt8).length < UInt64.size by decide)
  rw [List.append_nil] at split
  rw [lines]
  exact split

theorem splitsInto_stream (session : '\r' ∉ sessionId ∧ '\n' ∉ sessionId)
    (device : '\r' ∉ deviceName ∧ '\n' ∉ deviceName) (body : Bytes) :
    SplitsInto (headerFormat (streamLines sessionId deviceName body.bytes.length) ++ body.bytes)
      (streamLines sessionId deviceName body.bytes.length) body.bytes := by
  have front := (carriesName_commonLines session device).surround
    (show (["POST /stream HTTP/1.1".toList] ++
      ["Content-Type: application/x-apple-binary-plist".toList]).all isPlain = true by decide)
  have lines : streamLines sessionId deviceName body.bytes.length =
      ["POST /stream HTTP/1.1".toList] ++ commonLines sessionId deviceName ++
        ["Content-Type: application/x-apple-binary-plist".toList] ++
        [lengthLine body.bytes.length] := by
    rw [streamLines, List.append_assoc _ _ [lengthLine _]]
    rfl
  rw [lines]
  exact splitsInto_of_lines front.isLine front.others front.oneName body.fits

end

section

variable (toWriterBinary : WriterBinary) (width height fps : UInt32) (id : Uuid)
variable (deviceName : List Char)

theorem requestsStream_buildStreamRequest :
    RequestsStream toWriterBinary width height fps id.text deviceName
      (buildStreamRequest toWriterBinary width height fps id.text deviceName) := by
  unfold RequestsStream buildStreamRequest
  cases toWriterBinary (streamParams width height fps id.text) with
  | error e => rfl
  | ok body =>
      have name := (isHeaderSafe_headerSafeDeviceName deviceName).no_break
      exact ⟨_, rfl, splitsInto_stream id.no_break name body⟩

theorem requestsStream_postStream :
    RequestsStream toWriterBinary width height fps id.text deviceName
      ((postStream toWriterBinary width height fps id.text deviceName).map List.flatten) := by
  unfold RequestsStream postStream
  cases toWriterBinary (streamParams width height fps id.text) with
  | error e => rfl
  | ok body =>
      have name := (isHeaderSafe_headerSafeDeviceName deviceName).no_break
      refine ⟨_, rfl, ?_⟩
      simpa using splitsInto_stream id.no_break name body

/-- **No header injection.**  Whatever the name, each request splits into the lines that are
meant, one of them with the name, and the body, whose length is declared; and a safe name is
one that stays as it is. -/
theorem no_header_injection :
    SplitsInto (getInfo id.text deviceName)
        (infoLines id.text (headerSafeDeviceName deviceName)) [] ∧
      SplitsInto (getInfoRaw id.text deviceName)
        (infoLines id.text (headerSafeDeviceName deviceName)) [] ∧
      RequestsStream toWriterBinary width height fps id.text deviceName
        ((postStream toWriterBinary width height fps id.text deviceName).map List.flatten) ∧
      RequestsStream toWriterBinary width height fps id.text deviceName
        (buildStreamRequest toWriterBinary width height fps id.text deviceName) ∧
      headerSafeDeviceName (headerSafeDeviceName deviceName) = headerSafeDeviceName deviceName ∧
      headerSafeDeviceName deviceName ≠ [] ∧
      (IsHeaderSafe deviceName → headerSafeDeviceName deviceName = deviceName) := by
  have safe := isHeaderSafe_headerSafeDeviceName deviceName
  have info := splitsInto_info id.no_break safe.no_break
  exact ⟨info, info, requestsStream_postStream _ _ _ _ _ _,
    requestsStream_buildStreamRequest _ _ _ _ _ _, headerSafeDeviceName_of_isHeaderSafe safe,
    safe.ne_nil, headerSafeDeviceName_of_isHeaderSafe⟩

end

end OpenPlay.Airplay
