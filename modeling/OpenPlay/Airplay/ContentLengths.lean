import OpenPlay.Airplay.ControlRequest
import OpenPlay.Airplay.HttpSession

/-!
# Four readers of one header

`Content-Length` is read in four places: for a pairing response, for a response of the
session, for a response on the encrypted channel, and for an RTSP message.  All four take the
first line that suits them.  They differ in the lines that do: the name in any letter case, in
two spellings, or in one of these with a space behind the colon; and two of them read no
further than a second colon.

`content_lengths_agree_iff` says for which header blocks they read the same length.
-/

namespace OpenPlay.Airplay

open Miracast (startsWithLower headerField parseTrimmed)

/-- The four readers of the header block in front of a blank line read the same length. -/
structure ReadAlike (block : List UInt8) : Prop where
  pairing : (parseContentLength (Utf8.decodeLossy block)).getD 0 =
    Miracast.contentLength (Utf8.decodeLossy block)
  session : (HttpSession.parseContentLength (Utf8.decodeLossy block)).getD 0 =
    Miracast.contentLength (Utf8.decodeLossy block)
  channel : (ControlChannel.contentLength (block ++ headerEndMark)).getD 0 =
    Miracast.contentLength (Utf8.decodeLossy block)

/-! ## Lines -/

/-- The name in any letter case. -/
def isNamed (line : List Char) : Bool := startsWithLower "content-length:".toList line

/-- The name in one of two spellings. -/
def isSpelled (line : List Char) : Bool :=
  "Content-Length:".toList.isPrefixOf line || "content-length:".toList.isPrefixOf line

/-- One of them with a space behind the colon. -/
def isSpaced (line : List Char) : Bool :=
  "Content-Length: ".toList.isPrefixOf line || "content-length: ".toList.isPrefixOf line

/-- What stands behind the colon, which ends the first 15 characters. -/
def valueOf (line : List Char) : List Char := line.drop 15

/-- What stands in front of a second colon. -/
def frontOf (line : List Char) : List Char := (valueOf line).takeWhile (· ≠ ':')

/-- The number that some text is; 0 if it is none below `2 ^ 64`. -/
def number (text : List Char) : Nat := (parseTrimmed UInt64.size text).getD 0

/-- The number of the first line of a kind; 0 without such a line. -/
def firstNumber (kind : List Char → Bool) (value : List Char → List Char)
    (lines : List (List Char)) : Nat :=
  ((lines.find? kind).map fun line => number (value line)).getD 0

/-- The first lines of the three kinds have the same number. -/
structure SameNumbers (lines : List (List Char)) : Prop where
  spelled : firstNumber isSpelled valueOf lines = firstNumber isNamed frontOf lines
  spaced : firstNumber isSpaced valueOf lines = firstNumber isNamed frontOf lines

/-- A line that all four read. -/
structure IsPlain (line : List Char) : Prop where
  spaced : isSpaced line = true
  noColon : ':' ∉ valueOf line

/-! ## What each reader reads -/

theorem findSome?_if {α β : Type} (p : α → Bool) (g : α → β) (l : List α) :
    l.findSome? (fun a => if p a then some (g a) else none) = (l.find? p).map g := by
  rw [List.find?_eq_findSome?_guard, List.map_findSome?]
  congr 1
  funext a
  by_cases h : p a <;> simp [Option.guard, h]

/-- A reader that knows two spellings of the same length. -/
theorem stripPrefix_or {a b : List Char} {n : Nat} (hfirst : a.length = n) (hsecond : b.length = n)
    (line : List Char) :
    (Text.stripPrefix a line).or (Text.stripPrefix b line) =
      if a.isPrefixOf line || b.isPrefixOf line then some (line.drop n) else none := by
  unfold Text.stripPrefix
  rw [hfirst, hsecond]
  by_cases ha : a.isPrefixOf line <;> by_cases hb : b.isPrefixOf line <;> simp [ha, hb]

theorem session_eq (headers : List Char) :
    (HttpSession.parseContentLength headers).getD 0 =
      firstNumber isSpelled valueOf (Text.lines headers) := by
  have hread : (fun line => (Text.stripPrefix "Content-Length:".toList line).or
      (Text.stripPrefix "content-length:".toList line)) =
        fun line => if isSpelled line then some (valueOf line) else none := by
    funext line
    exact stripPrefix_or (by decide) (by decide) line
  rw [HttpSession.parseContentLength, hread, findSome?_if, firstNumber]
  rcases (Text.lines headers).find? isSpelled with _ | line <;> rfl

/-- A space in front of a number does not count. -/
theorem number_valueOf_of_isSpaced {line : List Char} (h : isSpaced line = true) :
    number (valueOf line) = number (line.drop 16) := by
  have hspace : valueOf line = ' ' :: line.drop 16 := by
    rw [isSpaced, Bool.or_eq_true, List.isPrefixOf_iff_prefix, List.isPrefixOf_iff_prefix] at h
    rcases h with ⟨value, rfl⟩ | ⟨value, rfl⟩ <;> rfl
  rw [hspace, number, number, parseTrimmed, parseTrimmed, Text.trim_cons (by decide)]

theorem pairing_eq (headers : List Char) :
    (parseContentLength headers).getD 0 = firstNumber isSpaced valueOf (Text.lines headers) := by
  have hread : (fun line => (Text.stripPrefix "Content-Length: ".toList line).or
      (Text.stripPrefix "content-length: ".toList line)) =
        fun line => if isSpaced line then some (line.drop 16) else none := by
    funext line
    exact stripPrefix_or (by decide) (by decide) line
  rw [parseContentLength, hread, findSome?_if, firstNumber]
  rcases hfind : (Text.lines headers).find? isSpaced with _ | line
  · rfl
  · have hspaced := List.find?_some hfind
    rw [Option.map_some, Option.map_some, Option.getD_some, number_valueOf_of_isSpaced hspaced]
    rfl

theorem splitOn_head (value : List Char) :
    ∃ pieces, value.splitOn ':' = value.takeWhile (· ≠ ':') :: pieces := by
  by_cases hmem : ':' ∈ value
  · obtain ⟨front, rest, rfl, hfront⟩ := List.eq_append_cons_of_mem hmem
    have htake : (front ++ ':' :: rest).takeWhile (· ≠ ':') = front := by
      rw [List.takeWhile_append_of_pos, List.takeWhile_cons_of_neg (by simp), List.append_nil]
      intro c hc
      exact decide_eq_true fun h => hfront (h ▸ hc)
    exact ⟨rest.splitOn ':', by rw [List.splitOn_append_cons_self_of_not_mem hfront, htake]⟩
  · have htake : value.takeWhile (· ≠ ':') = value :=
      List.takeWhile_eq_self_iff.mpr fun c hc => decide_eq_true fun h => hmem (h ▸ hc)
    exact ⟨[], by rw [List.splitOn_eq_singleton hmem, htake]⟩

theorem splitOn_of_isNamed {line : List Char} (h : isNamed line = true) :
    (line.splitOn ':')[1]? = some (frontOf line) := by
  obtain ⟨name, value, rfl, hname⟩ := (Miracast.startsWithLower_iff line).mp h
  have hcolon : ':' ∉ name := by
    intro hmem
    have hlower := List.mem_map_of_mem (f := Char.toLower) hmem
    rw [hname, (Miracast.toLower_eq_colon_iff ':').mpr rfl] at hlower
    exact absurd hlower (by decide)
  have hlength : name.length = 14 := by
    rw [← List.length_map Char.toLower, hname]
    rfl
  obtain ⟨pieces, hpieces⟩ := splitOn_head value
  have hvalue : valueOf (name ++ ':' :: value) = value := by
    rw [valueOf, List.drop_append, List.drop_of_length_le (by omega), hlength]
    rfl
  rw [List.splitOn_append_cons_self_of_not_mem hcolon, hpieces, frontOf, hvalue]
  rfl

theorem rtsp_eq (headers : List Char) :
    Miracast.contentLength headers = firstNumber isNamed frontOf (Text.lines headers) := by
  rw [Miracast.contentLength, headerField, firstNumber]
  change ((((Text.lines headers).find? isNamed).bind _).bind _).getD 0 = _
  rcases hfind : (Text.lines headers).find? isNamed with _ | line
  · rfl
  · rw [Option.bind_some, splitOn_of_isNamed (List.find?_some hfind)]
    rfl

theorem channel_eq (block : List UInt8) :
    (ControlChannel.contentLength (block ++ headerEndMark)).getD 0 =
      Miracast.contentLength (Utf8.decodeLossy block) := by
  -- the channel keeps the blank line, which only adds empty lines
  obtain ⟨k, hlines⟩ := Text.lines_append_blankLine (Utf8.decodeLossy block)
  have hempty : (List.replicate k ([] : List Char)).find? isNamed = none := by
    rw [List.find?_eq_none]
    intro line hline
    rw [List.eq_of_mem_replicate hline]
    exact Bool.false_ne_true
  change Miracast.contentLength (Utf8.decodeLossy (block ++ headerEndMark)) = _
  rw [rtsp_eq, rtsp_eq, decodeLossy_head, hlines, firstNumber, firstNumber, List.find?_append,
    hempty, Option.or_none]

theorem readAlike_iff (block : List UInt8) :
    ReadAlike block ↔ SameNumbers (Text.lines (Utf8.decodeLossy block)) := by
  constructor
  · intro h
    refine ⟨?_, ?_⟩
    · rw [← session_eq, ← rtsp_eq, h.session]
    · rw [← pairing_eq, ← rtsp_eq, h.pairing]
  · intro h
    refine ⟨?_, ?_, channel_eq block⟩
    · rw [pairing_eq, rtsp_eq, h.spaced]
    · rw [session_eq, rtsp_eq, h.spelled]

/-! ## Plain lines -/

section

variable {line : List Char} {lines : List (List Char)}

theorem isSpelled_of_isSpaced (h : isSpaced line = true) : isSpelled line = true := by
  rw [isSpaced, Bool.or_eq_true, List.isPrefixOf_iff_prefix, List.isPrefixOf_iff_prefix] at h
  rw [isSpelled, Bool.or_eq_true, List.isPrefixOf_iff_prefix, List.isPrefixOf_iff_prefix]
  rcases h with h | h
  · exact .inl (List.IsPrefix.trans (by decide) h)
  · exact .inr (List.IsPrefix.trans (by decide) h)

theorem isNamed_of_isSpelled (h : isSpelled line = true) : isNamed line = true := by
  rw [isSpelled, Bool.or_eq_true, List.isPrefixOf_iff_prefix, List.isPrefixOf_iff_prefix] at h
  rw [isNamed, startsWithLower, List.isPrefixOf_iff_prefix]
  rcases h with h | h
  · exact List.IsPrefix.trans (by decide) (h.map Char.toLower)
  · exact List.IsPrefix.trans (by decide) (h.map Char.toLower)

/-- A colon is no part of a number. -/
theorem number_of_colon {value : List Char} (h : ':' ∈ value) : number value = 0 := by
  rw [number, parseTrimmed,
    Text.parseUnsigned_of_mem (Text.mem_trim h (by decide)) (by decide) (by decide)]
  rfl

theorem frontOf_eq (h : ':' ∉ valueOf line) : frontOf line = valueOf line :=
  List.takeWhile_eq_self_iff.mpr fun _ hc => decide_eq_true fun heq => h (heq ▸ hc)

/-- What is a number to the end of the line is the same number up to a second colon. -/
theorem number_frontOf (h : number (valueOf line) ≠ 0) :
    ':' ∉ valueOf line ∧ number (frontOf line) = number (valueOf line) := by
  have hcolon : ':' ∉ valueOf line := fun hmem => h (number_of_colon hmem)
  exact ⟨hcolon, by rw [frontOf_eq hcolon]⟩

/-- The first line of a kind is the first of a smaller kind that it belongs to. -/
theorem find?_of_imp {p q : List Char → Bool} (himp : ∀ line, q line = true → p line = true)
    (hfind : lines.find? p = some line) (hline : q line = true) : lines.find? q = some line := by
  obtain ⟨-, front, rest, rfl, hfront⟩ := List.find?_eq_some_iff_append.mp hfind
  refine List.find?_eq_some_iff_append.mpr ⟨hline, front, rest, rfl, fun other hother => ?_⟩
  have hnot := hfront other hother
  rw [Bool.not_eq_true'] at hnot ⊢
  rcases hother : q other with _ | _
  · rfl
  · exact absurd (hnot.symm.trans (himp other hother)) Bool.false_ne_true

theorem firstNumber_of_find {kind : List Char → Bool} {value : List Char → List Char}
    (h : lines.find? kind = some line) : firstNumber kind value lines = number (value line) := by
  rw [firstNumber, h]
  rfl

/-- Where the first line is plain, it is the one that all four read. -/
theorem sameNumbers_of_isPlain (hfind : lines.find? isNamed = some line) (h : IsPlain line) :
    SameNumbers lines where
  spelled := by
    have hspelled := find?_of_imp (fun _ => isNamed_of_isSpelled) hfind
      (isSpelled_of_isSpaced h.spaced)
    rw [firstNumber_of_find hspelled, firstNumber_of_find hfind, frontOf_eq h.noColon]
  spaced := by
    have hspaced := find?_of_imp
      (fun _ hline => isNamed_of_isSpelled (isSpelled_of_isSpaced hline)) hfind h.spaced
    rw [firstNumber_of_find hspaced, firstNumber_of_find hfind, frontOf_eq h.noColon]

/-! ## One line at most -/

/-- Behind the first line of a kind there is no other. -/
theorem eq_of_isNamed (hone : (lines.filter isNamed).length ≤ 1)
    (hfind : lines.find? isNamed = some line) {other : List Char} (hother : other ∈ lines)
    (hnamed : isNamed other = true) : other = line := by
  have hfirst : line ∈ lines.filter isNamed :=
    List.mem_filter.mpr ⟨List.mem_of_find?_eq_some hfind, List.find?_some hfind⟩
  obtain ⟨only, honly⟩ := List.length_eq_one_iff.mp
    (Nat.le_antisymm hone (List.length_pos_of_mem hfirst))
  have hsecond : other ∈ lines.filter isNamed := List.mem_filter.mpr ⟨hother, hnamed⟩
  rw [honly, List.mem_singleton] at hfirst hsecond
  rw [hfirst, hsecond]

/-- The number of a smaller kind, where it has the one line or none. -/
theorem firstNumber_of_one (hone : (lines.filter isNamed).length ≤ 1)
    (hfind : lines.find? isNamed = some line) {kind : List Char → Bool}
    (himp : ∀ line, kind line = true → isNamed line = true) :
    firstNumber kind valueOf lines = if kind line then number (valueOf line) else 0 := by
  split_ifs with hkind
  · exact firstNumber_of_find (find?_of_imp himp hfind hkind)
  · have hnone : lines.find? kind = none := by
      rw [List.find?_eq_none]
      intro other hother hsome
      rw [eq_of_isNamed hone hfind hother (himp other hsome)] at hsome
      exact hkind hsome
    rw [firstNumber, hnone]
    rfl

/-- **One line**: it has no number, or all four read it. -/
theorem sameNumbers_iff_of_one (hone : (lines.filter isNamed).length ≤ 1)
    (hfind : lines.find? isNamed = some line) :
    SameNumbers lines ↔ number (frontOf line) = 0 ∨ IsPlain line := by
  have hspelled := firstNumber_of_one hone hfind fun _ => isNamed_of_isSpelled
  have hspaced := firstNumber_of_one hone hfind fun _ hline =>
    isNamed_of_isSpelled (isSpelled_of_isSpaced hline)
  constructor
  · intro h
    by_cases hzero : number (frontOf line) = 0
    · exact .inl hzero
    · -- the pairing reads to the end of the line, so there is no second colon
      have heq := h.spaced
      rw [hspaced, firstNumber_of_find hfind] at heq
      split_ifs at heq with hkind
      · exact .inr ⟨hkind, (number_frontOf (heq.trans_ne hzero)).1⟩
      · exact absurd heq.symm hzero
  · rintro (hzero | hplain)
    · have hvalue : number (valueOf line) = 0 := by
        by_contra hvalue
        exact hvalue ((number_frontOf hvalue).2.symm.trans hzero)
      refine ⟨?_, ?_⟩
      · rw [hspelled, firstNumber_of_find hfind, hvalue, hzero, ite_self]
      · rw [hspaced, firstNumber_of_find hfind, hvalue, hzero, ite_self]
    · exact sameNumbers_of_isPlain hfind hplain

theorem sameNumbers_of_none (hnone : lines.find? isNamed = none) : SameNumbers lines := by
  have hkind : ∀ {kind : List Char → Bool}, (∀ line, kind line = true → isNamed line = true) →
      lines.find? kind = none := by
    intro kind himp
    rw [List.find?_eq_none] at hnone ⊢
    exact fun line hline hsome => hnone line hline (himp line hsome)
  refine ⟨?_, ?_⟩
  · rw [firstNumber, firstNumber, hnone, hkind fun _ => isNamed_of_isSpelled]
    rfl
  · rw [firstNumber, firstNumber, hnone,
      hkind fun _ hline => isNamed_of_isSpelled (isSpelled_of_isSpaced hline)]
    rfl

end

/-- **Which header blocks declare one length.**  The first lines of the three kinds have the
same number.  They do if the first line is plain; and where only one line declares a length,
it has to be plain or without a number. -/
theorem content_lengths_agree_iff (block : List UInt8) :
    (ReadAlike block ↔ SameNumbers (Text.lines (Utf8.decodeLossy block))) ∧
    ((∃ line, (Text.lines (Utf8.decodeLossy block)).find? isNamed = some line ∧ IsPlain line) →
      ReadAlike block) ∧
    (((Text.lines (Utf8.decodeLossy block)).filter isNamed).length ≤ 1 →
      (ReadAlike block ↔ ∀ line ∈ Text.lines (Utf8.decodeLossy block), isNamed line = true →
        number (frontOf line) = 0 ∨ IsPlain line)) := by
  refine ⟨readAlike_iff block, ?_, fun hone => ?_⟩
  · rintro ⟨line, hfind, hplain⟩
    exact (readAlike_iff block).mpr (sameNumbers_of_isPlain hfind hplain)
  · rw [readAlike_iff]
    rcases hfind : (Text.lines (Utf8.decodeLossy block)).find? isNamed with _ | line
    · refine iff_of_true (sameNumbers_of_none hfind) fun line hline hnamed => ?_
      exact absurd hnamed (List.find?_eq_none.mp hfind line hline)
    · rw [sameNumbers_iff_of_one hone hfind]
      constructor
      · intro h other hother hnamed
        rwa [eq_of_isNamed hone hfind hother hnamed]
      · intro h
        exact h line (List.mem_of_find?_eq_some hfind) (List.find?_some hfind)

/-- A header block without a space behind the colon. -/
def narrowHead : List Char := "HTTP/1.1 200 OK\r\nContent-Length:7".toList

/-- The reader of pairing responses knows the name only with a space behind it. -/
theorem content_lengths_differ : ¬ ReadAlike (Utf8.encode narrowHead) := by
  intro h
  have hpairing := h.pairing
  rw [Utf8.decodeLossy_encode] at hpairing
  exact absurd hpairing (by decide)

end OpenPlay.Airplay
