import Mathlib.Data.Bool.AllAny
import Mathlib.Data.List.DropRight
import Mathlib.Data.List.Infix
import Mathlib.Data.List.TakeWhile
import Mathlib.Data.Nat.Digits.Lemmas

/-!
# Text

What a parser of text headers takes from its string library, on lists of
characters: the first occurrence of a pattern, lines, words, trimming, and
unsigned numbers in some radix with a bound on their size.

* `find_eq_some_iff` characterises the first occurrence, `find_append` says that
  more text behind it does not move it.
* `lines_crlf` and `words_space` read a line and a word off the front.
* `parseUnsigned_eq_some_iff`: the texts that are read as a number.
  `parseUnsigned_digits`: a number is read back from its digits, padded or not.
-/

namespace Text

/-! ## First occurrences -/

section Find

variable {α β : Type*} [DecidableEq α] [DecidableEq β]

/-- The position where a pattern first occurs. -/
def find (needle : List α) : List α → Option Nat
  | [] => if needle = [] then some 0 else none
  | x :: rest =>
      if needle.isPrefixOf (x :: rest) then some 0 else (find needle rest).map (· + 1)

theorem find_eq_some_iff {needle hay : List α} {i : Nat} :
    find needle hay = some i ↔
      i ≤ hay.length ∧ needle <+: hay.drop i ∧ ∀ j < i, ¬ needle <+: hay.drop j := by
  induction hay generalizing i with
  | nil =>
    rw [find]
    by_cases h : needle = []
    · rw [if_pos h, h]
      constructor
      · intro hi
        cases hi
        exact ⟨Nat.le_refl _, List.nil_prefix, fun j hj => absurd hj (Nat.not_lt_zero j)⟩
      · rintro ⟨hle, -, -⟩
        rw [Nat.le_zero.mp hle]
    · rw [if_neg h]
      constructor
      · intro hi
        cases hi
      · rintro ⟨-, hstart, -⟩
        rw [List.drop_nil] at hstart
        exact absurd (List.prefix_nil.mp hstart) h
  | cons x rest ih =>
    rw [find]
    by_cases h : needle <+: x :: rest
    · rw [if_pos (List.isPrefixOf_iff_prefix.mpr h)]
      constructor
      · intro hi
        cases hi
        exact ⟨Nat.zero_le _, h, fun j hj => absurd hj (Nat.not_lt_zero j)⟩
      · rintro ⟨-, -, hfirst⟩
        rcases i with _ | i
        · rfl
        · exact absurd h (hfirst 0 (Nat.succ_pos i))
    · rw [if_neg fun hp => h (List.isPrefixOf_iff_prefix.mp hp), Option.map_eq_some_iff]
      constructor
      · rintro ⟨k, hk, rfl⟩
        obtain ⟨hle, hstart, hfirst⟩ := ih.mp hk
        refine ⟨Nat.succ_le_succ hle, hstart, fun j hj => ?_⟩
        rcases j with _ | j
        · exact h
        · exact hfirst j (Nat.lt_of_succ_lt_succ hj)
      · rintro ⟨hle, hstart, hfirst⟩
        rcases i with _ | i
        · exact absurd hstart h
        · refine ⟨i, ih.mpr ⟨Nat.le_of_succ_le_succ hle, hstart, fun j hj => ?_⟩, rfl⟩
          exact hfirst (j + 1) (Nat.succ_lt_succ hj)

theorem length_le_of_find {needle hay : List α} {i : Nat} (h : find needle hay = some i) :
    i + needle.length ≤ hay.length := by
  obtain ⟨hle, hstart, -⟩ := find_eq_some_iff.mp h
  have hlen := hstart.length_le
  rw [List.length_drop] at hlen
  omega

omit [DecidableEq α] in
theorem prefix_of_prefix_append {needle front more : List α} (h : needle <+: front ++ more)
    (hlen : needle.length ≤ front.length) : needle <+: front := by
  obtain ⟨rest, hrest⟩ := h
  have htake := congrArg (List.take needle.length) hrest
  rw [List.take_left, List.take_append_of_le_length hlen] at htake
  rw [htake]
  exact List.take_prefix _ _

/-- **More text does not move the first occurrence.** -/
theorem find_append {needle hay : List α} {i : Nat} (h : find needle hay = some i)
    (more : List α) : find needle (hay ++ more) = some i := by
  have hroom := length_le_of_find h
  obtain ⟨hle, hstart, hfirst⟩ := find_eq_some_iff.mp h
  refine find_eq_some_iff.mpr ⟨?_, ?_, fun j hj hbad => hfirst j hj ?_⟩
  · rw [List.length_append]
    omega
  · rw [List.drop_append_of_le_length hle]
    exact hstart.trans (List.prefix_append _ _)
  · rw [List.drop_append_of_le_length (by omega)] at hbad
    refine prefix_of_prefix_append hbad ?_
    rw [List.length_drop]
    omega

/-- The first occurrence is found in whatever holds it. -/
theorem find_take {needle hay : List α} {i n : Nat} (h : find needle hay = some i)
    (hn : i + needle.length ≤ n) : find needle (hay.take n) = some i := by
  obtain ⟨hle, hstart, hfirst⟩ := find_eq_some_iff.mp h
  refine find_eq_some_iff.mpr ⟨?_, ?_, fun j hj hbad => hfirst j hj ?_⟩
  · rw [List.length_take]
    exact Nat.le_min.mpr ⟨Nat.le_of_add_right_le hn, hle⟩
  · rw [List.drop_take, List.prefix_take_iff]
    exact ⟨hstart, Nat.le_sub_of_add_le' hn⟩
  · rw [List.drop_take] at hbad
    exact hbad.trans (List.take_prefix _ _)

theorem find_map {f : α → β} {needle hay : List α}
    (hf : ∀ x ∈ needle, ∀ y ∈ hay, f x = f y → x = y) :
    find (needle.map f) (hay.map f) = find needle hay := by
  have hstart : ∀ l : List α, (∀ y ∈ l, y ∈ hay) →
      ((needle.map f).isPrefixOf (l.map f) = needle.isPrefixOf l) := by
    intro l hl
    rw [Bool.eq_iff_iff, List.isPrefixOf_iff_prefix, List.isPrefixOf_iff_prefix]
    refine ⟨fun h => ?_, fun h => h.map f⟩
    induction needle generalizing l with
    | nil =>
      exact List.nil_prefix
    | cons x more ih =>
      rcases l with _ | ⟨y, rest⟩
      · exact absurd (List.prefix_nil.mp h) (List.cons_ne_nil _ _)
      · rw [List.map_cons, List.map_cons, List.cons_prefix_cons] at h
        rw [List.cons_prefix_cons]
        refine ⟨hf x List.mem_cons_self y (hl y List.mem_cons_self) h.1, ?_⟩
        exact ih (fun a ha => hf a (List.mem_cons_of_mem x ha)) rest
          (fun z hz => hl z (List.mem_cons_of_mem y hz)) h.2
  induction hay with
  | nil =>
    rw [List.map_nil, find, find]
    simp only [List.map_eq_nil_iff]
  | cons y rest ih =>
    rw [List.map_cons, find, find, ← List.map_cons, hstart _ fun z hz => hz,
      ih (fun x hx z hz => hf x hx z (List.mem_cons_of_mem y hz))
        fun l hl => hstart l fun z hz => List.mem_cons_of_mem y (hl z hz)]

theorem find_cons_later {needle : List α} {x : α} {rest : List α}
    (h : ¬ needle <+: x :: rest) : find needle (x :: rest) = (find needle rest).map (· + 1) := by
  rw [find, if_neg fun hp => h (List.isPrefixOf_iff_prefix.mp hp)]

/-- Nothing is found where the pattern's first element does not occur. -/
theorem find_skip {x : α} {pattern skipped : List α} (h : x ∉ skipped) (rest : List α) :
    find (x :: pattern) (skipped ++ rest) =
      (find (x :: pattern) rest).map (· + skipped.length) := by
  induction skipped with
  | nil =>
    show find (x :: pattern) rest = (find (x :: pattern) rest).map id
    rw [Option.map_id]
    rfl
  | cons y more ih =>
    have hne : ¬ x :: pattern <+: y :: (more ++ rest) := by
      intro hp
      exact h (List.mem_cons.mpr (Or.inl (List.cons_prefix_cons.mp hp).1))
    rw [List.cons_append, find_cons_later hne,
      ih fun hmem => h (List.mem_cons_of_mem y hmem), Option.map_map]
    rfl

/-- `text.contains(pattern)`. -/
def contains (pattern text : List α) : Bool := (find pattern text).isSome

theorem contains_iff {pattern text : List α} : contains pattern text = true ↔ pattern <:+: text := by
  rw [contains, Option.isSome_iff_exists]
  constructor
  · rintro ⟨i, hi⟩
    obtain ⟨-, hstart, -⟩ := find_eq_some_iff.mp hi
    exact hstart.isInfix.trans (List.drop_suffix i text).isInfix
  · rintro ⟨front, rest, rfl⟩
    induction front with
    | nil =>
      refine ⟨0, find_eq_some_iff.mpr ⟨Nat.zero_le _, ?_, fun j hj => absurd hj (Nat.not_lt_zero j)⟩⟩
      exact List.prefix_append pattern rest
    | cons x front ih =>
      obtain ⟨i, hi⟩ := ih
      rw [List.cons_append, List.cons_append, find]
      split_ifs
      · exact ⟨0, rfl⟩
      · exact ⟨i + 1, by rw [hi]; rfl⟩

/-- `text.split(pattern).nth(1)`: what stands between the first and the second occurrence. -/
def secondPiece (pattern text : List α) : Option (List α) :=
  (find pattern text).map fun i =>
    let rest := text.drop (i + pattern.length)
    rest.take ((find pattern rest).getD rest.length)

theorem secondPiece_skip {x : α} {pattern skipped : List α} (h : x ∉ skipped) (rest : List α) :
    secondPiece (x :: pattern) (skipped ++ rest) = secondPiece (x :: pattern) rest := by
  rw [secondPiece, find_skip h, Option.map_map, secondPiece]
  congr 1
  funext i
  have hdrop : (skipped ++ rest).drop (i + skipped.length + (x :: pattern).length) =
      rest.drop (i + (x :: pattern).length) := by
    rw [Nat.add_right_comm, Nat.add_comm _ skipped.length, List.drop_length_add_append]
  simp only [Function.comp_apply, hdrop]

/-- Behind a pattern in front, where it does not occur again. -/
theorem secondPiece_append {pattern rest : List α} (h : find pattern rest = none) :
    secondPiece pattern (pattern ++ rest) = some rest := by
  have hfind : find pattern (pattern ++ rest) = some 0 :=
    find_eq_some_iff.mpr ⟨Nat.zero_le _, List.prefix_append _ _,
      fun j hj => absurd hj (Nat.not_lt_zero j)⟩
  rw [secondPiece, hfind, Option.map_some]
  simp only [Nat.zero_add, List.drop_left, h, Option.getD_none, List.take_length]

/-- Without a prefix, where it is one. -/
def stripPrefix (pattern text : List α) : Option (List α) :=
  if pattern.isPrefixOf text then some (text.drop pattern.length) else none

theorem stripPrefix_append (pattern text : List α) :
    stripPrefix pattern (pattern ++ text) = some text := by
  rw [stripPrefix, if_pos (List.isPrefixOf_iff_prefix.mpr (List.prefix_append _ _)),
    List.drop_left]

theorem stripPrefix_eq_some_iff {pattern text rest : List α} :
    stripPrefix pattern text = some rest ↔ text = pattern ++ rest := by
  constructor
  · intro h
    rw [stripPrefix] at h
    split_ifs at h with hprefix
    cases h
    exact (List.prefix_iff_eq_append.mp (List.isPrefixOf_iff_prefix.mp hprefix)).symm
  · rintro rfl
    exact stripPrefix_append pattern rest

/-- `text.split_once(separator)`: what stands around the first one. -/
def splitOnce (separator : α) : List α → Option (List α × List α)
  | [] => none
  | x :: rest =>
      if x = separator then some ([], rest)
      else (splitOnce separator rest).map fun pieces => (x :: pieces.1, pieces.2)

theorem splitOnce_eq_none_iff {separator : α} {text : List α} :
    splitOnce separator text = none ↔ separator ∉ text := by
  induction text with
  | nil =>
    exact iff_of_true rfl List.not_mem_nil
  | cons x rest ih =>
    rw [splitOnce, List.mem_cons, not_or]
    split_ifs with hx
    · exact iff_of_false nofun fun h => h.1 hx.symm
    · rw [Option.map_eq_none_iff, ih]
      exact (and_iff_right (Ne.symm hx)).symm

theorem splitOnce_eq_some_iff {separator : α} {text front rest : List α} :
    splitOnce separator text = some (front, rest) ↔
      text = front ++ separator :: rest ∧ separator ∉ front := by
  induction text generalizing front with
  | nil =>
    exact iff_of_false nofun fun h => List.append_ne_nil_of_right_ne_nil _
      (List.cons_ne_nil _ _) h.1.symm
  | cons x more ih =>
    rw [splitOnce]
    split_ifs with hx
    · constructor
      · intro h
        cases h
        exact ⟨by rw [hx]; rfl, List.not_mem_nil⟩
      · rintro ⟨htext, hfront⟩
        rcases front with _ | ⟨y, front⟩
        · rw [(List.cons.inj htext).2]
        · rw [hx] at htext
          exact absurd ((List.cons.inj htext).1 ▸ List.mem_cons_self) hfront
    · rw [Option.map_eq_some_iff]
      constructor
      · rintro ⟨⟨pieces, behind⟩, hpieces, h⟩
        cases h
        obtain ⟨rfl, hfront⟩ := ih.mp hpieces
        exact ⟨rfl, fun hmem => (List.mem_cons.mp hmem).elim (Ne.symm hx) hfront⟩
      · rintro ⟨htext, hfront⟩
        rcases front with _ | ⟨y, front⟩
        · exact absurd (List.cons.inj htext).1 hx
        · obtain ⟨rfl, hmore⟩ := List.cons.inj htext
          exact ⟨(front, rest),
            ih.mpr ⟨hmore, fun hmem => hfront (List.mem_cons_of_mem x hmem)⟩, rfl⟩

end Find

/-! ## Lines -/

/-- A line without the carriage return at its end. -/
def stripCr (line : List Char) : List Char :=
  if line.getLast? = some '\r' then line.dropLast else line

/-- The lines of a text, each ended by a line feed with or without a carriage
return in front, the last one possibly by the end of the text. -/
def lines (text : List Char) : List (List Char) :=
  let pieces := text.splitOn '\n'
  pieces.dropLast.map stripCr ++ (pieces.getLast?.filter (· ≠ [])).toList

theorem lines_append {line : List Char} (h : '\n' ∉ line) (text : List Char) :
    lines (line ++ '\n' :: text) = stripCr line :: lines text := by
  have hsplit : (line ++ '\n' :: text).splitOn '\n' = line :: text.splitOn '\n' :=
    List.splitOn_append_cons_self_of_not_mem h text
  obtain ⟨piece, pieces, hp⟩ := List.exists_cons_of_ne_nil (List.splitOn_ne_nil '\n' text)
  simp only [lines, hsplit, hp, List.dropLast_cons_cons, List.map_cons, List.cons_append,
    List.getLast?_cons_cons]

theorem lines_of_not_mem {line : List Char} (h : '\n' ∉ line) (hne : line ≠ []) :
    lines line = [line] := by
  simp only [lines, List.splitOn_eq_singleton h, List.dropLast_singleton, List.map_nil,
    List.nil_append, List.getLast?_singleton, Option.filter_some, hne, ne_eq,
    not_false_eq_true, decide_true, if_true, Option.toList_some]

theorem lines_ne_nil {text : List Char} (h : text ≠ []) : lines text ≠ [] := by
  by_cases hmem : '\n' ∈ text
  · obtain ⟨line, rest, rfl, hline⟩ := List.eq_append_cons_of_mem hmem
    rw [lines_append hline]
    nofun
  · rw [lines_of_not_mem hmem h]
    nofun

theorem lf_not_mem_head {text line : List Char} (h : (lines text).head? = some line) :
    '\n' ∉ line := by
  by_cases hmem : '\n' ∈ text
  · obtain ⟨front, rest, rfl, hfront⟩ := List.eq_append_cons_of_mem hmem
    rw [lines_append hfront] at h
    cases h
    intro hlf
    unfold stripCr at hlf
    split_ifs at hlf
    · exact hfront (List.mem_of_mem_dropLast hlf)
    · exact hfront hlf
  · by_cases hne : text = []
    · rw [hne] at h
      cases h
    · rw [lines_of_not_mem hmem hne] at h
      cases h
      exact hmem

/-- A line that ends in CR LF. -/
theorem lines_crlf {line : List Char} (h : '\n' ∉ line) (text : List Char) :
    lines (line ++ '\r' :: '\n' :: text) = line :: lines text := by
  have hcr : '\n' ∉ line ++ ['\r'] := by
    rw [List.mem_append, List.mem_singleton]
    rintro (hmem | hmem)
    · exact h hmem
    · cases hmem
  have hstrip : stripCr (line ++ ['\r']) = line := by
    rw [stripCr, List.getLast?_concat, if_pos rfl, List.dropLast_concat]
  have hlines := lines_append hcr text
  rw [hstrip, List.append_assoc] at hlines
  exact hlines

/-! ### Lines between CR LF -/

def crlf : List Char := ['\r', '\n']

/-- The end of a line and an empty line behind it. -/
def blankLine : List Char := ['\r', '\n', '\r', '\n']

/-- A blank line behind a text only adds empty lines. -/
theorem lines_append_blankLine (text : List Char) :
    ∃ k, lines (text ++ blankLine) = lines text ++ List.replicate k [] := by
  by_cases hmem : '\n' ∈ text
  · obtain ⟨line, rest, htext, hline⟩ := List.eq_append_cons_of_mem hmem
    obtain ⟨k, hrest⟩ := lines_append_blankLine rest
    refine ⟨k, ?_⟩
    rw [htext, List.append_assoc, List.cons_append, lines_append hline, lines_append hline, hrest,
      List.cons_append]
  · have hblank : lines (text ++ blankLine) = [text, []] := lines_crlf hmem ['\r', '\n']
    by_cases hne : text = []
    · exact ⟨2, by rw [hblank, hne]; rfl⟩
    · exact ⟨1, by rw [hblank, lines_of_not_mem hmem hne]; rfl⟩
termination_by text.length
decreasing_by
  rw [htext, List.length_append, List.length_cons]
  omega

/-- The first line of a text that goes on behind a blank line. -/
theorem head_lines_blankLine (text more : List Char) :
    (lines (text ++ (blankLine ++ more))).head? = some ((lines text).head?.getD []) := by
  by_cases hmem : '\n' ∈ text
  · obtain ⟨line, rest, rfl, hline⟩ := List.eq_append_cons_of_mem hmem
    rw [List.append_assoc, List.cons_append, lines_append hline, lines_append hline]
    rfl
  · have hblank : lines (text ++ (blankLine ++ more)) = text :: lines ('\r' :: '\n' :: more) :=
      lines_crlf hmem _
    by_cases hne : text = []
    · rw [hblank, hne]
      rfl
    · rw [hblank, lines_of_not_mem hmem hne]
      rfl

/-- Something to write between two line ends. -/
structure IsLine (line : List Char) : Prop where
  ne_nil : line ≠ []
  no_cr : '\r' ∉ line
  no_lf : '\n' ∉ line

theorem isLine_of_all {line : List Char}
    (h : (! line.isEmpty && line.all fun c => c != '\r' && c != '\n') = true) :
    IsLine line := by
  rw [Bool.and_eq_true, Bool.not_eq_true', List.isEmpty_eq_false_iff, List.all_eq_true] at h
  refine ⟨h.1, fun hcr => ?_, fun hlf => ?_⟩
  · exact absurd (h.2 _ hcr) (by decide)
  · exact absurd (h.2 _ hlf) (by decide)

theorem IsLine.append {a b : List Char} (ha : IsLine a) (cr : '\r' ∉ b) (lf : '\n' ∉ b) :
    IsLine (a ++ b) where
  ne_nil := List.append_ne_nil_of_left_ne_nil ha.ne_nil b
  no_cr h := (List.mem_append.mp h).elim ha.no_cr cr
  no_lf h := (List.mem_append.mp h).elim ha.no_lf lf

/-- The lines are read back. -/
theorem lines_intercalate {ls : List (List Char)} (h : ∀ l ∈ ls, IsLine l) :
    lines (List.intercalate crlf ls) = ls := by
  induction ls with
  | nil =>
    rfl
  | cons line rest ih =>
    have hline := h line List.mem_cons_self
    rcases rest with _ | ⟨next, more⟩
    · rw [List.intercalate_singleton]
      exact lines_of_not_mem hline.no_lf hline.ne_nil
    · rw [List.intercalate_cons_cons, List.append_assoc]
      show lines (line ++ '\r' :: '\n' :: List.intercalate crlf (next :: more)) = _
      rw [lines_crlf hline.no_lf, ih fun l hl => h l (List.mem_cons_of_mem line hl)]

/-- Lines do not start with a carriage return. -/
theorem exists_head_of_lines {next : List Char} (h : IsLine next)
    (more : List (List Char)) :
    ∃ c tail, List.intercalate crlf (next :: more) = c :: tail ∧ c ≠ '\r' := by
  obtain ⟨c, chars, rfl⟩ := List.exists_cons_of_ne_nil h.ne_nil
  have hc : c ≠ '\r' := by
    rintro rfl
    exact h.no_cr List.mem_cons_self
  rcases more with _ | ⟨m, ms⟩
  · exact ⟨c, chars, List.intercalate_singleton, hc⟩
  · exact ⟨c, _, List.intercalate_cons_cons, hc⟩

/-- A line end in front of something that is none is no blank line. -/
theorem find_blankLine_crlf {c : Char} (h : c ≠ '\r') (rest : List Char) :
    find blankLine (crlf ++ c :: rest) = (find blankLine (c :: rest)).map (· + 2) := by
  have hcr : ¬ blankLine <+: '\r' :: '\n' :: c :: rest := by
    intro hp
    have hlf := (List.cons_prefix_cons.mp hp).2
    have hnext := (List.cons_prefix_cons.mp hlf).2
    exact h (List.cons_prefix_cons.mp hnext).1.symm
  have hlf : ¬ blankLine <+: '\n' :: c :: rest := by
    intro hp
    exact absurd (List.cons_prefix_cons.mp hp).1 (by decide)
  show find blankLine ('\r' :: '\n' :: c :: rest) = _
  rw [find_cons_later hcr, find_cons_later hlf, Option.map_map]
  rfl

/-- **The blank line behind the lines is the first one.** -/
theorem find_blankLine {ls : List (List Char)} (hne : ls ≠ []) (h : ∀ l ∈ ls, IsLine l)
    (body : List Char) :
    find blankLine (List.intercalate crlf ls ++ (blankLine ++ body)) =
      some (List.intercalate crlf ls).length := by
  induction ls with
  | nil =>
    exact absurd rfl hne
  | cons line rest ih =>
    have hskip := @find_skip Char _ '\r' ['\n', '\r', '\n'] line
      (h line List.mem_cons_self).no_cr
    rcases rest with _ | ⟨next, more⟩
    · have hhere : find blankLine (blankLine ++ body) = some 0 :=
        if_pos (List.isPrefixOf_iff_prefix.mpr (List.prefix_append _ _))
      rw [List.intercalate_singleton]
      refine (hskip _).trans ?_
      show (find blankLine (blankLine ++ body)).map _ = _
      rw [hhere, Option.map_some, Nat.zero_add]
    · have hrest := ih (List.cons_ne_nil _ _) fun l hl => h l (List.mem_cons_of_mem line hl)
      obtain ⟨c, tail, hhead, hc⟩ := exists_head_of_lines
        (h next (List.mem_cons_of_mem _ List.mem_cons_self)) more
      have hcrlf := find_blankLine_crlf hc (tail ++ (blankLine ++ body))
      rw [← List.cons_append, ← hhead, hrest] at hcrlf
      rw [List.intercalate_cons_cons, List.append_assoc, List.append_assoc]
      refine (hskip _).trans ?_
      show (find blankLine (crlf ++ _)).map _ = _
      rw [hcrlf, Option.map_some, Option.map_some, List.length_append, List.length_append]
      congr 1
      show _ + 2 + _ = _ + 2 + _
      omega

/-! ## Words -/

section Words

variable (isSpace : Char → Bool)

/-- Without the white space at both ends. -/
def trim (text : List Char) : List Char :=
  (text.dropWhile isSpace).rdropWhile isSpace

/-- The pieces between white space. -/
def words (text : List Char) : List (List Char) :=
  (text.splitOnP isSpace).filter (· ≠ [])

variable {isSpace}

theorem trim_eq_self {text : List Char} (hfirst : ∀ c ∈ text.head?, isSpace c = false)
    (hlast : ∀ c ∈ text.getLast?, isSpace c = false) : trim isSpace text = text := by
  have hdrop : text.dropWhile isSpace = text := by
    rcases text with _ | ⟨c, rest⟩
    · rfl
    · exact List.dropWhile_cons_of_neg (by rw [hfirst c rfl]; exact Bool.false_ne_true)
  rw [trim, hdrop, List.rdropWhile_eq_self_iff]
  intro hne
  rw [hlast _ (List.getLast?_eq_some_getLast hne)]
  exact Bool.false_ne_true

/-- What is left was there before. -/
theorem mem_of_mem_trim {text : List Char} {c : Char} (h : c ∈ trim isSpace text) : c ∈ text :=
  (List.dropWhile_suffix _).subset ((List.rdropWhile_prefix _ _).subset h)

theorem trim_trim (text : List Char) : trim isSpace (trim isSpace text) = trim isSpace text := by
  apply trim_eq_self
  · intro c first
    -- the first that is left is the first that is no white space
    obtain ⟨rest, split⟩ := List.rdropWhile_prefix isSpace (text.dropWhile isSpace)
    have dropped : (text.dropWhile isSpace).head? = some c := by
      rw [← split, List.head?_append, show (List.rdropWhile _ _).head? = some c from first]
      rfl
    simpa [dropped] using List.head?_dropWhile_not isSpace text
  · intro c last
    have nonempty : trim isSpace text ≠ [] := by
      intro empty
      rw [empty] at last
      cases last
    have kept := List.rdropWhile_last_not isSpace (text.dropWhile isSpace) nonempty
    rw [List.getLast?_eq_some_getLast nonempty] at last
    cases last
    exact Bool.eq_false_iff.mpr kept

theorem trim_cons {c : Char} (h : isSpace c = true) (text : List Char) :
    trim isSpace (c :: text) = trim isSpace text := by
  rw [trim, List.dropWhile_cons_of_pos h, trim]

theorem mem_dropWhile {text : List Char} {c : Char} (hmem : c ∈ text)
    (hc : isSpace c = false) : c ∈ text.dropWhile isSpace := by
  rw [← List.takeWhile_append_dropWhile (p := isSpace) (l := text), List.mem_append] at hmem
  refine hmem.resolve_left fun hfront => ?_
  exact Bool.false_ne_true (hc.symm.trans (List.mem_takeWhile_imp hfront))

/-- Only white space is trimmed. -/
theorem mem_trim {text : List Char} {c : Char} (hmem : c ∈ text) (hc : isSpace c = false) :
    c ∈ trim isSpace text := by
  rw [trim, List.rdropWhile, List.mem_reverse]
  exact mem_dropWhile (List.mem_reverse.mpr (mem_dropWhile hmem hc)) hc

/-- A word stands in the text. -/
theorem infix_of_mem_splitOnP (p : Char → Bool) (text : List Char) :
    ((∃ first more, text.splitOnP p = first :: more ∧ first <+: text)) ∧
      ∀ piece ∈ text.splitOnP p, piece <:+: text := by
  induction text with
  | nil =>
    refine ⟨⟨[], [], rfl, List.nil_prefix⟩, fun piece h => ?_⟩
    rw [List.mem_singleton.mp h]
    exact List.nil_infix
  | cons c text ih =>
    obtain ⟨⟨first, more, hsplit, hfirst⟩, hall⟩ := ih
    rw [List.splitOnP_cons_eq_if_modifyHead]
    split_ifs
    · refine ⟨⟨[], _, rfl, List.nil_prefix⟩, List.forall_mem_cons.mpr ⟨?_, fun piece h => ?_⟩⟩
      · exact List.nil_infix
      · exact (hall piece h).trans (List.suffix_cons c text).isInfix
    · have hcons : c :: first <+: c :: text := List.cons_prefix_cons.mpr ⟨rfl, hfirst⟩
      rw [hsplit] at hall ⊢
      refine ⟨⟨c :: first, more, rfl, hcons⟩, List.forall_mem_cons.mpr ⟨hcons.isInfix, ?_⟩⟩
      exact fun piece h => (hall piece (List.mem_cons_of_mem _ h)).trans
        (List.suffix_cons c text).isInfix

theorem infix_of_mem_words {text word : List Char} (h : word ∈ words isSpace text) :
    word <:+: text :=
  (infix_of_mem_splitOnP isSpace text).2 word (List.mem_of_mem_filter h)

theorem words_cons {c : Char} (h : isSpace c = true) (text : List Char) :
    words isSpace (c :: text) = words isSpace text := by
  rw [words, List.splitOnP_cons_eq_if_modifyHead, if_pos h, List.filter_cons_of_neg (by simp)]
  rfl

/-- White space around something that has none does not count. -/
theorem trim_pad {lead core trail : List Char} (hlead : ∀ c ∈ lead, isSpace c = true)
    (hne : core ≠ []) (hcore : ∀ c ∈ core, isSpace c = false)
    (htrail : ∀ c ∈ trail, isSpace c = true) :
    trim isSpace (lead ++ (core ++ trail)) = core := by
  obtain ⟨c, rest, rfl⟩ := List.exists_cons_of_ne_nil hne
  have hfront : (lead ++ (c :: rest ++ trail)).dropWhile isSpace = c :: rest ++ trail := by
    rw [List.dropWhile_append_of_pos hlead]
    exact List.dropWhile_cons_of_neg
      (by rw [hcore c List.mem_cons_self]; exact Bool.false_ne_true)
  have hback : (c :: rest ++ trail).rdropWhile isSpace = (c :: rest).rdropWhile isSpace := by
    rw [List.rdropWhile, List.reverse_append, List.dropWhile_append_of_pos, List.rdropWhile]
    exact fun d hd => htrail d (List.mem_reverse.mp hd)
  rw [trim, hfront, hback, List.rdropWhile_eq_self_iff]
  intro _
  rw [hcore _ (List.getLast_mem _)]
  exact Bool.false_ne_true

/-- What is trimmed is white space at both ends. -/
theorem exists_trim (isSpace : Char → Bool) (text : List Char) :
    ∃ lead trail, (∀ c ∈ lead, isSpace c = true) ∧ (∀ c ∈ trail, isSpace c = true) ∧
      text = lead ++ (trim isSpace text ++ trail) := by
  refine ⟨text.takeWhile isSpace, (text.dropWhile isSpace).rtakeWhile isSpace,
    fun c hc => List.mem_takeWhile_imp hc, fun c hc => List.mem_rtakeWhile_imp hc, ?_⟩
  rw [trim, List.rdropWhile_append_rtakeWhile, List.takeWhile_append_dropWhile]

/-- White space between two texts parts their words. -/
theorem words_append_cons {space : Char} (hspace : isSpace space = true)
    (front rest : List Char) :
    words isSpace (front ++ space :: rest) = words isSpace front ++ words isSpace rest := by
  rw [words, List.splitOnP_append_cons _ _ hspace, List.filter_append, words, words]

/-- A word with white space behind it. -/
theorem words_space {word : List Char} (hne : word ≠ [])
    (h : ∀ c ∈ word, isSpace c = false) {space : Char} (hspace : isSpace space = true)
    (text : List Char) :
    words isSpace (word ++ space :: text) = word :: words isSpace text := by
  rw [words, List.splitOnP_append_cons_of_forall_mem h space hspace, List.filter_cons,
    if_pos (decide_eq_true hne)]
  rfl

/-- The last word. -/
theorem words_of_not_mem {word : List Char} (hne : word ≠ [])
    (h : ∀ c ∈ word, isSpace c = false) : words isSpace word = [word] := by
  rw [words, List.splitOnP_eq_singleton h, List.filter_cons,
    if_pos (decide_eq_true hne)]
  rfl

/-- Words with one space between them. -/
theorem words_intercalate {space : Char} (hspace : isSpace space = true)
    (ws : List (List Char)) (hne : ∀ w ∈ ws, w ≠ [])
    (h : ∀ w ∈ ws, ∀ c ∈ w, isSpace c = false) :
    words isSpace (List.intercalate [space] ws) = ws := by
  induction ws with
  | nil =>
    rfl
  | cons word rest ih =>
    have hword := h word List.mem_cons_self
    have hword_ne := hne word List.mem_cons_self
    rcases rest with _ | ⟨next, more⟩
    · rw [List.intercalate_singleton]
      exact words_of_not_mem hword_ne hword
    · rw [List.intercalate_cons_cons, List.append_assoc, List.singleton_append,
        words_space hword_ne hword hspace,
        ih (fun w hw => hne w (List.mem_cons_of_mem word hw))
          fun w hw => h w (List.mem_cons_of_mem word hw)]

theorem mem_intercalate {sep : List Char} {ws : List (List Char)} {c : Char}
    (h : c ∈ List.intercalate sep ws) : c ∈ sep ∨ ∃ w ∈ ws, c ∈ w := by
  induction ws with
  | nil =>
    exact absurd h List.not_mem_nil
  | cons word rest ih =>
    rcases rest with _ | ⟨next, more⟩
    · rw [List.intercalate_singleton] at h
      exact Or.inr ⟨word, List.mem_cons_self, h⟩
    · rw [List.intercalate_cons_cons, List.mem_append, List.mem_append] at h
      rcases h with (hword | hsep) | hrest
      · exact Or.inr ⟨word, List.mem_cons_self, hword⟩
      · exact Or.inl hsep
      · exact (ih hrest).imp_right fun ⟨w, hw, hc⟩ => ⟨w, List.mem_cons_of_mem word hw, hc⟩

theorem mem_of_getLast?_intercalate {sep : List Char} {ws : List (List Char)}
    (hne : ∀ w ∈ ws, w ≠ []) {c : Char} (h : c ∈ (List.intercalate sep ws).getLast?) :
    ∃ w ∈ ws, c ∈ w := by
  induction ws with
  | nil =>
    cases h
  | cons word rest ih =>
    rcases rest with _ | ⟨next, more⟩
    · rw [List.intercalate_singleton] at h
      exact ⟨word, List.mem_cons_self, List.mem_of_mem_getLast? h⟩
    · have hrest : List.intercalate sep (next :: more) ≠ [] := by
        have hnext := hne next (List.mem_cons_of_mem word List.mem_cons_self)
        rcases more with _ | ⟨m, ms⟩
        · rw [List.intercalate_singleton]
          exact hnext
        · rw [List.intercalate_cons_cons, List.append_assoc]
          exact List.append_ne_nil_of_left_ne_nil hnext _
      rw [List.intercalate_cons_cons, List.getLast?_append_of_ne_nil _ hrest] at h
      obtain ⟨w, hw, hc⟩ := ih (fun w hw => hne w (List.mem_cons_of_mem word hw)) h
      exact ⟨w, List.mem_cons_of_mem word hw, hc⟩

/-- Words with something between them start and end with a word. -/
theorem trim_intercalate {sep : List Char} {ws : List (List Char)} (hne : ∀ w ∈ ws, w ≠ [])
    (h : ∀ w ∈ ws, ∀ c ∈ w, isSpace c = false) :
    trim isSpace (List.intercalate sep ws) = List.intercalate sep ws := by
  refine trim_eq_self (fun c hc => ?_) fun c hc => ?_
  · rcases ws with _ | ⟨word, _ | ⟨next, more⟩⟩
    · cases hc
    · rw [List.intercalate_singleton] at hc
      exact h word List.mem_cons_self c (List.mem_of_mem_head? hc)
    · rw [List.intercalate_cons_cons, List.append_assoc,
        List.head?_append_of_ne_nil _ (hne word List.mem_cons_self)] at hc
      exact h word List.mem_cons_self c (List.mem_of_mem_head? hc)
  · obtain ⟨w, hw, hcw⟩ := mem_of_getLast?_intercalate hne hc
    exact h w hw c hcw

end Words

/-! ## Numbers -/

/-- A digit below 36, in upper case. -/
def digitChar (d : Nat) : Char :=
  if d < 10 then Char.ofNat (48 + d) else Char.ofNat (55 + d)

/-- The value of a digit, in either case. -/
def digitValue (c : Char) : Option Nat :=
  if '0' ≤ c ∧ c ≤ '9' then some (c.toNat - 48)
  else if 'a' ≤ c ∧ c ≤ 'z' then some (c.toNat - 87)
  else if 'A' ≤ c ∧ c ≤ 'Z' then some (c.toNat - 55)
  else none

/-- The digits of a number in some radix. -/
def digits (radix n : Nat) : List Char :=
  if n = 0 then ['0'] else ((Nat.digits radix n).map digitChar).reverse

/-- The digits behind zeros, up to a width. -/
def paddedDigits (radix width n : Nat) : List Char :=
  List.replicate (width - (digits radix n).length) '0' ++ digits radix n

/-- The number that some digits spell, if they all are digits of the radix. -/
def ofDigits (radix : Nat) (text : List Char) : Option Nat :=
  text.foldl
    (fun value c => value.bind fun n =>
      ((digitValue c).filter (· < radix)).map fun d => radix * n + d)
    (some 0)

/-- Read an unsigned number below `size`: at least one digit, with an optional
plus sign in front. -/
def parseUnsigned (radix size : Nat) (text : List Char) : Option Nat :=
  let spelled :=
    match text with
    | '+' :: rest => rest
    | _ => text
  if spelled = [] then none else (ofDigits radix spelled).filter (· < size)

theorem digitValue_digitChar {d : Nat} (h : d < 36) : digitValue (digitChar d) = some d := by
  have hall : ∀ d : Fin 36, digitValue (digitChar d) = some d.val := by decide
  exact hall ⟨d, h⟩

theorem digitChar_ne_plus {d : Nat} (h : d < 36) : digitChar d ≠ '+' := by
  have hall : ∀ d : Fin 36, digitChar d ≠ '+' := by decide
  exact hall ⟨d, h⟩

theorem digits_ne_nil (radix n : Nat) : digits radix n ≠ [] := by
  rw [digits]
  split
  · exact List.cons_ne_nil _ _
  · rename_i hn
    simp [Nat.digits_ne_nil_iff_ne_zero, hn]

theorem length_paddedDigits {radix width n : Nat} (hradix : 1 < radix) (hwidth : 0 < width)
    (hn : n < radix ^ width) : (paddedDigits radix width n).length = width := by
  have hle : (digits radix n).length ≤ width := by
    rw [digits]
    split
    · exact hwidth
    · rw [List.length_reverse, List.length_map]
      exact (Nat.digits_length_le_iff hradix n).mpr hn
  rw [paddedDigits, List.length_append, List.length_replicate]
  omega

theorem foldl_digits_none (radix : Nat) (text : List Char) :
    text.foldl (fun value c => value.bind fun n =>
      ((digitValue c).filter (· < radix)).map fun d => radix * n + d) (none : Option Nat) = none := by
  induction text with
  | nil => rfl
  | cons c text ih => exact ih

/-- A character that is no digit spoils the number. -/
theorem ofDigits_of_mem {radix : Nat} {text : List Char} {c : Char} (hmem : c ∈ text)
    (hc : digitValue c = none) : ofDigits radix text = none := by
  obtain ⟨front, rest, rfl⟩ := List.append_of_mem hmem
  rw [ofDigits, List.foldl_append, List.foldl_cons, hc, Option.filter_none]
  simp only [Option.map_none, Option.bind_fun_none]
  exact foldl_digits_none radix rest

theorem parseUnsigned_of_mem {radix size : Nat} {text : List Char} {c : Char} (hmem : c ∈ text)
    (hplus : c ≠ '+') (hc : digitValue c = none) : parseUnsigned radix size text = none := by
  unfold parseUnsigned
  dsimp only
  split
  · rename_i rest
    split_ifs
    · rfl
    · rw [ofDigits_of_mem ((List.mem_cons.mp hmem).resolve_left hplus) hc]
      rfl
  · split_ifs
    · rfl
    · rw [ofDigits_of_mem hmem hc]
      rfl

/-- A decimal digit is written in one way. -/
theorem eq_digitChar {c : Char} {d : Nat} (h : digitValue c = some d) (hd : d < 10) :
    c = digitChar d := by
  unfold digitValue at h
  split_ifs at h with hdigit hlower hupper
  · cases h
    have hfirst : 48 ≤ c.toNat := hdigit.1
    rw [digitChar, if_pos hd, Nat.add_sub_cancel' hfirst, Char.ofNat_toNat]
  · cases h
    have hfirst : 97 ≤ c.toNat := hlower.1
    omega
  · cases h
    have hfirst : 65 ≤ c.toNat := hupper.1
    omega

/-- The last digit of a number above 0, and the number in front of it. -/
theorem exists_last_digit {text : List Char} {n : Nat} (h : ofDigits 10 text = some n)
    (hn : 0 < n) :
    ∃ front, text = front ++ [digitChar (n % 10)] ∧ ofDigits 10 front = some (n / 10) := by
  rcases List.eq_nil_or_concat text with rfl | ⟨front, c, rfl⟩
  · cases h
    exact absurd hn (Nat.lt_irrefl 0)
  · rw [ofDigits, List.concat_eq_append, List.foldl_append, List.foldl_cons, List.foldl_nil] at h
    obtain ⟨m, hm, hvalue⟩ := Option.bind_eq_some_iff.mp h
    obtain ⟨d, hd, rfl⟩ := Option.map_eq_some_iff.mp hvalue
    obtain ⟨hdigit, hsmall⟩ := Option.filter_eq_some_iff.mp hd
    have hten : d < 10 := of_decide_eq_true hsmall
    refine ⟨front, ?_, ?_⟩
    · rw [List.concat_eq_append, eq_digitChar hdigit hten, Nat.mul_add_mod, Nat.mod_eq_of_lt hten]
    · rw [Nat.mul_add_div (by decide), Nat.div_eq_of_lt hten, Nat.add_zero]
      exact hm

/-- However it is written, 200 ends in these digits. -/
theorem suffix_of_parseUnsigned_200 {size : Nat} {text : List Char}
    (h : parseUnsigned 10 size text = some 200) : "200".toList <:+ text := by
  have hdigits : ∀ spelled, ofDigits 10 spelled = some 200 → "200".toList <:+ spelled := by
    intro spelled hspelled
    obtain ⟨tens, rfl, htens⟩ := exists_last_digit hspelled (by decide)
    obtain ⟨hundreds, rfl, hhundreds⟩ := exists_last_digit htens (by decide)
    obtain ⟨front, rfl, -⟩ := exists_last_digit hhundreds (by decide)
    exact ⟨front, by simp [digitChar]⟩
  unfold parseUnsigned at h
  dsimp only at h
  split at h
  · rename_i rest
    split_ifs at h
    exact (hdigits rest (Option.filter_eq_some_iff.mp h).1).trans (List.suffix_cons _ _)
  · split_ifs at h
    exact hdigits text (Option.filter_eq_some_iff.mp h).1

theorem parseUnsigned_lt {radix size n : Nat} {text : List Char}
    (h : parseUnsigned radix size text = some n) : n < size := by
  unfold parseUnsigned at h
  dsimp only at h
  split_ifs at h
  exact of_decide_eq_true (Option.filter_eq_some_iff.mp h).2

section RoundTrip

variable {radix : Nat}

/-- Every character of a number is one of its digits. -/
theorem exists_digit_of_mem (hradix : 1 < radix) {n : Nat} {c : Char}
    (h : c ∈ digits radix n) : ∃ d < radix, c = digitChar d := by
  rw [digits] at h
  by_cases hn : n = 0
  · rw [if_pos hn, List.mem_singleton] at h
    exact ⟨0, by omega, h⟩
  · rw [if_neg hn, List.mem_reverse, List.mem_map] at h
    obtain ⟨d, hd, rfl⟩ := h
    exact ⟨d, Nat.digits_lt_base hradix hd, rfl⟩

theorem exists_digit_of_mem_padded (hradix : 1 < radix) {width n : Nat} {c : Char}
    (h : c ∈ paddedDigits radix width n) : ∃ d < radix, c = digitChar d := by
  rw [paddedDigits, List.mem_append] at h
  rcases h with hzero | hdigit
  · exact ⟨0, by omega, List.eq_of_mem_replicate hzero⟩
  · exact exists_digit_of_mem hradix hdigit

/-- What holds of the digits holds of every character of a number. -/
theorem forall_mem_digits (hradix : 1 < radix) {p : Char → Prop}
    (h : ∀ d : Fin radix, p (digitChar d)) (n : Nat) : ∀ c ∈ digits radix n, p c := by
  intro c hc
  obtain ⟨d, hd, rfl⟩ := exists_digit_of_mem hradix hc
  exact h ⟨d, hd⟩

theorem forall_mem_paddedDigits (hradix : 1 < radix) {p : Char → Prop}
    (h : ∀ d : Fin radix, p (digitChar d)) (width n : Nat) :
    ∀ c ∈ paddedDigits radix width n, p c := by
  intro c hc
  obtain ⟨d, hd, rfl⟩ := exists_digit_of_mem_padded hradix hc
  exact h ⟨d, hd⟩

theorem foldl_digits (hsmall : radix ≤ 36) (ds : List Nat) (hds : ∀ d ∈ ds, d < radix) :
    ofDigits radix (ds.reverse.map digitChar) = some (Nat.ofDigits radix ds) := by
  induction ds with
  | nil =>
    rfl
  | cons d rest ih =>
    have hd := hds d List.mem_cons_self
    have hvalue : (digitValue (digitChar d)).filter (· < radix) = some d := by
      rw [digitValue_digitChar (by omega), Option.filter_some, decide_eq_true hd, if_pos rfl]
    have hrest := ih fun e he => hds e (List.mem_cons_of_mem d he)
    rw [ofDigits] at hrest
    rw [ofDigits, List.reverse_cons, List.map_append, List.foldl_append, hrest,
      List.map_singleton, List.foldl_cons, List.foldl_nil, Option.bind_some, hvalue,
      Option.map_some, Nat.ofDigits_cons, Nat.add_comm]

theorem ofDigits_digits (hradix : 1 < radix) (hsmall : radix ≤ 36) (n : Nat) :
    ofDigits radix (digits radix n) = some n := by
  rw [digits]
  by_cases hn : n = 0
  · have hzero := foldl_digits hsmall [0] fun d hd => by
      rw [List.mem_singleton.mp hd]
      omega
    rw [if_pos hn, hn]
    exact hzero
  · rw [if_neg hn, ← List.map_reverse,
      foldl_digits hsmall _ fun d hd => Nat.digits_lt_base hradix hd, Nat.ofDigits_digits]

/-- Zeros in front do not count. -/
theorem ofDigits_replicate_zero (hradix : 0 < radix) (zeros : Nat) (text : List Char) :
    ofDigits radix (List.replicate zeros '0' ++ text) = ofDigits radix text := by
  induction zeros with
  | zero =>
    rfl
  | succ zeros ih =>
    have hzero : (digitValue '0').filter (· < radix) = some 0 := by
      show Option.filter (· < radix) (some 0) = some 0
      rw [Option.filter_some, decide_eq_true hradix, if_pos rfl]
    rw [ofDigits, List.replicate_succ, List.cons_append, List.foldl_cons, Option.bind_some,
      hzero]
    exact ih

theorem ofDigits_paddedDigits (hradix : 1 < radix) (hsmall : radix ≤ 36) (width n : Nat) :
    ofDigits radix (paddedDigits radix width n) = some n := by
  rw [paddedDigits, ofDigits_replicate_zero (by omega), ofDigits_digits hradix hsmall]

theorem parseUnsigned_of_digits (hsmall : radix ≤ 36) {size n : Nat} {text : List Char}
    (hne : text ≠ []) (hdigit : ∀ c ∈ text, ∃ d < radix, c = digitChar d)
    (hvalue : ofDigits radix text = some n) (hn : n < size) :
    parseUnsigned radix size text = some n := by
  obtain ⟨c, rest, rfl⟩ := List.exists_cons_of_ne_nil hne
  obtain ⟨d, hd, hc⟩ := hdigit c List.mem_cons_self
  have hplus : c ≠ '+' := by
    rw [hc]
    exact digitChar_ne_plus (by omega)
  have hspelled : parseUnsigned radix size (c :: rest) =
      (ofDigits radix (c :: rest)).filter (· < size) := by
    simp only [parseUnsigned]
    split
    · rename_i heq
      exact absurd (List.cons.inj heq).1 hplus
    · rw [if_neg hne]
  rw [hspelled, hvalue, Option.filter_some, decide_eq_true hn, if_pos rfl]

/-- How many digits a number has at most. -/
theorem length_digits_le (hradix : 1 < radix) {n width : Nat} (hwidth : 0 < width)
    (h : n < radix ^ width) : (digits radix n).length ≤ width := by
  rw [digits]
  split_ifs with hn
  · exact hwidth
  · rw [List.length_reverse, List.length_map]
    exact (Nat.digits_length_le_iff hradix n).mpr h

/-- **A number is read back from its digits.** -/
theorem parseUnsigned_digits (hradix : 1 < radix) (hsmall : radix ≤ 36) {size n : Nat}
    (hn : n < size) : parseUnsigned radix size (digits radix n) = some n :=
  parseUnsigned_of_digits hsmall (digits_ne_nil radix n)
    (fun _ hc => exists_digit_of_mem hradix hc) (ofDigits_digits hradix hsmall n) hn

theorem parseUnsigned_paddedDigits (hradix : 1 < radix) (hsmall : radix ≤ 36)
    {size n : Nat} (width : Nat) (hn : n < size) :
    parseUnsigned radix size (paddedDigits radix width n) = some n :=
  parseUnsigned_of_digits hsmall
    (List.append_ne_nil_of_right_ne_nil _ (digits_ne_nil radix n))
    (fun _ hc => exists_digit_of_mem_padded hradix hc)
    (ofDigits_paddedDigits hradix hsmall width n) hn

end RoundTrip

/-! ### What a number is written as -/

/-- Digits, at least one, that spell a number. -/
def Spells (radix : Nat) (text : List Char) (n : Nat) : Prop :=
  ∃ ds : List Nat, ds ≠ [] ∧ (∀ d ∈ ds, d < radix) ∧ text.map digitValue = ds.map some ∧
    Nat.ofDigits radix ds.reverse = n

theorem ofDigits_concat (radix : Nat) (text : List Char) (c : Char) :
    ofDigits radix (text ++ [c]) = (ofDigits radix text).bind fun n =>
      ((digitValue c).filter (· < radix)).map fun d => radix * n + d := by
  rw [ofDigits, List.foldl_append, List.foldl_cons, List.foldl_nil, ofDigits]

theorem ofDigits_eq_some_iff {radix : Nat} {text : List Char} {n : Nat} :
    ofDigits radix text = some n ↔
      ∃ ds : List Nat, (∀ d ∈ ds, d < radix) ∧ text.map digitValue = ds.map some ∧
        Nat.ofDigits radix ds.reverse = n := by
  induction text using List.reverseRecOn generalizing n with
  | nil =>
    constructor
    · intro h
      cases h
      exact ⟨[], fun d hd => absurd hd List.not_mem_nil, rfl, rfl⟩
    · rintro ⟨ds, -, hvalues, rfl⟩
      rw [List.map_eq_nil_iff.mp hvalues.symm]
      rfl
  | append_singleton text c ih =>
    rw [ofDigits_concat, Option.bind_eq_some_iff]
    constructor
    · rintro ⟨m, hm, hlast⟩
      obtain ⟨ds, hsmall, hvalues, rfl⟩ := ih.mp hm
      obtain ⟨d, hd, rfl⟩ := Option.map_eq_some_iff.mp hlast
      obtain ⟨hdigit, hradix⟩ := Option.filter_eq_some_iff.mp hd
      refine ⟨ds ++ [d], fun e he => ?_, ?_, ?_⟩
      · rcases List.mem_append.mp he with hfront | hback
        · exact hsmall e hfront
        · rw [List.mem_singleton.mp hback]
          exact of_decide_eq_true hradix
      · rw [List.map_append, List.map_append, hvalues, List.map_singleton, List.map_singleton,
          hdigit]
      · rw [List.reverse_append, List.reverse_singleton, List.singleton_append,
          Nat.ofDigits_cons, Nat.add_comm]
    · rintro ⟨ds, hsmall, hvalues, rfl⟩
      rw [List.map_append] at hvalues
      obtain ⟨front, back, rfl, hfront, hback⟩ := List.map_eq_append_iff.mp hvalues.symm
      obtain ⟨d, rfl, hdigit⟩ := List.map_eq_singleton_iff.mp hback
      have hd : d < radix := hsmall d (List.mem_append_right front List.mem_cons_self)
      refine ⟨Nat.ofDigits radix front.reverse, ih.mpr ⟨front, ?_, hfront.symm, rfl⟩, ?_⟩
      · exact fun e he => hsmall e (List.mem_append_left _ he)
      · rw [← hdigit, Option.filter_some, decide_eq_true hd, if_pos rfl, Option.map_some,
          List.reverse_append, List.reverse_singleton, List.singleton_append,
          Nat.ofDigits_cons, Nat.add_comm]

theorem spells_iff {radix : Nat} {text : List Char} {n : Nat} :
    Spells radix text n ↔ text ≠ [] ∧ ofDigits radix text = some n := by
  rw [ofDigits_eq_some_iff]
  constructor
  · rintro ⟨ds, hne, hsmall, hvalues, hn⟩
    refine ⟨?_, ds, hsmall, hvalues, hn⟩
    rintro rfl
    exact hne (List.map_eq_nil_iff.mp hvalues.symm)
  · rintro ⟨hne, ds, hsmall, hvalues, hn⟩
    refine ⟨ds, ?_, hsmall, hvalues, hn⟩
    rintro rfl
    exact hne (List.map_eq_nil_iff.mp hvalues)

theorem Spells.ne_nil {radix : Nat} {text : List Char} {n : Nat} (h : Spells radix text n) :
    text ≠ [] :=
  (spells_iff.mp h).1

/-- Every character is a digit. -/
theorem Spells.exists_digitValue {radix : Nat} {text : List Char} {n : Nat}
    (h : Spells radix text n) {c : Char} (hc : c ∈ text) : ∃ d < radix, digitValue c = some d := by
  obtain ⟨ds, -, hsmall, hvalues, -⟩ := h
  have hmem : digitValue c ∈ ds.map some := hvalues ▸ List.mem_map_of_mem hc
  obtain ⟨d, hd, hvalue⟩ := List.mem_map.mp hmem
  exact ⟨d, hsmall d hd, hvalue.symm⟩

theorem Spells.plus_not_mem {radix : Nat} {text : List Char} {n : Nat}
    (h : Spells radix text n) : '+' ∉ text := by
  intro hmem
  obtain ⟨d, -, hd⟩ := h.exists_digitValue hmem
  cases hd

/-- **What the parser of unsigned numbers reads**: digits, and digits behind a plus sign. -/
theorem parseUnsigned_eq_some_iff {radix size : Nat} {text : List Char} {n : Nat} :
    parseUnsigned radix size text = some n ↔
      n < size ∧ (Spells radix text n ∨ ∃ rest, text = '+' :: rest ∧ Spells radix rest n) := by
  have hread : ∀ spelled, (if spelled = [] then none
      else (ofDigits radix spelled).filter (· < size)) = some n ↔
        n < size ∧ Spells radix spelled n := by
    intro spelled
    rw [spells_iff]
    split_ifs with hnil
    · exact iff_of_false nofun fun h => h.2.1 hnil
    · rw [Option.filter_eq_some_iff, decide_eq_true_eq]
      exact ⟨fun h => ⟨h.2, hnil, h.1⟩, fun h => ⟨h.2.2, h.1⟩⟩
  unfold parseUnsigned
  dsimp only
  split
  · rename_i rest
    rw [hread, or_iff_right fun h => h.plus_not_mem List.mem_cons_self]
    refine and_congr_right fun _ => ⟨fun h => ⟨rest, rfl, h⟩, ?_⟩
    rintro ⟨spelled, heq, h⟩
    rwa [(List.cons.inj heq).2]
  · rename_i hunsigned
    rw [hread, or_iff_left]
    rintro ⟨rest, rfl, -⟩
    exact hunsigned rest rfl

theorem spells_digits {radix : Nat} (hradix : 1 < radix) (hsmall : radix ≤ 36) (n : Nat) :
    Spells radix (digits radix n) n :=
  spells_iff.mpr ⟨digits_ne_nil radix n, ofDigits_digits hradix hsmall n⟩

/-! ### Machine integers -/

/-- `u16::from_str_radix`. -/
def parseU16 (radix : Nat) (text : List Char) : Option UInt16 :=
  (parseUnsigned radix UInt16.size text).map UInt16.ofNat

/-- `u32::from_str_radix`. -/
def parseU32 (radix : Nat) (text : List Char) : Option UInt32 :=
  (parseUnsigned radix UInt32.size text).map UInt32.ofNat

/-- `u64::from_str_radix`. -/
def parseU64 (radix : Nat) (text : List Char) : Option UInt64 :=
  (parseUnsigned radix UInt64.size text).map UInt64.ofNat

theorem parseU16_digits {radix : Nat} (hradix : 1 < radix) (hsmall : radix ≤ 36) (n : UInt16) :
    parseU16 radix (digits radix n.toNat) = some n := by
  rw [parseU16, parseUnsigned_digits hradix hsmall n.toNat_lt, Option.map_some,
    UInt16.ofNat_toNat]

theorem parseU32_digits {radix : Nat} (hradix : 1 < radix) (hsmall : radix ≤ 36) (n : UInt32) :
    parseU32 radix (digits radix n.toNat) = some n := by
  rw [parseU32, parseUnsigned_digits hradix hsmall n.toNat_lt, Option.map_some,
    UInt32.ofNat_toNat]

theorem parseU64_eq_some_iff {radix : Nat} {text : List Char} {n : UInt64} :
    parseU64 radix text = some n ↔
      Spells radix text n.toNat ∨ ∃ rest, text = '+' :: rest ∧ Spells radix rest n.toNat := by
  rw [parseU64, Option.map_eq_some_iff]
  constructor
  · rintro ⟨m, hm, rfl⟩
    obtain ⟨hsize, hspelled⟩ := parseUnsigned_eq_some_iff.mp hm
    rwa [UInt64.toNat_ofNat_of_lt' hsize]
  · intro hspelled
    exact ⟨n.toNat, parseUnsigned_eq_some_iff.mpr ⟨n.toNat_lt, hspelled⟩, UInt64.ofNat_toNat⟩

end Text
