import Mathlib.Algebra.Order.BigOperators.Group.List
import OpenPlay.Foundation.Text
import OpenPlay.Foundation.Utf8

/-!
# JSON

Values with natural numbers, their text without white space, and a reader of such
texts.  Strings are escaped as little as the format allows: the quotation mark, the
backslash and the characters below `U+0020`, seven of them with a letter and the
others with their number.

* `read_text`: a value is read back from its text.
* `bytes_obj` and its companions say how many bytes a text has.
-/

inductive Json where
  | null
  | bool (b : Bool)
  | num (n : Nat)
  | str (s : String)
  | arr (items : List Json)
  | obj (members : List (String × Json))
deriving Repr

namespace Json

/-! ## Strings -/

/-- The letter that stands for a character behind a backslash. -/
def shortEscape (c : Char) : Option Char :=
  if c = '\x22' then some '\x22'
  else if c = '\x5c' then some '\x5c'
  else if c = '\x08' then some 'b'
  else if c = '\x0c' then some 'f'
  else if c = '\n' then some 'n'
  else if c = '\r' then some 'r'
  else if c = '\t' then some 't'
  else none

/-- The character that a letter behind a backslash stands for. -/
def unescape (letter : Char) : Option Char :=
  if letter = '\x22' then some '\x22'
  else if letter = '\x5c' then some '\x5c'
  else if letter = '/' then some '/'
  else if letter = 'b' then some '\x08'
  else if letter = 'f' then some '\x0c'
  else if letter = 'n' then some '\n'
  else if letter = 'r' then some '\r'
  else if letter = 't' then some '\t'
  else none

/-- A hexadecimal digit, in lower case. -/
def hexChar (d : Nat) : Char :=
  if d < 10 then Char.ofNat (48 + d) else Char.ofNat (87 + d)

/-- A character of a string. -/
def escapeChar (c : Char) : List Char :=
  match shortEscape c with
  | some letter => ['\x5c', letter]
  | none =>
      if c.toNat < 0x20 then
        ['\x5c', 'u', '0', '0', hexChar (c.toNat / 16), hexChar (c.toNat % 16)]
      else [c]

/-- The text of a string, in quotation marks. -/
def quote (s : String) : List Char := '\x22' :: (s.toList.flatMap escapeChar ++ ['\x22'])

/-- The character with a number of four hexadecimal digits. -/
def hexEscape (digits : List Char) : Option Char :=
  (Text.ofDigits 16 digits).bind fun n =>
    if h : n.isValidChar then some (Char.ofNatAux n h) else none

/-- Reads the escape behind a backslash. -/
def readEscape : List Char → Option (Char × List Char)
  | [] => none
  | letter :: rest =>
      if letter = 'u' then (hexEscape (rest.take 4)).map fun c => (c, rest.drop 4)
      else (unescape letter).map fun c => (c, rest)

/-- Reads one character of a string. -/
def readChar : List Char → Option (Char × List Char)
  | [] => none
  | c :: rest =>
      if c = '\x5c' then readEscape rest
      else if c.toNat < 0x20 then none
      else some (c, rest)

/-- Reads a string behind its first quotation mark. -/
def readString : Nat → List Char → Option (List Char × List Char)
  | 0, _ => none
  | fuel + 1, input =>
      if input.head? = some '\x22' then some ([], input.tail)
      else (readChar input).bind fun r => (readString fuel r.2).map fun rs => (r.1 :: rs.1, rs.2)

/-! ## Values -/

mutual

/-- The text of a value. -/
def text : Json → List Char
  | null => "null".toList
  | bool true => "true".toList
  | bool false => "false".toList
  | num n => Text.digits 10 n
  | str s => quote s
  | arr items => '[' :: (textItems items ++ [']'])
  | obj members => '\x7b' :: (textMembers members ++ ['\x7d'])

/-- The text between the brackets of an array. -/
def textItems : List Json → List Char
  | [] => []
  | [v] => v.text
  | v :: w :: more => v.text ++ ',' :: textItems (w :: more)

/-- The text between the braces of an object. -/
def textMembers : List (String × Json) → List Char
  | [] => []
  | [(key, v)] => quote key ++ ':' :: v.text
  | (key, v) :: m :: more => quote key ++ ':' :: (v.text ++ ',' :: textMembers (m :: more))

end

/-! ## Reading -/

/-- Reads a number, or one of the three words. -/
def readPlain (input : List Char) : Option (Json × List Char) :=
  match Text.stripPrefix "null".toList input, Text.stripPrefix "true".toList input,
    Text.stripPrefix "false".toList input with
  | some rest, _, _ => some (null, rest)
  | none, some rest, _ => some (bool true, rest)
  | none, none, some rest => some (bool false, rest)
  | none, none, none =>
      if input.takeWhile Char.isDigit = [] then none
      else (Text.ofDigits 10 (input.takeWhile Char.isDigit)).map fun n =>
        (num n, input.dropWhile Char.isDigit)

mutual

/-- Reads a value, and returns what is behind it. -/
def readValue : Nat → List Char → Option (Json × List Char)
  | 0, _ => none
  | fuel + 1, '\x22' :: rest =>
      (readString fuel rest).map fun r => (str (String.ofList r.1), r.2)
  | _ + 1, '[' :: ']' :: rest => some (arr [], rest)
  | fuel + 1, '[' :: rest => (readItems fuel rest).map fun r => (arr r.1, r.2)
  | _ + 1, '\x7b' :: '\x7d' :: rest => some (obj [], rest)
  | fuel + 1, '\x7b' :: rest => (readMembers fuel rest).map fun r => (obj r.1, r.2)
  | _ + 1, input => readPlain input

/-- Reads the items of an array, and its closing bracket. -/
def readItems : Nat → List Char → Option (List Json × List Char)
  | 0, _ => none
  | fuel + 1, input =>
      (readValue fuel input).bind fun r =>
        match r.2 with
        | ',' :: more => (readItems fuel more).map fun rs => (r.1 :: rs.1, rs.2)
        | ']' :: more => some ([r.1], more)
        | _ => none

/-- Reads the members of an object, and its closing brace. -/
def readMembers : Nat → List Char → Option (List (String × Json) × List Char)
  | 0, _ => none
  | fuel + 1, '\x22' :: input =>
      (readString fuel input).bind fun key =>
        match key.2 with
        | ':' :: input =>
            (readValue fuel input).bind fun r =>
              match r.2 with
              | ',' :: more =>
                  (readMembers fuel more).map fun rs =>
                    ((String.ofList key.1, r.1) :: rs.1, rs.2)
              | '\x7d' :: more => some ([(String.ofList key.1, r.1)], more)
              | _ => none
        | _ => none
  | _ + 1, _ => none

end

/-- The value of a text. -/
def read (input : List Char) : Option Json :=
  match readValue input.length input with
  | some (v, []) => some v
  | _ => none

/-! ## Reading strings back -/

theorem shortEscape_eq_some {c letter : Char} (h : shortEscape c = some letter) :
    unescape letter = some c ∧ letter ≠ 'u' := by
  unfold shortEscape at h
  split_ifs at h with h₁ h₂ h₃ h₄ h₅ h₆ h₇
  all_goals
    cases h
    subst c
    exact ⟨by decide, by decide⟩

/-- A character without a letter of its own. -/
theorem shortEscape_eq_none {c : Char} (h : shortEscape c = none) : c ≠ '\x22' ∧ c ≠ '\x5c' := by
  constructor
  · rintro rfl
    exact absurd h (by decide)
  · rintro rfl
    exact absurd h (by decide)

theorem hexEscape_below {c : Char} (h : c.toNat < 0x20) :
    hexEscape ['0', '0', hexChar (c.toNat / 16), hexChar (c.toNat % 16)] = some c := by
  have hall : ∀ n : Fin 32, hexEscape ['0', '0', hexChar (n.val / 16), hexChar (n.val % 16)] =
      some (Char.ofNat n.val) := by
    decide
  have hc := hall ⟨c.toNat, h⟩
  rwa [Char.ofNat_toNat] at hc

theorem readChar_escapeChar (c : Char) (rest : List Char) :
    readChar (escapeChar c ++ rest) = some (c, rest) := by
  unfold escapeChar
  cases hshort : shortEscape c with
  | some letter =>
    obtain ⟨hback, hu⟩ := shortEscape_eq_some hshort
    show (if letter = 'u' then _ else (unescape letter).map fun c => (c, rest)) = _
    rw [if_neg hu, hback]
    rfl
  | none =>
    by_cases hlow : c.toNat < 0x20
    · simp only [hlow, if_true]
      show (hexEscape ['0', '0', hexChar _, hexChar _]).map (fun c => (c, rest)) = _
      rw [hexEscape_below hlow]
      rfl
    · simp only [hlow, if_false]
      show (if c = '\x5c' then _ else if c.toNat < 0x20 then none else some (c, rest)) = _
      rw [if_neg (shortEscape_eq_none hshort).2, if_neg hlow]

/-- No character of a string looks like its end. -/
theorem head_escapeChar (c : Char) :
    escapeChar c ≠ [] ∧ (escapeChar c).head? ≠ some '\x22' := by
  unfold escapeChar
  cases hshort : shortEscape c with
  | some letter => simp
  | none =>
    by_cases hlow : c.toNat < 0x20
    · simp [hlow]
    · simp [hlow, (shortEscape_eq_none hshort).1]

/-- **A string is read back**, up to its closing quotation mark. -/
theorem readString_quote {cs : List Char} {fuel : Nat}
    (hfuel : (cs.flatMap escapeChar).length < fuel) (rest : List Char) :
    readString fuel (cs.flatMap escapeChar ++ '\x22' :: rest) = some (cs, rest) := by
  induction cs generalizing fuel with
  | nil =>
    obtain ⟨fuel, rfl⟩ := Nat.exists_eq_succ_of_ne_zero (Nat.ne_of_gt hfuel)
    rfl
  | cons c cs ih =>
    obtain ⟨fuel, rfl⟩ := Nat.exists_eq_succ_of_ne_zero (Nat.ne_zero_of_lt hfuel)
    obtain ⟨hne, hhead⟩ := head_escapeChar c
    have hpos := List.length_pos_of_ne_nil hne
    rw [List.flatMap_cons, List.length_append] at hfuel
    rw [List.flatMap_cons, List.append_assoc, readString, List.head?_append_of_ne_nil _ hne,
      if_neg hhead, readChar_escapeChar, Option.bind_some, ih (by omega)]
    rfl

/-! ## Reading values back -/

/-- What may stand behind a value: nothing that a number could go on with. -/
def IsBehind (rest : List Char) : Prop := ∀ c ∈ rest.head?, c.isDigit = false

theorem isBehind_cons {c : Char} (h : c.isDigit = false) (rest : List Char) :
    IsBehind (c :: rest) := by
  intro d hd
  cases hd
  exact h

theorem isDigit_of_mem_digits {n : Nat} {c : Char} (h : c ∈ Text.digits 10 n) :
    c.isDigit = true :=
  Text.forall_mem_digits (p := fun c => c.isDigit = true) (by decide) (by decide) n c h

/-- A text with another first character does not start with the word. -/
theorem stripPrefix_of_ne {w c : Char} (h : w ≠ c) (word rest : List Char) :
    Text.stripPrefix (w :: word) (c :: rest) = none :=
  if_neg fun hprefix =>
    h (List.cons_prefix_cons.mp (List.isPrefixOf_iff_prefix.mp hprefix)).1

theorem toList_words : "null".toList = ['n', 'u', 'l', 'l'] ∧
    "true".toList = ['t', 'r', 'u', 'e'] ∧ "false".toList = ['f', 'a', 'l', 's', 'e'] := by
  decide

theorem readPlain_null (rest : List Char) :
    readPlain (null.text ++ rest) = some (null, rest) := by
  rw [readPlain, text, Text.stripPrefix_append]

theorem readPlain_bool (b : Bool) (rest : List Char) :
    readPlain ((bool b).text ++ rest) = some (bool b, rest) := by
  obtain ⟨hnull, htrue, hfalse⟩ := toList_words
  cases b with
  | true =>
    rw [readPlain, text, Text.stripPrefix_append, hnull, htrue]
    simp only [List.cons_append, stripPrefix_of_ne (show 'n' ≠ 't' by decide)]
  | false =>
    rw [readPlain, text, Text.stripPrefix_append, hnull, htrue, hfalse]
    simp only [List.cons_append, stripPrefix_of_ne (show 'n' ≠ 'f' by decide),
      stripPrefix_of_ne (show 't' ≠ 'f' by decide)]

theorem readPlain_digits (n : Nat) {rest : List Char} (hrest : IsBehind rest) :
    readPlain (Text.digits 10 n ++ rest) = some (num n, rest) := by
  have hdigits : ∀ c ∈ Text.digits 10 n, c.isDigit = true := fun c => isDigit_of_mem_digits
  have hbehind : rest.takeWhile Char.isDigit = [] ∧ rest.dropWhile Char.isDigit = rest := by
    rcases rest with _ | ⟨c, more⟩
    · exact ⟨rfl, rfl⟩
    · simp [hrest c rfl]
  have htake : (Text.digits 10 n ++ rest).takeWhile Char.isDigit = Text.digits 10 n := by
    rw [List.takeWhile_append_of_pos hdigits, hbehind.1, List.append_nil]
  have hdrop : (Text.digits 10 n ++ rest).dropWhile Char.isDigit = rest := by
    rw [List.dropWhile_append_of_pos hdigits, hbehind.2]
  have hwords : ∀ {w : Char} (word : List Char), w.isDigit = false →
      Text.stripPrefix (w :: word) (Text.digits 10 n ++ rest) = none := by
    intro w word hw
    obtain ⟨c, more, hcons⟩ := List.exists_cons_of_ne_nil (Text.digits_ne_nil 10 n)
    rw [hcons, List.cons_append]
    refine stripPrefix_of_ne ?_ word _
    rintro rfl
    exact absurd ((hdigits w (hcons ▸ List.mem_cons_self)).symm.trans hw) nofun
  obtain ⟨hnull, htrue, hfalse⟩ := toList_words
  unfold readPlain
  rw [hnull, htrue, hfalse, hwords _ (by decide), hwords _ (by decide), hwords _ (by decide)]
  simp only [htake, hdrop, if_neg (Text.digits_ne_nil 10 n),
    @Text.ofDigits_digits 10 (by decide) (by decide), Option.map_some]

/-- The first character of a string, an array or an object. -/
def opens (c : Char) : Bool := c = '\x22' || c = '[' || c = '\x7b'

theorem readValue_plain {c : Char} (h : opens c = false) (fuel : Nat) (rest : List Char) :
    readValue (fuel + 1) (c :: rest) = readPlain (c :: rest) := by
  rw [readValue]
  all_goals
    rintro _ heq
    cases heq
    exact absurd h (by decide)

/-- A word or a number. -/
def isPlain : Json → Bool
  | null | bool _ | num _ => true
  | str _ | arr _ | obj _ => false

/-- How a text begins. -/
theorem head_text (v : Json) : ∃ c rest, v.text = c :: rest ∧ c ≠ ']' ∧
    (v.isPlain = true → opens c = false) := by
  cases v with
  | null => exact ⟨'n', ['u', 'l', 'l'], by decide, by decide, by decide⟩
  | bool b =>
    cases b
    · exact ⟨'f', ['a', 'l', 's', 'e'], by decide, by decide, by decide⟩
    · exact ⟨'t', ['r', 'u', 'e'], by decide, by decide, by decide⟩
  | num n =>
    obtain ⟨c, rest, hcons⟩ := List.exists_cons_of_ne_nil (Text.digits_ne_nil 10 n)
    have hdigit : c.isDigit = true := isDigit_of_mem_digits (hcons ▸ List.mem_cons_self)
    have hother : ∀ d : Char, d.isDigit = false → c ≠ d := by
      rintro d hd rfl
      exact absurd (hdigit.symm.trans hd) nofun
    refine ⟨c, rest, hcons, hother ']' (by decide), fun _ => ?_⟩
    simp [opens, hother '\x22' (by decide), hother '[' (by decide), hother '\x7b' (by decide)]
  | str s => exact ⟨'\x22', _, rfl, by decide, nofun⟩
  | arr items => exact ⟨'[', _, rfl, by decide, nofun⟩
  | obj members => exact ⟨'\x7b', _, rfl, by decide, nofun⟩

/-- A word or a number is left to `readPlain`. -/
theorem readValue_of_isPlain {v : Json} (hv : v.isPlain = true) {fuel : Nat} {rest : List Char}
    (hfuel : v.text.length ≤ fuel) :
    readValue fuel (v.text ++ rest) = readPlain (v.text ++ rest) := by
  obtain ⟨c, more, hcons, -, hopens⟩ := head_text v
  rw [hcons, List.length_cons] at hfuel
  obtain ⟨fuel, rfl⟩ := Nat.exists_eq_succ_of_ne_zero (show fuel ≠ 0 by omega)
  rw [hcons, List.cons_append, readValue_plain (hopens hv)]

theorem length_text_pos (v : Json) : 0 < v.text.length := by
  obtain ⟨c, rest, hcons, -⟩ := head_text v
  rw [hcons]
  exact Nat.succ_pos _

/-- The items of an array that has some, behind its opening bracket. -/
theorem readValue_items {items : List Json} {fuel : Nat} {rest : List Char} (hne : items ≠ [])
    (h : readItems fuel (textItems items ++ ']' :: rest) = some (items, rest)) :
    readValue (fuel + 1) ((arr items).text ++ rest) = some (arr items, rest) := by
  have hstart : ∃ c more, textItems items ++ ']' :: rest = c :: more ∧ c ≠ ']' := by
    rcases items with _ | ⟨v, _ | ⟨w, more⟩⟩
    · exact absurd rfl hne
    · obtain ⟨c, cs, hv, hc, -⟩ := head_text v
      exact ⟨c, _, by rw [textItems, hv, List.cons_append], hc⟩
    · obtain ⟨c, cs, hv, hc, -⟩ := head_text v
      exact ⟨c, _, by rw [textItems, hv, List.cons_append, List.cons_append], hc⟩
  obtain ⟨c, more, hcons, hc⟩ := hstart
  have hopen : (arr items).text ++ rest = '[' :: (textItems items ++ ']' :: rest) := by
    simp [text]
  rw [hopen, hcons, readValue, ← hcons, h]
  · rfl
  · intro more' heq
    exact hc (List.cons.inj heq).1

/-- The members of an object that has some, behind its opening brace. -/
theorem readValue_members {members : List (String × Json)} {fuel : Nat} {rest : List Char}
    (hne : members ≠ [])
    (h : readMembers fuel (textMembers members ++ '\x7d' :: rest) = some (members, rest)) :
    readValue (fuel + 1) ((obj members).text ++ rest) = some (obj members, rest) := by
  have hstart : ∃ more, textMembers members ++ '\x7d' :: rest = '\x22' :: more := by
    rcases members with _ | ⟨⟨key, v⟩, _ | ⟨m, more⟩⟩
    · exact absurd rfl hne
    · exact ⟨_, rfl⟩
    · exact ⟨_, rfl⟩
  obtain ⟨more, hcons⟩ := hstart
  have hopen : (obj members).text ++ rest =
      '\x7b' :: (textMembers members ++ '\x7d' :: rest) := by
    simp [text]
  rw [hopen, hcons, readValue, ← hcons, h]
  · rfl
  · intro more' heq
    exact absurd (List.cons.inj heq).1 (by decide)

theorem readString_key (key : String) {fuel : Nat} {rest : List Char}
    (hfuel : (quote key).length ≤ fuel) :
    readString fuel (key.toList.flatMap escapeChar ++ '\x22' :: rest) =
      some (key.toList, rest) := by
  refine readString_quote ?_ rest
  rw [quote, List.length_cons, List.length_append] at hfuel
  exact Nat.lt_of_lt_of_le (Nat.lt_add_of_pos_right Nat.one_pos) (Nat.le_of_succ_le hfuel)

/-- A member of an object, behind whose key its value is read. -/
theorem readMembers_key {key : String} {fuel : Nat} {input : List Char}
    (hkey : (quote key).length ≤ fuel) :
    readMembers (fuel + 1) (quote key ++ ':' :: input) =
      (readValue fuel input).bind fun r =>
        match r.2 with
        | ',' :: more => (readMembers fuel more).map fun rs => ((key, r.1) :: rs.1, rs.2)
        | '\x7d' :: more => some ([(key, r.1)], more)
        | _ => none := by
  have hquote : quote key ++ ':' :: input =
      '\x22' :: (key.toList.flatMap escapeChar ++ '\x22' :: ':' :: input) := by
    simp [quote]
  rw [hquote, readMembers, readString_key key hkey]
  simp only [Option.bind_some, String.ofList_toList]

mutual

/-- **A value is read back**, whatever stands behind it. -/
theorem readValue_text : ∀ (v : Json) {fuel : Nat} {rest : List Char},
    v.text.length ≤ fuel → IsBehind rest → readValue fuel (v.text ++ rest) = some (v, rest)
  | null, fuel, rest, hfuel, _ => by
    rw [readValue_of_isPlain rfl hfuel, readPlain_null]
  | bool b, fuel, rest, hfuel, _ => by
    rw [readValue_of_isPlain rfl hfuel, readPlain_bool]
  | num n, fuel, rest, hfuel, hrest => by
    rw [readValue_of_isPlain rfl hfuel]
    exact readPlain_digits n hrest
  | str s, fuel, rest, hfuel, _ => by
    obtain ⟨fuel, rfl⟩ := Nat.exists_eq_succ_of_ne_zero
      (Nat.ne_zero_of_lt (Nat.lt_of_lt_of_le (length_text_pos (str s)) hfuel))
    have hopen : (str s).text ++ rest =
        '\x22' :: (s.toList.flatMap escapeChar ++ '\x22' :: rest) := by
      simp [text, quote]
    have hlen : (s.toList.flatMap escapeChar).length < fuel := by
      simp only [text, quote, List.length_cons, List.length_append, List.length_nil] at hfuel
      omega
    rw [hopen, readValue, readString_quote hlen, Option.map_some, String.ofList_toList]
  | arr items, fuel, rest, hfuel, _ => by
    obtain ⟨fuel, rfl⟩ := Nat.exists_eq_succ_of_ne_zero
      (Nat.ne_zero_of_lt (Nat.lt_of_lt_of_le (length_text_pos (arr items)) hfuel))
    by_cases hne : items = []
    · rw [hne]
      rfl
    · refine readValue_items hne (readItems_text items hne ?_)
      simp only [text, List.length_cons, List.length_append, List.length_nil] at hfuel
      omega
  | obj members, fuel, rest, hfuel, _ => by
    obtain ⟨fuel, rfl⟩ := Nat.exists_eq_succ_of_ne_zero
      (Nat.ne_zero_of_lt (Nat.lt_of_lt_of_le (length_text_pos (obj members)) hfuel))
    by_cases hne : members = []
    · rw [hne]
      rfl
    · refine readValue_members hne (readMembers_text members hne ?_)
      simp only [text, List.length_cons, List.length_append, List.length_nil] at hfuel
      omega

theorem readItems_text : ∀ (items : List Json) {fuel : Nat} {rest : List Char}, items ≠ [] →
    (textItems items).length < fuel →
      readItems fuel (textItems items ++ ']' :: rest) = some (items, rest)
  | [], _, _, hne, _ => absurd rfl hne
  | [v], fuel, rest, _, hfuel => by
    obtain ⟨fuel, rfl⟩ := Nat.exists_eq_succ_of_ne_zero (Nat.ne_zero_of_lt hfuel)
    rw [textItems] at hfuel ⊢
    rw [readItems, readValue_text v (Nat.le_of_lt_succ hfuel) (isBehind_cons (by decide) rest)]
    rfl
  | v :: w :: more, fuel, rest, _, hfuel => by
    obtain ⟨fuel, rfl⟩ := Nat.exists_eq_succ_of_ne_zero (Nat.ne_zero_of_lt hfuel)
    rw [textItems, List.length_append, List.length_cons] at hfuel
    rw [textItems, List.append_assoc, List.cons_append, readItems,
      readValue_text v (by omega) (isBehind_cons (by decide) _)]
    show (readItems fuel _).map _ = _
    rw [readItems_text (w :: more) (List.cons_ne_nil _ _) (by omega)]
    rfl

theorem readMembers_text : ∀ (members : List (String × Json)) {fuel : Nat} {rest : List Char},
    members ≠ [] → (textMembers members).length < fuel →
      readMembers fuel (textMembers members ++ '\x7d' :: rest) = some (members, rest)
  | [], _, _, hne, _ => absurd rfl hne
  | [(key, v)], fuel, rest, _, hfuel => by
    obtain ⟨fuel, rfl⟩ := Nat.exists_eq_succ_of_ne_zero (Nat.ne_zero_of_lt hfuel)
    rw [textMembers, List.length_append, List.length_cons] at hfuel
    rw [textMembers, List.append_assoc, List.cons_append, readMembers_key (by omega),
      readValue_text v (by omega) (isBehind_cons (by decide) rest)]
    rfl
  | (key, v) :: m :: more, fuel, rest, _, hfuel => by
    obtain ⟨fuel, rfl⟩ := Nat.exists_eq_succ_of_ne_zero (Nat.ne_zero_of_lt hfuel)
    rw [textMembers, List.length_append, List.length_cons, List.length_append,
      List.length_cons] at hfuel
    rw [textMembers, List.append_assoc, List.cons_append, List.append_assoc, List.cons_append,
      readMembers_key (by omega), readValue_text v (by omega) (isBehind_cons (by decide) _)]
    show (readMembers fuel _).map _ = _
    rw [readMembers_text (m :: more) (List.cons_ne_nil _ _) (by omega)]
    rfl

end

/-- **A value is read back from its text.** -/
theorem read_text (v : Json) : read v.text = some v := by
  have hread : readValue v.text.length (v.text ++ []) = some (v, []) :=
    readValue_text v (Nat.le_refl _) nofun
  rw [List.append_nil] at hread
  rw [read, hread]

/-! ## Sizes -/

/-- How many bytes a text has. -/
def bytes (v : Json) : Nat := (Utf8.encode v.text).length

/-- How many bytes a string has in its text, between the quotation marks. -/
def escapedBytes (s : String) : Nat := (Utf8.encode (s.toList.flatMap escapeChar)).length

theorem bytes_quote (s : String) :
    (Utf8.encode (quote s)).length = escapedBytes s + 2 := by
  rw [quote, Utf8.length_encode_cons, Utf8.length_encode_append]
  show 1 + (escapedBytes s + 1) = _
  omega

@[simp] theorem bytes_null : null.bytes = 4 := by decide

@[simp] theorem bytes_bool (b : Bool) : (bool b).bytes = if b then 4 else 5 := by
  cases b <;> decide

@[simp] theorem bytes_str (s : String) : (str s).bytes = escapedBytes s + 2 := bytes_quote s

@[simp] theorem bytes_num (n : Nat) : (num n).bytes = (Text.digits 10 n).length := by
  exact Utf8.length_encode_ascii (Text.forall_mem_digits (by decide) (by decide) n)

/-- The bytes of the items of an array, and of the members of an object. -/
def itemsBytes (items : List Json) : Nat := (Utf8.encode (textItems items)).length

def membersBytes (members : List (String × Json)) : Nat :=
  (Utf8.encode (textMembers members)).length

@[simp] theorem bytes_arr (items : List Json) : (arr items).bytes = itemsBytes items + 2 := by
  rw [bytes, text, Utf8.length_encode_cons, Utf8.length_encode_append, itemsBytes]
  show 1 + (_ + 1) = _
  omega

@[simp] theorem bytes_obj (members : List (String × Json)) :
    (obj members).bytes = membersBytes members + 2 := by
  rw [bytes, text, Utf8.length_encode_cons, Utf8.length_encode_append, membersBytes]
  show 1 + (_ + 1) = _
  omega

theorem itemsBytes_cons_le (v : Json) (more : List Json) :
    itemsBytes (v :: more) ≤ v.bytes + 1 + itemsBytes more := by
  cases more with
  | nil => exact Nat.le_add_right_of_le (Nat.le_succ _)
  | cons w more =>
    rw [itemsBytes, textItems, Utf8.length_encode_append, Utf8.length_encode_cons]
    show v.bytes + (1 + _) ≤ _
    rw [itemsBytes]
    omega

@[simp] theorem membersBytes_singleton (key : String) (v : Json) :
    membersBytes [(key, v)] = escapedBytes key + 3 + v.bytes := by
  rw [membersBytes, textMembers, Utf8.length_encode_append, Utf8.length_encode_cons, bytes_quote, bytes]
  show _ + (1 + _) = _
  omega

@[simp] theorem membersBytes_cons (key : String) (v : Json) (m : String × Json)
    (more : List (String × Json)) :
    membersBytes ((key, v) :: m :: more) =
      escapedBytes key + 4 + v.bytes + membersBytes (m :: more) := by
  rw [membersBytes, textMembers, Utf8.length_encode_append, Utf8.length_encode_cons,
    Utf8.length_encode_append, Utf8.length_encode_cons, bytes_quote, bytes, membersBytes]
  show _ + (1 + (_ + (1 + _))) = _
  omega

/-! ### What escaping adds -/

/-- A character that is escaped with a letter. -/
def isLettered (c : Char) : Bool := (shortEscape c).isSome

/-- A character that is escaped with its number. -/
def isNumbered (c : Char) : Bool := (shortEscape c).isNone && decide (c.toNat < 0x20)

theorem length_encode_escapeChar (c : Char) :
    (Utf8.encode (escapeChar c)).length =
      c.utf8Size + (if isLettered c then 1 else 0) + (if isNumbered c then 5 else 0) := by
  unfold escapeChar isLettered isNumbered
  cases hshort : shortEscape c with
  | some letter =>
    have hsize : c.utf8Size = 1 ∧ letter.utf8Size = 1 := by
      unfold shortEscape at hshort
      split_ifs at hshort
      all_goals
        cases hshort
        subst c
        decide
    simp [Utf8.encode, hsize.1, hsize.2, show '\x5c'.utf8Size = 1 by decide]
  | none =>
    by_cases hlow : c.toNat < 0x20
    · have hhex : ∀ d : Fin 16, (hexChar d.val).utf8Size = 1 := by decide
      have hhigh := hhex ⟨c.toNat / 16, by omega⟩
      have hrest := hhex ⟨c.toNat % 16, by omega⟩
      simp only at hhigh hrest
      simp [Utf8.encode, hlow, hhigh, hrest, Utf8.utf8Size_ascii (c := c) (by omega),
        show '\x5c'.utf8Size = 1 by decide, show 'u'.utf8Size = 1 by decide,
        show '0'.utf8Size = 1 by decide]
    · simp [Utf8.encode, hlow]

/-- **What escaping adds**: one byte for a character with a letter, five for one that is
written with its number. -/
theorem escapedBytes_eq (s : String) :
    escapedBytes s =
      s.utf8ByteSize + s.toList.countP isLettered + 5 * s.toList.countP isNumbered := by
  rw [escapedBytes, Utf8.length_encode_flatMap, Utf8.utf8ByteSize_eq]
  induction s.toList with
  | nil => rfl
  | cons c cs ih =>
    rw [List.map_cons, List.sum_cons, ih, length_encode_escapeChar, List.map_cons,
      List.sum_cons, List.countP_cons, List.countP_cons]
    split_ifs <;> omega

/-- A string whose characters take at most `n` bytes each. -/
theorem escapedBytes_le_of_forall {s : String} {n : Nat}
    (h : ∀ c ∈ s.toList, (Utf8.encode (escapeChar c)).length ≤ n) :
    escapedBytes s ≤ n * s.length := by
  rw [escapedBytes, Utf8.length_encode_flatMap, Nat.mul_comm, ← String.length_toList]
  exact (List.sum_le_card_nsmul _ n (List.forall_mem_map.mpr h)).trans_eq (by simp)

theorem length_encode_escapeChar_le (c : Char) :
    (Utf8.encode (escapeChar c)).length ≤ 6 * c.utf8Size ∧
      (Utf8.encode (escapeChar c)).length ≤ 6 ∧
      (0x20 ≤ c.toNat → (Utf8.encode (escapeChar c)).length ≤ 4) := by
  have hpos := c.utf8Size_pos
  have hfour := c.utf8Size_le_four
  have hone : c.toNat < 0x80 → c.utf8Size = 1 := Utf8.utf8Size_ascii
  have hlettered : isLettered c = true → c.toNat < 0x80 := by
    unfold isLettered shortEscape
    split_ifs
    case neg => nofun
    all_goals
      subst c
      decide
  have hnumbered : isNumbered c = true → c.toNat < 0x20 ∧ isLettered c = false := by
    unfold isNumbered isLettered
    cases shortEscape c <;> simp
  rw [length_encode_escapeChar]
  cases h₁ : isLettered c <;> cases h₂ : isNumbered c <;> simp_all <;> omega

/-- No string grows more than sixfold. -/
theorem escapedBytes_le (s : String) : escapedBytes s ≤ 6 * s.utf8ByteSize := by
  rw [escapedBytes, Utf8.length_encode_flatMap, Utf8.utf8ByteSize_eq]
  induction s.toList with
  | nil => exact Nat.le_refl _
  | cons c cs ih =>
    have hc := (length_encode_escapeChar_le c).1
    simp only [List.map_cons, List.sum_cons]
    omega

theorem membersBytes_le (members : List (String × Json)) :
    membersBytes members ≤ (members.map fun m => escapedBytes m.1 + 4 + m.2.bytes).sum := by
  induction members with
  | nil => exact Nat.le_refl _
  | cons m more ih =>
    obtain ⟨key, v⟩ := m
    rcases more with _ | ⟨w, more⟩
    · simp only [membersBytes_singleton, List.map_cons, List.map_nil, List.sum_cons, List.sum_nil]
      omega
    · rw [membersBytes_cons, List.map_cons, List.sum_cons]
      exact Nat.add_le_add_left ih _

theorem itemsBytes_le (items : List Json) :
    itemsBytes items ≤ (items.map fun v => v.bytes + 1).sum := by
  induction items with
  | nil => exact Nat.le_refl _
  | cons v more ih => exact (itemsBytes_cons_le v more).trans (Nat.add_le_add_left ih _)

end Json
