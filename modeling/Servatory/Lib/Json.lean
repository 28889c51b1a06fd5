import Mathlib.Data.List.Basic

/-! JSON: its values, the texts that write a value, and a parser that reads every text that the grammar allows. -/

inductive JsonValue
  | null
  | bool (b : Bool)
  | number (literal : List Char)
  | string (text : List Char)
  | array (items : List JsonValue)
  | object (members : List (List Char × JsonValue))

namespace JsonValue

/-! ### Strings -/

/-- The character that a letter behind a backslash stands for. -/
def escaped (letter : Char) : Option Char :=
  [('"', '"'), ('\\', '\\'), ('/', '/'), ('b', '\x08'), ('f', '\x0c'), ('n', '\n'), ('r', '\r'), ('t', '\t')].lookup letter

def hexDigit (c : Char) : Option Nat :=
  if c.isDigit then some (c.toNat - 48)
  else if 'a' ≤ c ∧ c ≤ 'f' then some (c.toNat - 87)
  else if 'A' ≤ c ∧ c ≤ 'F' then some (c.toNat - 55)
  else none

def codeUnit (digits : List Char) : Option Nat := (digits.mapM hexDigit).map fun values => values.foldl (16 * · + ·) 0

/-- The character of a high and a low surrogate. -/
def surrogates (high low : Nat) : Option Char :=
  if 0xd800 ≤ high ∧ high < 0xdc00 ∧ 0xdc00 ≤ low ∧ low < 0xe000 then
    some (Char.ofNat (0x10000 + 0x400 * (high - 0xd800) + (low - 0xdc00)))
  else none

/-- The texts between quotes that write a string. -/
inductive Quotes : List Char → List Char → Prop
  | nil : Quotes [] []
  | literal {c : Char} {text body : List Char} (hquote : c ≠ '"') (hslash : c ≠ '\\') (hcontrol : 0x20 ≤ c.toNat)
      (h : Quotes text body) : Quotes (c :: text) (c :: body)
  | escape {letter c : Char} {text body : List Char} (hletter : escaped letter = some c) (h : Quotes text body) :
      Quotes (c :: text) ('\\' :: letter :: body)
  | unit {a b c d : Char} {n : Nat} {text body : List Char} (hunit : codeUnit [a, b, c, d] = some n) (hn : n.isValidChar)
      (h : Quotes text body) : Quotes (Char.ofNat n :: text) ('\\' :: 'u' :: a :: b :: c :: d :: body)
  | pair {a b c d a' b' c' d' character : Char} {high low : Nat} {text body : List Char}
      (hhigh : codeUnit [a, b, c, d] = some high) (hn : ¬high.isValidChar) (hlow : codeUnit [a', b', c', d'] = some low)
      (hpair : surrogates high low = some character) (h : Quotes text body) :
      Quotes (character :: text)
        ('\\' :: 'u' :: a :: b :: c :: d :: '\\' :: 'u' :: a' :: b' :: c' :: d' :: body)

/-- Reads a string up to its closing quote, and what follows it. -/
def parseChars : List Char → Option (List Char × List Char)
  | [] => none
  | c :: rest =>
    if c = '"' then some ([], rest)
    else if c = '\\' then
      match rest with
      | [] => none
      | letter :: rest =>
        if letter = 'u' then
          match rest with
          | a :: b :: c :: d :: rest =>
            match codeUnit [a, b, c, d] with
            | none => none
            | some n =>
              if n.isValidChar then (parseChars rest).map fun r => (Char.ofNat n :: r.1, r.2)
              else
                match rest with
                | '\\' :: 'u' :: a :: b :: c :: d :: rest =>
                  match (codeUnit [a, b, c, d]).bind (surrogates n) with
                  | none => none
                  | some character => (parseChars rest).map fun r => (character :: r.1, r.2)
                | _ => none
          | _ => none
        else
          match escaped letter with
          | none => none
          | some c => (parseChars rest).map fun r => (c :: r.1, r.2)
    else if c.toNat < 0x20 then none
    else (parseChars rest).map fun r => (c :: r.1, r.2)

theorem escaped_ne_unit {letter c : Char} (h : escaped letter = some c) : letter ≠ 'u' := by
  rintro rfl
  cases h

theorem parseChars_complete {text body : List Char} (h : Quotes text body) (rest : List Char) :
    parseChars (body ++ '"' :: rest) = some (text, rest) := by
  induction h with
  | nil =>
    rw [List.nil_append, parseChars.eq_def]
    exact if_pos rfl
  | literal hquote hslash hcontrol _ ih =>
    rw [List.cons_append, parseChars.eq_def]
    dsimp only
    rw [if_neg hquote, if_neg hslash, if_neg (Nat.not_lt.mpr hcontrol), ih, Option.map_some]
  | escape hletter _ ih =>
    rw [List.cons_append, List.cons_append, parseChars.eq_def]
    dsimp only
    rw [if_neg (by decide), if_pos rfl, if_neg (escaped_ne_unit hletter), hletter, ih]
    rfl
  | unit hunit hn _ ih =>
    simp only [List.cons_append]
    rw [parseChars.eq_def]
    dsimp only
    rw [if_neg (by decide), if_pos rfl, if_pos rfl, hunit]
    dsimp only
    rw [if_pos hn, ih, Option.map_some]
  | pair hhigh hn hlow hpair _ ih =>
    simp only [List.cons_append]
    rw [parseChars.eq_def]
    dsimp only
    rw [if_neg (by decide), if_pos rfl, if_pos rfl, hhigh]
    dsimp only
    rw [if_neg hn]
    simp only [hlow, Option.bind_some, hpair, ih, Option.map_some]

/-! ### Numbers -/

def dropDigits (text : List Char) : Option (List Char) :=
  if (text.takeWhile (·.isDigit)).isEmpty then none else some (text.dropWhile (·.isDigit))

def dropSign (sign : Char → Bool) : List Char → List Char
  | [] => []
  | c :: rest => if sign c then rest else c :: rest

/-- Digits, without a zero in front of others. -/
def dropInteger : List Char → Option (List Char)
  | '0' :: rest => some rest
  | text => dropDigits text

def dropFraction : List Char → Option (List Char)
  | '.' :: rest => dropDigits rest
  | text => some text

def dropExponent : List Char → Option (List Char)
  | [] => some []
  | c :: rest => if c == 'e' || c == 'E' then dropDigits (dropSign (fun c => c == '+' || c == '-') rest) else some (c :: rest)

def isNumberChar (c : Char) : Bool := c.isDigit || "+-.eE".toList.contains c

def isNumber (literal : List Char) : Bool :=
  literal.all isNumberChar &&
    (dropInteger (dropSign (· == '-') literal) >>= dropFraction >>= dropExponent) == some []

/-! ### Values -/

def isSpace (c : Char) : Bool := c == ' ' || c == '\t' || c == '\n' || c == '\r'

def words : List (List Char × JsonValue) := [("null".toList, .null), ("true".toList, .bool true), ("false".toList, .bool false)]

/-- The texts of the key of a member, with white space around them. -/
def WritesKey (key text : List Char) : Prop :=
  ∃ before body after, before.all isSpace ∧ after.all isSpace ∧ Quotes key body ∧
    text = before ++ '"' :: body ++ '"' :: after

/-- The texts that write a value, with white space around them. -/
inductive Writes : JsonValue → List Char → Prop
  | space {v : JsonValue} {before text after : List Char} (hbefore : before.all isSpace) (hafter : after.all isSpace)
      (h : Writes v text) : Writes v (before ++ text ++ after)
  | word {v : JsonValue} {text : List Char} (h : (text, v) ∈ words) : Writes v text
  | number {literal : List Char} (h : isNumber literal) : Writes (.number literal) literal
  | string {text body : List Char} (h : Quotes text body) : Writes (.string text) ('"' :: body ++ ['"'])
  | emptyArray {space : List Char} (h : space.all isSpace) : Writes (.array []) ('[' :: space ++ [']'])
  | array {items : List JsonValue} {texts : List (List Char)} (hne : items ≠ []) (hlength : items.length = texts.length)
      (h : ∀ i ∈ items.zip texts, Writes i.1 i.2) : Writes (.array items) ('[' :: [','].intercalate texts ++ [']'])
  | emptyObject {space : List Char} (h : space.all isSpace) : Writes (.object []) ('\x7b' :: space ++ ['\x7d'])
  | object {members : List (List Char × JsonValue)} {texts : List (List Char × List Char)} (hne : members ≠ [])
      (hlength : members.length = texts.length) (hkeys : ∀ m ∈ members.zip texts, WritesKey m.1.1 m.2.1)
      (h : ∀ m ∈ members.zip texts, Writes m.1.2 m.2.2) :
      Writes (.object members) ('\x7b' :: [','].intercalate (texts.map fun t => t.1 ++ ':' :: t.2) ++ ['\x7d'])

/-! ### The parser -/

def skip (text : List Char) : List Char := text.dropWhile isSpace

def parseNumber (text : List Char) : Option (JsonValue × List Char) :=
  let literal := text.takeWhile isNumberChar
  if isNumber literal then some (.number literal, text.dropWhile isNumberChar) else none

/-- Elements with commas between them, up to a closing character. -/
def parseSeparated {α : Type} (element : List Char → Option (α × List Char)) (close : Char) :
    Nat → List Char → Option (List α × List Char)
  | 0, _ => none
  | n + 1, text =>
    match element text with
    | some (a, c :: rest) =>
      if c = ',' then (parseSeparated element close n rest).map fun r => (a :: r.1, r.2)
      else if c = close then some ([a], rest)
      else none
    | _ => none

/-- The elements between brackets, or just white space. -/
def parseBrackets {α : Type} (element : List Char → Option (α × List Char)) (close : Char) (text : List Char) :
    Option (List α × List Char) :=
  match skip text with
  | [] => none
  | c :: rest => if c = close then some ([], rest) else parseSeparated element close text.length text

def parseMember (element : List Char → Option (JsonValue × List Char)) (text : List Char) :
    Option ((List Char × JsonValue) × List Char) :=
  match skip text with
  | '"' :: rest => do
    let (key, rest) ← parseChars rest
    match skip rest with
    | ':' :: rest => (element rest).map fun r => ((key, r.1), r.2)
    | _ => none
  | _ => none

/-- A value at the start of a text. `element` reads the values in it. -/
def parseStart (element : List Char → Option (JsonValue × List Char)) : List Char → Option (JsonValue × List Char)
  | [] => none
  | c :: rest =>
    if c = '"' then (parseChars rest).map fun r => (.string r.1, r.2)
    else if c = '[' then (parseBrackets element ']' rest).map fun r => (.array r.1, r.2)
    else if c = '\x7b' then (parseBrackets (parseMember element) '\x7d' rest).map fun r => (.object r.1, r.2)
    else
      match words.find? (·.1.isPrefixOf (c :: rest)) with
      | some (word, v) => some (v, (c :: rest).drop word.length)
      | none => parseNumber (c :: rest)

/-- A value with the white space around it. -/
def parseElement : Nat → List Char → Option (JsonValue × List Char)
  | 0, _ => none
  | fuel + 1, text => (parseStart (parseElement fuel) (skip text)).map fun r => (r.1, skip r.2)

/-- The value that a text is, if it is one. -/
def parse (text : List Char) : Option JsonValue :=
  match parseElement (text.length + 1) text with
  | some (v, []) => some v
  | _ => none

/-! ### What is written is read -/

variable {text rest : List Char} {c : Char}

theorem skip_append {before : List Char} (h : before.all isSpace) (text : List Char) : skip (before ++ text) = skip text := by
  rw [skip, List.dropWhile_append_of_pos (List.all_eq_true.mp h)]
  rfl

theorem skip_cons (h : isSpace c = false) (rest : List Char) : skip (c :: rest) = c :: rest :=
  List.dropWhile_cons_of_neg (by rw [h]; exact Bool.false_ne_true)

theorem skip_of_cons (h : skip text = c :: rest) (more : List Char) : skip (text ++ more) = c :: (rest ++ more) := by
  rw [skip] at h
  rw [skip, List.dropWhile_append, h]
  rfl

/-- What follows a value, so that a number ends there. -/
def Follows (rest : List Char) : Prop := ∀ c ∈ rest.head?, isNumberChar c = false

theorem Follows.space {after : List Char} (h : after.all isSpace) (hrest : Follows rest) : Follows (after ++ rest) := by
  cases after with
  | nil => exact hrest
  | cons c after =>
    rintro _ ⟨⟩
    rw [List.all_cons, Bool.and_eq_true] at h
    have hspace := h.1
    rw [isSpace] at hspace
    simp only [Bool.or_eq_true, beq_iff_eq] at hspace
    rcases hspace with ((rfl | rfl) | rfl) | rfl <;> rfl

theorem parseNumber_complete {literal : List Char} (h : isNumber literal) (hrest : Follows rest) :
    parseNumber (literal ++ rest) = some (.number literal, rest) := by
  have hall : ∀ c ∈ literal, isNumberChar c = true := List.all_eq_true.mp (Bool.and_eq_true_iff.mp h).1
  have htake : rest.takeWhile isNumberChar = [] := by
    cases rest with
    | nil => rfl
    | cons c rest => exact List.takeWhile_cons_of_neg (by rw [hrest c rfl]; exact Bool.false_ne_true)
  have hdrop : rest.dropWhile isNumberChar = rest := by
    cases rest with
    | nil => rfl
    | cons c rest => exact List.dropWhile_cons_of_neg (by rw [hrest c rfl]; exact Bool.false_ne_true)
  rw [parseNumber, List.takeWhile_append_of_pos hall, htake, List.append_nil, if_pos h, List.dropWhile_append_of_pos hall,
    hdrop]

/-- The first character of a number. -/
theorem head_of_isNumber {literal : List Char} (h : isNumber literal) :
    ∃ c rest, literal = c :: rest ∧ isNumberChar c = true := by
  cases literal with
  | nil => cases h
  | cons c rest => exact ⟨c, rest, rfl, (List.all_eq_true.mp (Bool.and_eq_true_iff.mp h).1) c (List.mem_cons_self ..)⟩

theorem isNumberChar_spec (h : isNumberChar c) : isSpace c = false ∧ c ≠ '"' ∧ c ≠ '[' ∧ c ≠ ']' ∧ c ≠ '\x7b' ∧
    c ≠ 'n' ∧ c ≠ 't' ∧ c ≠ 'f' := by
  refine ⟨?_, ?_⟩
  · rw [isSpace]
    simp only [Bool.or_eq_false_iff, beq_eq_false_iff_ne]
    refine ⟨⟨⟨?_, ?_⟩, ?_⟩, ?_⟩
    all_goals
      rintro rfl
      cases h
  · refine ⟨?_, ?_, ?_, ?_, ?_, ?_, ?_⟩
    all_goals
      rintro rfl
      cases h

theorem mem_words {v : JsonValue} (h : (text, v) ∈ words) :
    (text = "null".toList ∧ v = .null) ∨ (text = "true".toList ∧ v = .bool true) ∨ (text = "false".toList ∧ v = .bool false) := by
  rw [words] at h
  simp only [List.mem_cons, Prod.mk.injEq, List.not_mem_nil, or_false] at h
  exact h

/-- The first character of a value is no closing bracket. -/
theorem Writes.head {v : JsonValue} (h : Writes v text) : ∃ c rest, skip text = c :: rest ∧ c ≠ ']' := by
  induction h with
  | space hbefore hafter h ih =>
    obtain ⟨c, rest, heq, hc⟩ := ih
    rw [List.append_assoc, skip_append hbefore, skip_of_cons heq]
    exact ⟨c, _, rfl, hc⟩
  | word h =>
    rcases mem_words h with ⟨rfl, -⟩ | ⟨rfl, -⟩ | ⟨rfl, -⟩ <;> exact ⟨_, _, skip_cons rfl _, by decide⟩
  | number h =>
    obtain ⟨c, rest, rfl, hc⟩ := head_of_isNumber h
    obtain ⟨hspace, -, -, hclose, -⟩ := isNumberChar_spec hc
    exact ⟨c, rest, skip_cons hspace rest, hclose⟩
  | string => exact ⟨_, _, skip_cons rfl _, by decide⟩
  | emptyArray => exact ⟨_, _, skip_cons rfl _, by decide⟩
  | array => exact ⟨_, _, skip_cons rfl _, by decide⟩
  | emptyObject => exact ⟨_, _, skip_cons rfl _, by decide⟩
  | object => exact ⟨_, _, skip_cons rfl _, by decide⟩

/-- An element is read at the start of some text, with the white space behind it. -/
def Reads {α : Type} (element : List Char → Option (α × List Char)) (a : α) (text : List Char) : Prop :=
  ∀ rest, Follows rest → element (text ++ rest) = some (a, skip rest)

section
variable {fuel : Nat} {v : JsonValue}

theorem Reads.space {before after : List Char} (hbefore : before.all isSpace) (hafter : after.all isSpace)
    (h : Reads (parseElement fuel) v text) : Reads (parseElement fuel) v (before ++ text ++ after) := by
  intro rest hrest
  have hread := h (after ++ rest) (hrest.space hafter)
  cases fuel with
  | zero => cases hread
  | succ fuel =>
    rw [parseElement] at hread ⊢
    rw [skip_append hafter] at hread
    rw [List.append_assoc, List.append_assoc, skip_append hbefore, hread]

theorem Reads.of_start (hspace : isSpace c = false)
    (h : ∀ rest, Follows rest → parseStart (parseElement fuel) (c :: (text ++ rest)) = some (v, rest)) :
    Reads (parseElement (fuel + 1)) v (c :: text) := by
  intro rest hrest
  rw [List.cons_append, parseElement, skip_cons hspace, h rest hrest, Option.map_some]

theorem reads_word (h : (text, v) ∈ words) : Reads (parseElement (fuel + 1)) v text := by
  rcases mem_words h with ⟨rfl, rfl⟩ | ⟨rfl, rfl⟩ | ⟨rfl, rfl⟩ <;> exact Reads.of_start rfl fun _ _ => rfl

theorem reads_number {literal : List Char} (h : isNumber literal) :
    Reads (parseElement (fuel + 1)) (.number literal) literal := by
  obtain ⟨c, digits, rfl, hc⟩ := head_of_isNumber h
  obtain ⟨hspace, hquote, hbracket, -, hbrace, hn, ht, hf⟩ := isNumberChar_spec hc
  refine Reads.of_start hspace fun rest hrest => ?_
  have hwords : words.find? (·.1.isPrefixOf (c :: (digits ++ rest))) = none := by
    rw [List.find?_eq_none]
    rintro ⟨text, v⟩ hword hbegins
    obtain ⟨more, hmore⟩ := List.isPrefixOf_iff_prefix.mp hbegins
    rcases mem_words hword with ⟨rfl, -⟩ | ⟨rfl, -⟩ | ⟨rfl, -⟩
    · exact hn (List.cons.inj hmore).1.symm
    · exact ht (List.cons.inj hmore).1.symm
    · exact hf (List.cons.inj hmore).1.symm
  rw [parseStart, if_neg hquote, if_neg hbracket, if_neg hbrace, hwords]
  exact parseNumber_complete h hrest

theorem reads_string {value body : List Char} (h : Quotes value body) :
    Reads (parseElement (fuel + 1)) (.string value) ('"' :: body ++ ['"']) := by
  rw [List.cons_append]
  refine Reads.of_start rfl fun rest hrest => ?_
  rw [parseStart, if_pos rfl, List.append_assoc, List.singleton_append, parseChars_complete h, Option.map_some]

end

section
variable {α : Type} {element : List Char → Option (α × List Char)} {items : List α} {texts : List (List Char)} {close : Char}

theorem parseSeparated_complete (hcomma : close ≠ ',') (hspace : isSpace close = false)
    (hfollows : isNumberChar close = false) (hne : items ≠ []) (hlength : items.length = texts.length)
    (h : ∀ i ∈ items.zip texts, Reads element i.1 i.2) {n : Nat} (hn : items.length ≤ n) (rest : List Char) :
    parseSeparated element close n ([','].intercalate texts ++ close :: rest) = some (items, rest) := by
  induction items generalizing texts n with
  | nil => exact absurd rfl hne
  | cons a items ih =>
    obtain ⟨text, texts, rfl⟩ := List.exists_cons_of_length_eq_add_one hlength.symm
    obtain ⟨n, rfl⟩ := Nat.exists_eq_succ_of_ne_zero (Nat.ne_of_gt (Nat.lt_of_lt_of_le (Nat.succ_pos _) hn))
    rw [List.zip_cons_cons, List.forall_mem_cons] at h
    cases items with
    | nil =>
      obtain rfl := List.length_eq_zero_iff.mp (Nat.succ.inj hlength).symm
      rw [List.intercalate_singleton, parseSeparated, h.1 _ (by rintro _ ⟨⟩; exact hfollows), skip_cons hspace]
      dsimp only
      rw [if_neg hcomma, if_pos rfl]
    | cons b items =>
      obtain ⟨text', texts, rfl⟩ := List.exists_cons_of_length_eq_add_one (Nat.succ.inj hlength).symm
      have hrest := ih (List.cons_ne_nil b items) (Nat.succ.inj hlength) h.2 (Nat.le_of_succ_le_succ hn)
      rw [List.intercalate_cons_cons, List.append_assoc, List.append_assoc, parseSeparated,
        h.1 _ (by rintro _ ⟨⟩; rfl), List.singleton_append, skip_cons rfl]
      dsimp only
      rw [if_pos rfl, hrest, Option.map_some]

theorem length_le_intercalate (texts : List (List Char)) : texts.length ≤ ([','].intercalate texts).length + 1 := by
  induction texts with
  | nil => exact Nat.zero_le _
  | cons text texts ih =>
    cases texts with
    | nil => exact Nat.le_add_left _ _
    | cons text' texts =>
      rw [List.intercalate_cons_cons, List.length_append, List.length_append, List.length_cons, List.length_singleton]
      omega

theorem length_le_of_mem (h : text ∈ texts) : text.length ≤ ([','].intercalate texts).length := by
  induction texts with
  | nil => cases h
  | cons first texts ih =>
    cases texts with
    | nil =>
      obtain rfl := List.mem_singleton.mp h
      exact Nat.le_of_eq (congrArg List.length List.intercalate_singleton.symm)
    | cons second texts =>
      rw [List.intercalate_cons_cons, List.length_append, List.length_append]
      rcases List.mem_cons.mp h with rfl | h
      · omega
      · have := ih h
        omega

/-- Elements in brackets are read when the first of them does not start with the closing bracket. -/
theorem parseBrackets_complete (hcomma : close ≠ ',') (hspace : isSpace close = false)
    (hfollows : isNumberChar close = false) (hne : items ≠ []) (hlength : items.length = texts.length)
    (h : ∀ i ∈ items.zip texts, Reads element i.1 i.2)
    (hhead : ∀ i ∈ items.zip texts, ∃ c rest, skip i.2 = c :: rest ∧ c ≠ close) (rest : List Char) :
    parseBrackets element close ([','].intercalate texts ++ close :: rest) = some (items, rest) := by
  obtain ⟨a, items', rfl⟩ := List.exists_cons_of_ne_nil hne
  obtain ⟨text, texts', rfl⟩ := List.exists_cons_of_length_eq_add_one hlength.symm
  obtain ⟨c, more, hskip, hc⟩ := hhead (a, text) (List.mem_cons_self ..)
  have hfirst : ∃ more, [','].intercalate (text :: texts') ++ close :: rest = text ++ more := by
    cases texts' with
    | nil => exact ⟨_, by rw [List.intercalate_singleton]⟩
    | cons text' texts' => exact ⟨_, by rw [List.intercalate_cons_cons, List.append_assoc, List.append_assoc]⟩
  obtain ⟨after, hafter⟩ := hfirst
  have hn : (a :: items').length ≤ ([','].intercalate (text :: texts') ++ close :: rest).length := by
    have hle := length_le_intercalate (text :: texts')
    rw [hlength, List.length_append, List.length_cons (a := close)]
    omega
  have hstart : skip ([','].intercalate (text :: texts') ++ close :: rest) = c :: (more ++ after) := by
    rw [hafter, skip_of_cons hskip]
  rw [parseBrackets, hstart]
  dsimp only
  rw [if_neg hc, parseSeparated_complete hcomma hspace hfollows hne hlength h hn]

theorem parseBrackets_empty {space : List Char} (h : space.all isSpace) (hspace : isSpace close = false) (rest : List Char) :
    parseBrackets element close (space ++ close :: rest) = some ([], rest) := by
  rw [parseBrackets, skip_append h, skip_cons hspace]
  exact if_pos rfl

end

/-- A member is read when its value is. -/
theorem reads_member {element : List Char → Option (JsonValue × List Char)} {key keyText valueText : List Char} {v : JsonValue}
    (hkey : WritesKey key keyText) (hvalue : Reads element v valueText) :
    Reads (parseMember element) (key, v) (keyText ++ ':' :: valueText) := by
  obtain ⟨before, body, after, hbefore, hafter, hquotes, rfl⟩ := hkey
  intro rest hrest
  have hassoc : before ++ '"' :: body ++ '"' :: after ++ ':' :: valueText ++ rest =
      before ++ '"' :: (body ++ '"' :: (after ++ ':' :: (valueText ++ rest))) := by
    simp only [List.append_assoc, List.cons_append]
  rw [hassoc, parseMember, skip_append hbefore, skip_cons rfl]
  simp only [parseChars_complete hquotes, Option.bind_eq_bind, Option.bind_some, skip_append hafter]
  rw [skip_cons rfl]
  simp only [hvalue rest hrest, Option.map_some]

section
variable {fuel : Nat}

theorem reads_emptyArray {space : List Char} (h : space.all isSpace) :
    Reads (parseElement (fuel + 1)) (.array []) ('[' :: space ++ [']']) := by
  rw [List.cons_append]
  refine Reads.of_start rfl fun rest _ => ?_
  rw [parseStart, if_neg (by decide), if_pos rfl, List.append_assoc, List.singleton_append, parseBrackets_empty h rfl,
    Option.map_some]

theorem reads_array {items : List JsonValue} {texts : List (List Char)} (hne : items ≠ [])
    (hlength : items.length = texts.length) (h : ∀ i ∈ items.zip texts, Writes i.1 i.2)
    (hreads : ∀ i ∈ items.zip texts, Reads (parseElement fuel) i.1 i.2) :
    Reads (parseElement (fuel + 1)) (.array items) ('[' :: [','].intercalate texts ++ [']']) := by
  rw [List.cons_append]
  refine Reads.of_start rfl fun rest _ => ?_
  rw [parseStart, if_neg (by decide), if_pos rfl, List.append_assoc, List.singleton_append,
    parseBrackets_complete (by decide) rfl rfl hne hlength hreads (fun i hi => (h i hi).head), Option.map_some]

theorem reads_emptyObject {space : List Char} (h : space.all isSpace) :
    Reads (parseElement (fuel + 1)) (.object []) ('\x7b' :: space ++ ['\x7d']) := by
  rw [List.cons_append]
  refine Reads.of_start rfl fun rest _ => ?_
  rw [parseStart, if_neg (by decide), if_neg (by decide), if_pos rfl, List.append_assoc, List.singleton_append,
    parseBrackets_empty h rfl, Option.map_some]

/-- What stands between the commas of an object is a key and the text of its value. -/
theorem exists_of_mem_zip {members : List (List Char × JsonValue)} {texts : List (List Char × List Char)}
    {m : (List Char × JsonValue) × List Char} (h : m ∈ members.zip (texts.map fun t => t.1 ++ ':' :: t.2)) :
    ∃ t, (m.1, t) ∈ members.zip texts ∧ m.2 = t.1 ++ ':' :: t.2 := by
  rw [List.zip_map_right] at h
  obtain ⟨⟨key, t⟩, hmem, rfl⟩ := List.mem_map.mp h
  exact ⟨t, hmem, rfl⟩

theorem WritesKey.head {key text : List Char} (h : WritesKey key text) (more : List Char) :
    ∃ c rest, skip (text ++ more) = c :: rest ∧ c ≠ '\x7d' := by
  obtain ⟨before, body, after, hbefore, -, -, rfl⟩ := h
  rw [List.append_assoc, List.append_assoc, skip_append hbefore]
  exact ⟨_, _, skip_cons rfl _, by decide⟩

theorem reads_object {members : List (List Char × JsonValue)} {texts : List (List Char × List Char)} (hne : members ≠ [])
    (hlength : members.length = texts.length) (hkeys : ∀ m ∈ members.zip texts, WritesKey m.1.1 m.2.1)
    (hreads : ∀ m ∈ members.zip texts, Reads (parseElement fuel) m.1.2 m.2.2) :
    Reads (parseElement (fuel + 1)) (.object members)
      ('\x7b' :: [','].intercalate (texts.map fun t => t.1 ++ ':' :: t.2) ++ ['\x7d']) := by
  have hmembers : ∀ m ∈ members.zip (texts.map fun t => t.1 ++ ':' :: t.2),
      Reads (parseMember (parseElement fuel)) m.1 m.2 := by
    rintro ⟨⟨key, v⟩, text⟩ hm
    obtain ⟨t, hmem, rfl⟩ := exists_of_mem_zip hm
    exact reads_member (hkeys _ hmem) (hreads _ hmem)
  have hheads : ∀ m ∈ members.zip (texts.map fun t => t.1 ++ ':' :: t.2), ∃ c rest, skip m.2 = c :: rest ∧ c ≠ '\x7d' := by
    intro m hm
    obtain ⟨t, hmem, heq⟩ := exists_of_mem_zip hm
    rw [heq]
    exact (hkeys _ hmem).head _
  rw [List.cons_append]
  refine Reads.of_start rfl fun rest _ => ?_
  rw [parseStart, if_neg (by decide), if_neg (by decide), if_pos rfl, List.append_assoc, List.singleton_append,
    parseBrackets_complete (by decide) rfl rfl hne (by rw [hlength, List.length_map]) hmembers hheads, Option.map_some]

end

/-- Every text of a value is read as that value. -/
theorem Writes.reads {v : JsonValue} (h : Writes v text) {fuel : Nat} (hfuel : text.length < fuel) :
    Reads (parseElement fuel) v text := by
  obtain ⟨fuel, rfl⟩ := Nat.exists_eq_succ_of_ne_zero (Nat.ne_of_gt (Nat.zero_lt_of_lt hfuel))
  have hfuel := Nat.le_of_lt_succ hfuel
  induction h generalizing fuel with
  | space hbefore hafter _ ih =>
    rw [List.length_append, List.length_append] at hfuel
    exact (ih fuel (by omega) (by omega)).space hbefore hafter
  | word h => exact reads_word h
  | number h => exact reads_number h
  | string h => exact reads_string h
  | emptyArray h => exact reads_emptyArray h
  | @array items texts hne hlength h ih =>
    refine reads_array hne hlength h fun i hi => ?_
    have hle := length_le_of_mem (List.of_mem_zip hi).2
    rw [List.cons_append, List.length_cons, List.length_append] at hfuel
    obtain ⟨fuel, rfl⟩ := Nat.exists_eq_succ_of_ne_zero (show fuel ≠ 0 by omega)
    exact ih i hi fuel (by omega) (by omega)
  | emptyObject h => exact reads_emptyObject h
  | @object members texts hne hlength hkeys h ih =>
    refine reads_object hne hlength hkeys fun m hm => ?_
    have hle := length_le_of_mem (List.mem_map_of_mem (f := fun t => t.1 ++ ':' :: t.2) (List.of_mem_zip hm).2)
    rw [List.length_append, List.length_cons] at hle
    rw [List.cons_append, List.length_cons, List.length_append] at hfuel
    obtain ⟨fuel, rfl⟩ := Nat.exists_eq_succ_of_ne_zero (show fuel ≠ 0 by omega)
    exact ih m hm fuel (by omega) (by omega)

/-- A text of a value is read as that value. -/
theorem parse_complete {v : JsonValue} (h : Writes v text) : parse text = some v := by
  have hread := h.reads (Nat.lt_succ_self _) [] (by rintro _ ⟨⟩)
  rw [List.append_nil] at hread
  rw [parse, hread]
  rfl

/-! ### Values without white space -/

/-- A text without quotes, backslashes and control characters stands for itself. -/
theorem quotes_self (h : text.all fun c => c != '"' && c != '\\' && decide (0x20 ≤ c.toNat)) : Quotes text text := by
  induction text with
  | nil => exact .nil
  | cons c text ih =>
    rw [List.all_cons, Bool.and_eq_true, Bool.and_eq_true, Bool.and_eq_true, bne_iff_ne, bne_iff_ne, decide_eq_true_eq] at h
    exact .literal h.1.1.1 h.1.1.2 h.1.2 (ih h.2)

theorem intercalate_cons (first : List Char) (texts : List (List Char)) :
    [','].intercalate (first :: texts) = first ++ texts.flatMap fun text => ',' :: text := by
  induction texts generalizing first with
  | nil => rw [List.intercalate_singleton, List.flatMap_nil, List.append_nil]
  | cons text texts ih =>
    rw [List.intercalate_cons_cons, ih, List.flatMap_cons, List.append_assoc]
    rfl

theorem writes_array {items : List (JsonValue × List Char)} (h : ∀ i ∈ items, Writes i.1 i.2) :
    Writes (.array (items.map (·.1))) ('[' :: [','].intercalate (items.map (·.2)) ++ [']']) := by
  by_cases hne : items = []
  · rw [hne]
    exact @Writes.emptyArray [] rfl
  · refine .array (fun hnil => hne (List.map_eq_nil_iff.mp hnil)) (by rw [List.length_map, List.length_map]) ?_
    rw [List.zip_map']
    exact List.forall_mem_map.mpr h

/-- A member whose key stands for itself. -/
def memberText (field : List Char × JsonValue × List Char) : List Char := '"' :: field.1 ++ '"' :: ':' :: field.2.2

theorem writes_object {fields : List (List Char × JsonValue × List Char)} (hne : fields ≠ [])
    (hkeys : ∀ f ∈ fields, Quotes f.1 f.1) (h : ∀ f ∈ fields, Writes f.2.1 f.2.2) :
    Writes (.object (fields.map fun f => (f.1, f.2.1))) ('\x7b' :: [','].intercalate (fields.map memberText) ++ ['\x7d']) := by
  have htexts : fields.map memberText =
      (fields.map fun f => ('"' :: f.1 ++ ['"'], f.2.2)).map fun t => t.1 ++ ':' :: t.2 := by
    rw [List.map_map]
    refine List.map_congr_left fun f _ => ?_
    simp [memberText]
  rw [htexts]
  refine .object (fun hnil => hne (List.map_eq_nil_iff.mp hnil)) (by rw [List.length_map, List.length_map]) ?_ ?_
  · rw [List.zip_map']
    refine List.forall_mem_map.mpr fun f hf => ?_
    exact ⟨[], f.1, [], rfl, rfl, hkeys f hf, by simp⟩
  · rw [List.zip_map']
    exact List.forall_mem_map.mpr h

/-! ### Decimal numbers -/

theorem head_toDigits {n : Nat} (hn : n ≠ 0) : ∃ c rest, Nat.toDigits 10 n = c :: rest ∧ c ≠ '0' := by
  induction n using Nat.strongRecOn with
  | _ n ih =>
    by_cases hlt : n < 10
    · have hdigit : ∀ n < 10, n ≠ 0 → n.digitChar ≠ '0' := by decide
      exact ⟨_, [], Nat.toDigits_of_lt_base hlt, hdigit n hlt hn⟩
    · obtain ⟨c, rest, heq, hc⟩ := ih (n / 10) (by omega) (by omega)
      refine ⟨c, rest ++ [(n % 10).digitChar], ?_, hc⟩
      rw [Nat.toDigits_of_base_le (by decide) (Nat.not_lt.mp hlt), heq, List.cons_append]

theorem isNumber_digits {digits : List Char} (hdigits : ∀ d ∈ c :: digits, d.isDigit) (hc : c ≠ '0') :
    isNumber (c :: digits) := by
  have hall : (c :: digits).all isNumberChar = true :=
    List.all_eq_true.mpr fun d hd => Bool.or_eq_true_iff.mpr (.inl (hdigits d hd))
  have hsign : dropSign (· == '-') (c :: digits) = c :: digits := by
    refine if_neg fun hminus => ?_
    have hdigit := hdigits c (List.mem_cons_self ..)
    rw [beq_iff_eq.mp hminus] at hdigit
    cases hdigit
  have hinteger : dropInteger (c :: digits) = some [] := by
    have htake : ((c :: digits).takeWhile (·.isDigit)).isEmpty = false := by
      rw [List.takeWhile_cons_of_pos (hdigits c (List.mem_cons_self ..))]
      rfl
    have hdrop : (c :: digits).dropWhile (·.isDigit) = [] := by
      have happend := @List.dropWhile_append_of_pos _ (·.isDigit) (c :: digits) [] hdigits
      rwa [List.append_nil] at happend
    have hdigit : dropInteger (c :: digits) = dropDigits (c :: digits) := by
      rw [dropInteger.eq_def]
      split
      · rename_i heq
        exact absurd (List.cons.inj heq).1 hc
      · rfl
    rw [hdigit, dropDigits, htake, hdrop, if_neg Bool.false_ne_true]
  rw [isNumber, hall, hsign, hinteger]
  rfl

theorem isNumber_toDigits (n : Nat) : isNumber (Nat.toDigits 10 n) := by
  by_cases hn : n = 0
  · rw [hn, Nat.toDigits_zero]
    rfl
  · obtain ⟨c, rest, heq, hc⟩ := head_toDigits hn
    rw [heq]
    exact isNumber_digits (heq ▸ fun d hd => Nat.isDigit_of_mem_toDigits (by decide) (by decide) hd) hc

end JsonValue
