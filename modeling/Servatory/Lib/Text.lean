import Mathlib.Data.List.DropRight

/-! Text as other programs write it: words between white space, lines, and decimal numbers. -/

namespace Text

/-- The white space of Unicode. -/
def isWhitespace (c : Char) : Bool :=
  let n := c.toNat
  (0x9 ≤ n && n ≤ 0xd) || n == 0x20 || n == 0x85 || n == 0xa0 || n == 0x1680 || (0x2000 ≤ n && n ≤ 0x200a) ||
    n == 0x2028 || n == 0x2029 || n == 0x202f || n == 0x205f || n == 0x3000

def words (text : List Char) : List (List Char) := (text.splitOnP isWhitespace).filter (!·.isEmpty)

def trim (text : List Char) : List Char := (text.dropWhile isWhitespace).rdropWhile isWhitespace

/-- A carriage return before the end of a line belongs to the end. -/
def stripReturn (line : List Char) : List Char := if line.getLast? = some '\r' then line.dropLast else line

/-- The lines of a text. Behind the last end of a line there is a line only when there is text. -/
def lines (text : List Char) : List (List Char) :=
  let pieces := text.splitOn '\n'
  pieces.dropLast.map stripReturn ++ pieces.getLast?.toList.filter (!·.isEmpty)

/-- What precedes the first occurrence of a character, and what follows it. -/
def splitOnce (separator : Char) (text : List Char) : Option (List Char × List Char) :=
  if separator ∈ text then some (text.takeWhile (· != separator), (text.dropWhile (· != separator)).tail) else none

/-- What precedes the first occurrence of `needle` in a text, and what follows it. -/
def splitAtFirst (needle : List Char) : List Char → Option (List Char × List Char)
  | [] => if needle.isEmpty then some ([], []) else none
  | c :: rest =>
    if needle.isPrefixOf (c :: rest) then some ([], (c :: rest).drop needle.length)
    else (splitAtFirst needle rest).map fun parts => (c :: parts.1, parts.2)

/-- A number below a bound, with a sign or without. -/
def parseUnsigned (bound : Nat) (text : List Char) : Option Nat :=
  let digits := if text.head? = some '+' then text.tail else text
  if digits.isEmpty || !digits.all (·.isDigit) then none
  else if Nat.ofDigitChars 10 digits 0 < bound then some (Nat.ofDigitChars 10 digits 0) else none

theorem splitOnce_append {separator : Char} {before : List Char} (h : separator ∉ before) (rest : List Char) :
    splitOnce separator (before ++ separator :: rest) = some (before, rest) := by
  have hall : ∀ c ∈ before, (c != separator) = true := fun c hc => bne_iff_ne.mpr fun heq => h (heq ▸ hc)
  rw [splitOnce, if_pos (List.mem_append_right _ (List.mem_cons_self ..)), List.takeWhile_append_of_pos hall,
    List.dropWhile_append_of_pos hall, List.takeWhile_cons_of_neg (by simp), List.dropWhile_cons_of_neg (by simp),
    List.append_nil, List.tail_cons]

theorem splitAtFirst_eq_some {needle text before after : List Char} (h : splitAtFirst needle text = some (before, after)) :
    text = before ++ needle ++ after := by
  induction text generalizing before with
  | nil =>
    rw [splitAtFirst] at h
    split at h
    · rename_i hempty
      cases h
      rw [List.isEmpty_iff.mp hempty]
      rfl
    · cases h
  | cons c rest ih =>
    rw [splitAtFirst] at h
    split at h
    · rename_i hstart
      cases h
      obtain ⟨more, hmore⟩ := List.isPrefixOf_iff_prefix.mp hstart
      rw [← hmore, List.drop_left, List.nil_append]
    · obtain ⟨⟨before, after⟩, hrest, heq⟩ := Option.map_eq_some_iff.mp h
      cases heq
      rw [ih hrest]
      rfl

/-- What follows does not change where the needle first occurs. -/
theorem splitAtFirst_append {needle text before after : List Char} (h : splitAtFirst needle text = some (before, after))
    (more : List Char) : splitAtFirst needle (text ++ more) = some (before, after ++ more) := by
  induction text generalizing before with
  | nil =>
    rw [splitAtFirst] at h
    split at h
    · rename_i hempty
      cases h
      obtain rfl := List.isEmpty_iff.mp hempty
      cases more <;> rfl
    · cases h
  | cons c rest ih =>
    have hlength : needle.length ≤ (c :: rest).length := by
      rw [splitAtFirst_eq_some h, List.length_append, List.length_append]
      omega
    rw [splitAtFirst] at h
    rw [List.cons_append, splitAtFirst]
    split at h
    · rename_i hstart
      cases h
      have hstart' := List.isPrefixOf_iff_prefix.mp hstart
      have hmore : needle <+: c :: (rest ++ more) := hstart'.trans (List.prefix_append (c :: rest) more)
      rw [if_pos (List.isPrefixOf_iff_prefix.mpr hmore), ← List.cons_append, List.drop_append_of_le_length hlength]
    · rename_i hstart
      obtain ⟨⟨before, after⟩, hrest, heq⟩ := Option.map_eq_some_iff.mp h
      cases heq
      rw [if_neg, ih hrest, Option.map_some]
      intro hbegins
      refine hstart (List.isPrefixOf_iff_prefix.mpr ?_)
      exact List.prefix_of_prefix_length_le (List.isPrefixOf_iff_prefix.mp hbegins)
        (List.prefix_append (c :: rest) more) hlength

/-! ### Words -/

/-- Some text without white space. -/
structure IsWord (word : List Char) : Prop where
  ne_nil : word ≠ []
  plain : ∀ c ∈ word, isWhitespace c = false

variable {word rest : List Char}

theorem IsWord.of_all (hne : word ≠ []) (h : word.all (!isWhitespace ·) = true) : IsWord word :=
  ⟨hne, fun c hc => Bool.not_eq_true' _ ▸ List.all_eq_true.mp h c hc⟩

theorem plain_of_mem_splitOnP {text piece : List Char} (h : piece ∈ text.splitOnP isWhitespace) :
    ∀ c ∈ piece, isWhitespace c = false := by
  induction text generalizing piece with
  | nil =>
    rw [List.splitOnP_nil, List.mem_singleton] at h
    rw [h]
    exact fun _ => nofun
  | cons c text ih =>
    obtain ⟨first, pieces, hpieces⟩ := List.exists_cons_of_ne_nil (List.splitOnP_ne_nil isWhitespace text)
    rw [List.splitOnP_cons_eq_if_modifyHead] at h
    split at h
    · rcases List.mem_cons.mp h with rfl | h
      · exact fun _ => nofun
      · exact ih h
    · rename_i hplain
      rw [hpieces, List.modifyHead_cons] at h
      rcases List.mem_cons.mp h with rfl | h
      · exact List.forall_mem_cons.mpr ⟨Bool.not_eq_true _ |>.mp hplain, ih (hpieces ▸ List.mem_cons_self ..)⟩
      · exact ih (hpieces ▸ List.mem_cons_of_mem _ h)

theorem isWord_of_mem_words {text : List Char} (h : word ∈ words text) : IsWord word := by
  obtain ⟨hmem, hne⟩ := List.mem_filter.mp h
  refine ⟨?_, plain_of_mem_splitOnP hmem⟩
  rintro rfl
  cases hne

theorem words_word (h : IsWord word) : words word = [word] := by
  rw [words, List.splitOnP_eq_singleton h.plain]
  simp [h.ne_nil]

theorem words_append {separator : Char} (hseparator : isWhitespace separator = true) (h : IsWord word) :
    words (word ++ separator :: rest) = word :: words rest := by
  rw [words, List.splitOnP_append_cons_of_forall_mem h.plain separator hseparator,
    List.filter_cons_of_pos (by simp [h.ne_nil])]
  rfl

theorem words_append_space (h : IsWord word) : words (word ++ ' ' :: rest) = word :: words rest := words_append rfl h

theorem words_space : words (' ' :: rest) = words rest := by
  have h := @List.splitOnP_append_cons _ isWhitespace [] rest ' ' rfl
  rw [List.nil_append] at h
  rw [words, h, List.splitOnP_nil, List.singleton_append, List.filter_cons_of_neg (by simp)]
  rfl

theorem words_replicate (n : Nat) : words (List.replicate n ' ' ++ rest) = words rest := by
  induction n with
  | zero => rfl
  | succ n ih => rw [List.replicate_succ, List.cons_append, words_space, ih]

/-- Words, each behind one space and some more. -/
def spaced (fields : List (Nat × List Char)) : List Char := fields.flatMap fun f => List.replicate (f.1 + 1) ' ' ++ f.2

theorem words_spaced {fields : List (Nat × List Char)} (hword : IsWord word) (hfields : ∀ f ∈ fields, IsWord f.2) :
    words (word ++ spaced fields) = word :: fields.map (·.2) := by
  induction fields generalizing word with
  | nil => rw [spaced, List.flatMap_nil, List.append_nil, words_word hword, List.map_nil]
  | cons f fields ih =>
    rw [List.forall_mem_cons] at hfields
    have hsplit : word ++ spaced (f :: fields) =
        word ++ ' ' :: (List.replicate f.1 ' ' ++ (f.2 ++ spaced fields)) := by
      simp [spaced, List.replicate_succ]
    rw [hsplit, words_append_space hword, words_replicate, ih hfields.1 hfields.2, List.map_cons]

/-- Words, each behind a white space, and spaces behind the last. -/
theorem words_separated {separator : Char} (hseparator : isWhitespace separator = true) {fields : List (List Char)}
    (hword : IsWord word) (hfields : ∀ f ∈ fields, IsWord f) (n : Nat) :
    words (word ++ fields.flatMap (separator :: ·) ++ List.replicate n ' ') = word :: fields := by
  induction fields generalizing word with
  | nil =>
    rw [List.flatMap_nil, List.append_nil]
    cases n with
    | zero => rw [List.replicate_zero, List.append_nil, words_word hword]
    | succ n =>
      have hspaces := @words_replicate [] n
      rw [List.append_nil] at hspaces
      rw [List.replicate_succ, words_append_space hword, hspaces]
      rfl
  | cons f fields ih =>
    rw [List.forall_mem_cons] at hfields
    rw [List.flatMap_cons, List.cons_append, List.append_assoc, List.cons_append, words_append hseparator hword,
      ih hfields.1 hfields.2]

/-- Spaces are the only white space between the words. -/
theorem not_mem_spaced {fields : List (Nat × List Char)} {c : Char} (hword : IsWord word)
    (hfields : ∀ f ∈ fields, IsWord f.2) (hspace : c ≠ ' ') (hwhite : isWhitespace c = true) :
    c ∉ word ++ spaced fields := by
  have hplain : ∀ {w : List Char}, IsWord w → c ∉ w := fun h hc => Bool.false_ne_true ((h.plain c hc).symm.trans hwhite)
  intro hc
  rcases List.mem_append.mp hc with hc | hc
  · exact hplain hword hc
  · obtain ⟨f, hf, hc⟩ := List.mem_flatMap.mp hc
    rcases List.mem_append.mp hc with hc | hc
    · exact hspace (List.eq_of_mem_replicate hc)
    · exact hplain (hfields f hf) hc

/-! ### Lines -/

variable {line : List Char}

theorem stripReturn_eq (h : '\r' ∉ line) : stripReturn line = line :=
  if_neg fun hlast => h (List.mem_of_getLast? hlast)

theorem lines_append (text : List Char) :
    lines (text ++ '\n' :: rest) = (text.splitOn '\n').map stripReturn ++ lines rest := by
  have hsplit : (text ++ '\n' :: rest).splitOn '\n' = text.splitOn '\n' ++ rest.splitOn '\n' :=
    List.splitOnP_append_cons text rest (by rfl)
  have hne := List.splitOn_ne_nil '\n' rest
  rw [lines, lines, hsplit, List.dropLast_append_of_ne_nil hne, List.map_append, List.append_assoc,
    List.getLast?_append_of_ne_nil _ hne]

/-- The first line of a text. -/
theorem lines_cons (h : '\n' ∉ line) : lines (line ++ '\n' :: rest) = stripReturn line :: lines rest := by
  have hsplit : line.splitOn '\n' = [line] := by
    refine List.splitOnP_eq_singleton fun c hc => ?_
    rw [beq_eq_false_iff_ne]
    rintro rfl
    exact h hc
  rw [lines_append, hsplit]
  rfl

theorem lines_nil : lines [] = [] := rfl

/-- The last line of a text that ends with it. -/
theorem getLast?_lines (text : List Char) (h : '\n' ∉ line) :
    (lines (text ++ '\n' :: (line ++ ['\n']))).getLast? = some (stripReturn line) := by
  rw [lines_append, lines_cons h, lines_nil, List.getLast?_append_of_ne_nil _ (List.cons_ne_nil _ _)]
  rfl

/-! ### Numbers -/

theorem isWhitespace_of_isDigit {c : Char} (h : c.isDigit) : isWhitespace c = false := by
  obtain ⟨hlow, hhigh⟩ := Char.isDigit_iff_toNat.mp h
  have h0 : '0'.toNat = 48 := rfl
  have h9 : '9'.toNat = 57 := rfl
  rw [isWhitespace]
  simp only [Bool.or_eq_false_iff, Bool.and_eq_false_iff, decide_eq_false_iff_not, beq_eq_false_iff_ne]
  omega

theorem isWord_toDigits (n : Nat) : IsWord (Nat.toDigits 10 n) :=
  ⟨Nat.toDigits_ne_nil, fun _ hc => isWhitespace_of_isDigit (Nat.isDigit_of_mem_toDigits (by decide) (by decide) hc)⟩

theorem parseUnsigned_lt {bound n : Nat} {text : List Char} (h : parseUnsigned bound text = some n) : n < bound := by
  obtain ⟨-, h⟩ := Option.ite_none_left_eq_some.mp h
  obtain ⟨hlt, heq⟩ := Option.ite_none_right_eq_some.mp h
  exact Option.some.inj heq ▸ hlt

theorem parseUnsigned_digits {bound : Nat} {digits : List Char} (hne : digits ≠ []) (hdigits : ∀ c ∈ digits, c.isDigit) :
    parseUnsigned bound digits =
      if Nat.ofDigitChars 10 digits 0 < bound then some (Nat.ofDigitChars 10 digits 0) else none := by
  have hsign : digits.head? ≠ some '+' := by
    intro hplus
    have hdigit := hdigits '+' (List.mem_of_mem_head? hplus)
    cases hdigit
  have hall : (digits.isEmpty || !digits.all (·.isDigit)) = false := by
    rw [Bool.or_eq_false_iff, List.isEmpty_eq_false_iff, Bool.not_eq_false', List.all_eq_true]
    exact ⟨hne, hdigits⟩
  rw [parseUnsigned, if_neg hsign, hall, if_neg Bool.false_ne_true]

/-- A number is read back when it is below the bound. -/
theorem parseUnsigned_toDigits (bound n : Nat) :
    parseUnsigned bound (Nat.toDigits 10 n) = if n < bound then some n else none := by
  rw [parseUnsigned_digits Nat.toDigits_ne_nil fun c hc => Nat.isDigit_of_mem_toDigits (by decide) (by decide) hc,
    Nat.ofDigitChars_ten_toDigits]

end Text
