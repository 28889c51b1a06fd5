import Mathlib.Data.List.Basic

/-! Markup as a reader of HTML sees it: tags, and between them characters, once their references are decoded. A tag is
    kept as it is written, with its attributes; a doctype counts as a tag. Comments and the raw text of scripts are
    not told apart. -/

namespace Html

inductive Item
  | tag (source : List Char)
  | char (c : Char)
  deriving DecidableEq, Repr

def Item.tag? : Item → Option (List Char)
  | tag source => some source
  | char _ => none

/-- Where a reader is within a tag. -/
inductive Place
  | inside
  | value
  | unquoted
  | single
  | double
  deriving DecidableEq, Repr

inductive Mode
  | data
  | reference
  | tag (place : Place)
  deriving DecidableEq, Repr

/-- A reader, with what it has read of a reference or a tag. -/
inductive Reader
  | data
  | reference (name : List Char)
  | tag (place : Place) (source : List Char)
  deriving DecidableEq, Repr

def Reader.mode : Reader → Mode
  | data => .data
  | reference _ => .reference
  | tag place _ => .tag place

/-- The place behind a character, unless it closes the tag. -/
def Place.next : Place → Char → Option Place
  | inside, c => if c = '>' then none else if c = '=' then some value else some inside
  | value, c =>
    if c = '>' then none
    else if c = '\'' then some single
    else if c = '"' then some double
    else if c.isWhitespace then some value
    else some unquoted
  | unquoted, c => if c = '>' then none else if c.isWhitespace then some inside else some unquoted
  | single, c => if c = '\'' then some inside else some single
  | double, c => if c = '"' then some inside else some double

def isNameChar (c : Char) : Bool := c.isAlphanum || c == '#'

/-- What a reference stands for; one that is not known stands for itself. -/
def decode : List Char → List Char
  | ['a', 'm', 'p'] => ['&']
  | ['l', 't'] => ['<']
  | ['g', 't'] => ['>']
  | ['q', 'u', 'o', 't'] => ['"']
  | name => '&' :: name ++ [';']

def Mode.nextData (c : Char) : Mode := if c = '<' then .tag .inside else if c = '&' then .reference else .data

def Mode.next : Mode → Char → Mode
  | data, c => nextData c
  | reference, c => if c = ';' then data else if isNameChar c then reference else nextData c
  | tag place, c =>
    match place.next c with
    | some place => tag place
    | none => data

namespace Reader

def stepData (c : Char) : Reader × List Item :=
  if c = '<' then (tag .inside [], []) else if c = '&' then (reference [], []) else (data, [.char c])

def step : Reader → Char → Reader × List Item
  | data, c => stepData c
  | reference name, c =>
    if c = ';' then (data, (decode name).map .char)
    else if isNameChar c then (reference (name ++ [c]), [])
    else ((stepData c).1, ('&' :: name).map .char ++ (stepData c).2)
  | tag place source, c =>
    match place.next c with
    | some place => (tag place (source ++ [c]), [])
    | none => (data, [.tag source])

def run : Reader → List Char → Reader × List Item
  | r, [] => (r, [])
  | r, c :: cs => ((run (r.step c).1 cs).1, (r.step c).2 ++ (run (r.step c).1 cs).2)

/-- What stands for itself at the end of the input; an open tag is dropped. -/
def rest : Reader → List Item
  | data => []
  | reference name => ('&' :: name).map .char
  | tag _ _ => []

theorem eq_data {r : Reader} (h : r.mode = .data) : r = .data := by
  cases r with
  | data => rfl
  | _ => cases h

theorem run_append (r : Reader) (cs ds : List Char) :
    r.run (cs ++ ds) = (((r.run cs).1.run ds).1, (r.run cs).2 ++ ((r.run cs).1.run ds).2) := by
  induction cs generalizing r with
  | nil => rfl
  | cons c cs ih => rw [List.cons_append, run, ih, run, List.append_assoc]

theorem mode_stepData (c : Char) : (stepData c).1.mode = Mode.nextData c := by
  unfold stepData Mode.nextData
  split
  · rfl
  · split <;> rfl

theorem mode_step (r : Reader) (c : Char) : (r.step c).1.mode = r.mode.next c := by
  cases r with
  | data => exact mode_stepData c
  | reference name =>
    show (step (reference name) c).1.mode = Mode.next .reference c
    simp only [step, Mode.next]
    split
    · rfl
    · split
      · rfl
      · exact mode_stepData c
  | tag place source =>
    show (step (tag place source) c).1.mode = Mode.next (.tag place) c
    simp only [step, Mode.next]
    split <;> rfl

/-- The mode of a reader depends on the characters alone. -/
theorem mode_run (r : Reader) (cs : List Char) : (r.run cs).1.mode = cs.foldl Mode.next r.mode := by
  induction cs generalizing r with
  | nil => rfl
  | cons c cs ih => rw [run, ih, mode_step, List.foldl_cons]

end Reader

/-- The tags and characters of a markup. -/
def tokenize (cs : List Char) : List Item := (Reader.data.run cs).2 ++ (Reader.data.run cs).1.rest

def tags (items : List Item) : List (List Char) := items.filterMap Item.tag?

/-! ### Writing markup -/

/-- Something that is written: markup as it stands, a number, or a text that is escaped. -/
inductive Write
  | markup (s : String)
  | number (n : Int)
  | text (s : String)
  deriving DecidableEq, Repr

/-- The same without the text. -/
def Write.blank : Write → Write
  | text _ => text ""
  | w => w

def Write.text? : Write → Option String
  | text s => some s
  | _ => none

def Write.chars (escape : Char → String) : Write → List Char
  | markup s => s.toList
  | number n => (toString n).toList
  | text s => s.toList.flatMap fun c => (escape c).toList

/-- The mode behind a number, where a number is read as it stands. -/
def Mode.number : Mode → Option Mode
  | data => some data
  | tag .value => some (tag .unquoted)
  | tag .unquoted => some (tag .unquoted)
  | tag .single => some (tag .single)
  | tag .double => some (tag .double)
  | _ => none

/-- A string leads from one mode to another. -/
def Leads (m : Mode) (s : String) (m' : Mode) : Prop := s.toList.foldl Mode.next m = m'

/-- A literal is looked at as its characters. -/
theorem leads {m m' : Mode} {l : List Char} (h : l.foldl Mode.next m = m') : Leads m (String.ofList l) m' := by
  rw [Leads, String.toList_ofList]
  exact h

theorem Leads.append {m m' m'' : Mode} {s t : String} (h : Leads m s m') (h' : Leads m' t m'') :
    Leads m (s ++ t) m'' := by
  rw [Leads, String.toList_append, List.foldl_append, h]
  exact h'

theorem Leads.ite {p : Prop} [Decidable p] {m m' : Mode} {s t : String} (h : Leads m s m') (h' : Leads m t m') :
    Leads m (if p then s else t) m' := by
  split
  · exact h
  · exact h'

/-- The writes lead from one mode to another, and every text stands between tags. -/
inductive Parses : Mode → List Write → Mode → Prop
  | nil {m : Mode} : Parses m [] m
  | markup {m m'' : Mode} {s : String} {ws : List Write} (m' : Mode) (h : Leads m s m') (rest : Parses m' ws m'') :
      Parses m (.markup s :: ws) m''
  | number {m m' m'' : Mode} {n : Int} {ws : List Write} (h : m.number = some m') (rest : Parses m' ws m'') :
      Parses m (.number n :: ws) m''
  | text {m : Mode} {s : String} {ws : List Write} (rest : Parses .data ws m) : Parses .data (.text s :: ws) m

theorem Parses.append {m m' m'' : Mode} {ws ws' : List Write} (h : Parses m ws m') (h' : Parses m' ws' m'') :
    Parses m (ws ++ ws') m'' := by
  induction h with
  | nil => exact h'
  | markup m' hs _ ih => exact .markup m' hs (ih h')
  | number hn _ ih => exact .number hn (ih h')
  | text _ ih => exact .text (ih h')

/-- The writes are whole tags, and what stands between them. -/
abbrev Closed (ws : List Write) : Prop := Parses .data ws .data

theorem Closed.append {ws ws' : List Write} (h : Closed ws) (h' : Closed ws') : Closed (ws ++ ws') := Parses.append h h'

theorem Closed.ite {p : Prop} [Decidable p] {ws ws' : List Write} (h : Closed ws) (h' : Closed ws') :
    Closed (if p then ws else ws') := by
  split
  · exact h
  · exact h'

theorem Closed.elim {α : Type} {ws : List Write} {f : α → List Write} (h : Closed ws) (hf : ∀ a, Closed (f a))
    (o : Option α) : Closed (o.elim ws f) := by
  cases o with
  | none => exact h
  | some a => exact hf a

theorem Closed.flatMap {α : Type} {f : α → List Write} {l : List α} (h : ∀ a ∈ l, Closed (f a)) :
    Closed (l.flatMap f) := by
  induction l with
  | nil => exact .nil
  | cons a l ih =>
    rw [List.flatMap_cons]
    exact (h a (List.mem_cons_self ..)).append (ih fun b hb => h b (List.mem_cons_of_mem _ hb))

/-! ### What is read of a number -/

theorem plain_of_mem_toString {n : Int} {c : Char} (h : c ∈ (toString n).toList) : c.isDigit ∨ c = '-' := by
  have hrepr : ∀ k : Nat, c ∈ k.repr.toList → c.isDigit := by
    intro k hk
    rw [Nat.toList_repr] at hk
    exact Nat.isDigit_of_mem_toDigits (by decide) (by decide) hk
  rw [Int.toString_eq_repr] at h
  cases n with
  | ofNat k => exact .inl (hrepr k h)
  | negSucc k =>
    rw [Int.repr, String.toList_append] at h
    rcases List.mem_append.mp h with hminus | hk
    · exact .inr (List.mem_singleton.mp hminus)
    · exact .inl (hrepr _ hk)

theorem toList_toString_ne_nil (n : Int) : (toString n).toList ≠ [] := by
  rw [Int.toString_eq_repr]
  cases n with
  | ofNat k =>
    intro h
    exact Nat.repr_ne_empty (String.toList_eq_nil_iff.mp h)
  | negSucc k =>
    rw [Int.repr, String.toList_append]
    exact List.append_ne_nil_of_left_ne_nil (List.cons_ne_nil '-' []) _

/-- The characters of a number are none that a reader takes for markup. -/
theorem next_plain {m m' : Mode} {c : Char} (h : m.number = some m') (hc : c.isDigit ∨ c = '-') : m.next c = m' := by
  have hne : ∀ d : Char, d.isDigit = false → d ≠ '-' → c ≠ d := by
    rintro d hdigit hminus rfl
    rcases hc with hc | hc
    · rw [hdigit] at hc
      cases hc
    · exact hminus hc
  have hlt := hne '<' rfl (by decide)
  have hamp := hne '&' rfl (by decide)
  have hgt := hne '>' rfl (by decide)
  have hsingle := hne '\'' rfl (by decide)
  have hdouble := hne '"' rfl (by decide)
  have hspace : c.isWhitespace = false := by
    simp only [Char.isWhitespace, Bool.or_eq_false_iff, decide_eq_false_iff_not]
    exact ⟨⟨⟨hne ' ' rfl (by decide), hne '\t' rfl (by decide)⟩, hne '\r' rfl (by decide)⟩, hne '\n' rfl (by decide)⟩
  cases m with
  | data =>
    cases h
    rw [Mode.next, Mode.nextData, if_neg hlt, if_neg hamp]
  | reference => cases h
  | tag place =>
    cases place with
    | inside => cases h
    | value =>
      cases h
      simp only [Mode.next, Place.next, if_neg hgt, if_neg hsingle, if_neg hdouble, hspace, Bool.false_eq_true, if_false]
    | unquoted =>
      cases h
      simp only [Mode.next, Place.next, if_neg hgt, hspace, Bool.false_eq_true, if_false]
    | single =>
      cases h
      simp only [Mode.next, Place.next, if_neg hsingle]
    | double =>
      cases h
      simp only [Mode.next, Place.next, if_neg hdouble]

theorem number_number {m m' : Mode} (h : m.number = some m') : m'.number = some m' := by
  cases m with
  | data =>
    cases h
    rfl
  | reference => cases h
  | tag place =>
    cases place with
    | inside => cases h
    | _ =>
      cases h
      rfl

theorem leads_number {m m' : Mode} (h : m.number = some m') (n : Int) : Leads m (toString n) m' := by
  have hstay : ∀ cs : List Char, (∀ c ∈ cs, c.isDigit ∨ c = '-') → cs.foldl Mode.next m' = m' := by
    intro cs hcs
    induction cs with
    | nil => rfl
    | cons c cs ih =>
      rw [List.foldl_cons, next_plain (number_number h) (hcs c (List.mem_cons_self ..))]
      exact ih fun d hd => hcs d (List.mem_cons_of_mem _ hd)
  have hplain : ∀ c ∈ (toString n).toList, c.isDigit ∨ c = '-' := fun c => plain_of_mem_toString
  obtain ⟨c, cs, hcs⟩ := List.exists_cons_of_ne_nil (toList_toString_ne_nil n)
  rw [hcs] at hplain
  rw [Leads, hcs, List.foldl_cons, next_plain h (hplain c (List.mem_cons_self ..))]
  exact hstay cs fun d hd => hplain d (List.mem_cons_of_mem _ hd)

/-! ### What is read back -/

/-- The blanks with the texts between them. -/
def fill {α : Type} : List (List α) → List (List α) → List α
  | blank :: blanks, text :: texts => blank ++ text ++ fill blanks texts
  | blanks, [] => blanks.flatten
  | [], _ :: _ => []

/-- Something put in front of the first blank. -/
def extend {α : Type} (start : List α) : List (List α) → List (List α)
  | [] => [start]
  | blank :: blanks => (start ++ blank) :: blanks

theorem fill_extend {α : Type} {start : List α} {blanks texts : List (List α)} (h : blanks ≠ []) :
    fill (extend start blanks) texts = start ++ fill blanks texts := by
  cases blanks with
  | nil => exact absurd rfl h
  | cons blank blanks =>
    cases texts with
    | nil => rw [extend, fill, fill, List.flatten_cons, List.flatten_cons, List.append_assoc]
    | cons text texts => rw [extend, fill, fill, List.append_assoc, List.append_assoc, List.append_assoc]

/-- What is read between the texts. -/
def blanks : Reader → List Write → List (List Item)
  | r, [] => [r.rest]
  | r, .markup s :: ws => extend (r.run s.toList).2 (blanks (r.run s.toList).1 ws)
  | r, .number n :: ws => extend (r.run (toString n).toList).2 (blanks (r.run (toString n).toList).1 ws)
  | _, .text _ :: ws => [] :: blanks .data ws

/-- The texts play no part in what is read between them. -/
theorem blanks_blank (r : Reader) (ws : List Write) : blanks r (ws.map Write.blank) = blanks r ws := by
  induction ws generalizing r with
  | nil => rfl
  | cons w ws ih =>
    cases w with
    | markup s => exact congrArg (extend (r.run s.toList).2) (ih _)
    | number n => exact congrArg (extend (r.run (toString n).toList).2) (ih _)
    | text s => exact congrArg (List.cons []) (ih .data)

theorem blanks_ne_nil (r : Reader) (ws : List Write) : blanks r ws ≠ [] := by
  have hextend : ∀ (start : List Item) (blanks : List (List Item)), extend start blanks ≠ [] := by
    intro start blanks
    cases blanks <;> exact List.cons_ne_nil _ _
  cases ws with
  | nil => exact List.cons_ne_nil _ _
  | cons w ws =>
    cases w with
    | text s => exact List.cons_ne_nil _ _
    | _ => exact hextend _ _

theorem length_extend {α : Type} {start : List α} {blanks : List (List α)} (h : blanks ≠ []) :
    (extend start blanks).length = blanks.length := by
  cases blanks with
  | nil => exact absurd rfl h
  | cons blank blanks => rfl

theorem length_blanks (r : Reader) (ws : List Write) : (blanks r ws).length = (ws.filterMap Write.text?).length + 1 := by
  induction ws generalizing r with
  | nil => rfl
  | cons w ws ih =>
    cases w with
    | markup s => exact (length_extend (blanks_ne_nil _ _)).trans (ih _)
    | number n => exact (length_extend (blanks_ne_nil _ _)).trans (ih _)
    | text s => exact congrArg (· + 1) (ih .data)

/-- An escaped text is read as its characters. -/
def Escapes (escape : Char → String) : Prop := ∀ c, Reader.data.run (escape c).toList = (.data, [.char c])

theorem run_escape {escape : Char → String} (h : Escapes escape) (s : List Char) :
    Reader.data.run (s.flatMap fun c => (escape c).toList) = (.data, s.map .char) := by
  induction s with
  | nil => rfl
  | cons c s ih => rw [List.flatMap_cons, Reader.run_append, h c, ih, List.map_cons, List.singleton_append]

/-- What is written is read back: between the blanks the characters of the texts, and no text plays a part in the
    blanks. -/
theorem tokenize_writes {escape : Char → String} (hescape : Escapes escape) {m : Mode} {ws : List Write}
    (h : Parses .data ws m) :
    tokenize (ws.flatMap (Write.chars escape)) =
      fill (blanks .data ws) ((ws.filterMap Write.text?).map fun text => text.toList.map .char) := by
  suffices hgen : ∀ {m : Mode} {ws : List Write} {m' : Mode}, Parses m ws m' → ∀ r : Reader, r.mode = m →
      (r.run (ws.flatMap (Write.chars escape))).2 ++ (r.run (ws.flatMap (Write.chars escape))).1.rest =
        fill (blanks r ws) ((ws.filterMap Write.text?).map fun text => text.toList.map .char) from hgen h .data rfl
  intro m ws m' h
  induction h with
  | nil =>
    intro r _
    exact (List.append_nil _).symm
  | @markup m m'' s ws m' hs rest ih =>
    intro r hr
    have hmode : (r.run s.toList).1.mode = m' := by
      rw [Reader.mode_run, hr]
      exact hs
    have hread := ih _ hmode
    rw [List.flatMap_cons, Write.chars, Reader.run_append, List.append_assoc, hread, blanks,
      ← fill_extend (blanks_ne_nil _ _)]
    rfl
  | @number m m' m'' n ws hn rest ih =>
    intro r hr
    have hmode : (r.run (toString n).toList).1.mode = m' := by
      rw [Reader.mode_run, hr]
      exact leads_number hn n
    have hread := ih _ hmode
    rw [List.flatMap_cons, Write.chars, Reader.run_append, List.append_assoc, hread, blanks,
      ← fill_extend (blanks_ne_nil _ _)]
    rfl
  | @text m s ws rest ih =>
    intro r hr
    have hread := ih .data rfl
    rw [Reader.eq_data hr, List.flatMap_cons, Write.chars, Reader.run_append, run_escape hescape, List.append_assoc,
      hread]
    rfl

/-- A text has no tags. -/
theorem tags_fill {blanks : List (List Item)} {texts : List (List Char)} (h : texts.length < blanks.length) :
    tags (fill blanks (texts.map fun text => text.map .char)) = tags blanks.flatten := by
  have htext : ∀ text : List Char, tags (text.map .char) = [] := by
    intro text
    rw [tags, List.filterMap_map]
    exact List.filterMap_eq_nil_iff.mpr fun c _ => rfl
  induction blanks generalizing texts with
  | nil => exact absurd h (Nat.not_lt_zero _)
  | cons blank blanks ih =>
    cases texts with
    | nil => rfl
    | cons text texts =>
      have hrest := ih (Nat.lt_of_succ_lt_succ h)
      simp only [tags] at hrest htext ⊢
      rw [List.map_cons, fill, List.filterMap_append, List.filterMap_append, htext, hrest, List.append_nil,
        List.flatten_cons, List.filterMap_append]

end Html
