import Servatory.Firmware.Setup

/-! What the form of the setup page means, and what is read from it: every encoding of some settings is read back, and
    only escapes without digits lose something. -/

namespace Servatory

/-! ### Malformed escapes -/

/-- The bytes that a value stands for. -/
def formMeaning : List UInt8 → List UInt8
  | [] => []
  | byte :: rest =>
    if byte = 0x2b then 0x20 :: formMeaning rest
    else if byte = 0x25 then
      match rest with
      | high :: low :: rest =>
        match hex high, hex low with
        | some high, some low => (high <<< 4 ||| low) :: formMeaning rest
        | _, _ => byte :: formMeaning (high :: low :: rest)
      | rest => byte :: formMeaning rest
    else byte :: formMeaning rest

/-- Every percent sign that two bytes follow is followed by two digits. -/
def Intact (bytes : List UInt8) : Prop :=
  ∀ before high low after, bytes = before ++ 0x25 :: high :: low :: after → (hex high).isSome ∧ (hex low).isSome

variable {byte high low : UInt8} {rest : List UInt8}

theorem intact_nil : Intact [] := by
  intro before high low after h
  cases before <;> cases h

theorem intact_cons_of_ne (h : byte ≠ 0x25) : Intact (byte :: rest) ↔ Intact rest := by
  constructor
  · intro hall before high low after heq
    exact hall (byte :: before) high low after (by rw [heq]; rfl)
  · intro hall before high low after heq
    cases before with
    | nil => exact absurd (List.cons.inj heq).1 h
    | cons _ before => exact hall before high low after (List.cons.inj heq).2

theorem intact_short (hshort : ∀ high low after, rest = high :: low :: after → False) : Intact (byte :: rest) := by
  have hlength : rest.length < 2 := by
    rcases rest with _ | ⟨high, _ | ⟨low, after⟩⟩
    · exact Nat.zero_lt_two
    · exact Nat.one_lt_two
    · exact (hshort high low after rfl).elim
  intro before high low after heq
  have heq := congrArg List.length heq
  rw [List.length_cons, List.length_append, List.length_cons, List.length_cons, List.length_cons] at heq
  omega

theorem intact_escape (hhigh : (hex high).isSome) (hlow : (hex low).isSome) :
    Intact (0x25 :: high :: low :: rest) ↔ Intact rest := by
  have hne : ∀ {b : UInt8}, (hex b).isSome → b ≠ 0x25 := by
    rintro b hb rfl
    cases hb
  have hdigits : Intact (high :: low :: rest) ↔ Intact rest :=
    (intact_cons_of_ne (hne hhigh)).trans (intact_cons_of_ne (hne hlow))
  rw [← hdigits]
  constructor
  · intro hall before h l after heq
    exact hall (0x25 :: before) h l after (by rw [heq]; rfl)
  · intro hall before h l after heq
    cases before with
    | nil =>
      cases heq
      exact ⟨hhigh, hlow⟩
    | cons _ before => exact hall before h l after (List.cons.inj heq).2

theorem not_intact (h : ¬((hex high).isSome ∧ (hex low).isSome)) : ¬Intact (0x25 :: high :: low :: rest) :=
  fun hall => h (hall [] high low rest rfl)

/-! ### What is read at each kind of byte -/

/-- What is read where nothing is malformed. -/
structure ReadsForm (read : List UInt8 → List UInt8) : Prop where
  plus (rest : List UInt8) : read (0x2b :: rest) = 0x20 :: read rest
  literal {byte : UInt8} {rest : List UInt8} (hplus : byte ≠ 0x2b) (hpercent : byte ≠ 0x25) :
    read (byte :: rest) = byte :: read rest
  escape {high low h l : UInt8} {rest : List UInt8} (hhigh : hex high = some h) (hlow : hex low = some l) :
    read (0x25 :: high :: low :: rest) = (h <<< 4 ||| l) :: read rest
  short {rest : List UInt8} (hshort : ∀ high low after, rest = high :: low :: after → False) :
    read (0x25 :: rest) = 0x25 :: read rest

theorem readsForm_formBytes : ReadsForm formBytes := by
  constructor
  case plus =>
    intro rest
    rw [formBytes.eq_def]
    exact if_pos rfl
  case literal =>
    intro byte rest hplus hpercent
    rw [formBytes.eq_def]
    exact (if_neg hplus).trans (if_neg hpercent)
  case escape =>
    intro high low h l rest hhigh hlow
    rw [formBytes.eq_def]
    simp [hhigh, hlow]
  case short =>
    intro rest hshort
    rw [formBytes.eq_def]
    simp only [if_neg (show ¬(0x25 : UInt8) = 0x2b by decide), if_pos]

theorem readsForm_formMeaning : ReadsForm formMeaning := by
  constructor
  case plus =>
    intro rest
    rw [formMeaning.eq_def]
    exact if_pos rfl
  case literal =>
    intro byte rest hplus hpercent
    rw [formMeaning.eq_def]
    exact (if_neg hplus).trans (if_neg hpercent)
  case escape =>
    intro high low h l rest hhigh hlow
    rw [formMeaning.eq_def]
    simp [hhigh, hlow]
  case short =>
    intro rest hshort
    rw [formMeaning.eq_def]
    simp only [if_neg (show ¬(0x25 : UInt8) = 0x2b by decide), if_pos]

theorem formBytes_malformed (hnone : ∀ h l, hex high = some h → hex low = some l → False) :
    formBytes (0x25 :: high :: low :: rest) = formBytes (high :: low :: rest) := by
  rw [formBytes.eq_def]
  simp only [if_neg (show ¬(0x25 : UInt8) = 0x2b by decide), if_pos]

theorem formMeaning_malformed (hnone : ∀ h l, hex high = some h → hex low = some l → False) :
    formMeaning (0x25 :: high :: low :: rest) = 0x25 :: formMeaning (high :: low :: rest) := by
  rw [formMeaning.eq_def]
  simp only [if_neg (show ¬(0x25 : UInt8) = 0x2b by decide), if_pos]

/-- Either all is read as it is meant, or some of it is lost. -/
theorem formBytes_cases (bytes : List UInt8) :
    Intact bytes ∧ formBytes bytes = formMeaning bytes ∨
      ¬Intact bytes ∧ (formBytes bytes).length < (formMeaning bytes).length := by
  have hcons : ∀ {bytes rest : List UInt8} {b : UInt8}, (Intact bytes ↔ Intact rest) →
      formBytes bytes = b :: formBytes rest → formMeaning bytes = b :: formMeaning rest →
      (Intact rest ∧ formBytes rest = formMeaning rest ∨
        ¬Intact rest ∧ (formBytes rest).length < (formMeaning rest).length) →
      Intact bytes ∧ formBytes bytes = formMeaning bytes ∨
        ¬Intact bytes ∧ (formBytes bytes).length < (formMeaning bytes).length := by
    intro bytes rest b hiff hbytes hmeaning h
    rw [hiff, hbytes, hmeaning, List.length_cons, List.length_cons, List.cons_inj_right, Nat.succ_lt_succ_iff]
    exact h
  induction bytes using formBytes.induct with
  | case1 => exact .inl ⟨intact_nil, rfl⟩
  | case2 rest ih =>
    exact hcons (intact_cons_of_ne (by decide)) (readsForm_formBytes.plus rest) (readsForm_formMeaning.plus rest) ih
  | case3 high low rest h l hlow hhigh _ ih =>
    have hiff : Intact (0x25 :: high :: low :: rest) ↔ Intact rest := intact_escape (by rw [hhigh]; rfl) (by rw [hlow]; rfl)
    exact hcons hiff (readsForm_formBytes.escape hhigh hlow) (readsForm_formMeaning.escape hhigh hlow) ih
  | case4 high low rest hnone _ ih =>
    have hnot : ¬Intact (0x25 :: high :: low :: rest) := not_intact fun hsome => by
      obtain ⟨h, hhigh⟩ := Option.isSome_iff_exists.mp hsome.1
      obtain ⟨l, hlow⟩ := Option.isSome_iff_exists.mp hsome.2
      exact hnone h l hhigh hlow
    refine .inr ⟨hnot, ?_⟩
    rw [formBytes_malformed hnone, formMeaning_malformed hnone, List.length_cons, Nat.lt_succ_iff]
    rcases ih with ⟨-, heq⟩ | ⟨-, hlt⟩
    · rw [heq]
    · exact Nat.le_of_lt hlt
  | case5 rest hshort _ ih =>
    have hnext : Intact rest := by
      intro before high low after heq
      have hshorter := @intact_short 0 rest hshort (0 :: before) high low after (by rw [heq]; rfl)
      exact hshorter
    have hiff : Intact (0x25 :: rest) ↔ Intact rest := iff_of_true (intact_short hshort) hnext
    exact hcons hiff (readsForm_formBytes.short hshort) (readsForm_formMeaning.short hshort) ih
  | case6 byte rest hplus hpercent ih =>
    exact hcons (intact_cons_of_ne hpercent) (readsForm_formBytes.literal hplus hpercent)
      (readsForm_formMeaning.literal hplus hpercent) ih

/-- Nothing of a value is lost exactly when every percent sign that two bytes follow is followed by two digits. -/
theorem formDecode_iff (value : List Char) :
    (∀ text, Utf8.decode (formMeaning (Utf8.encode value)) = some text → formDecode value = String.ofList text) ↔
      Utf8.decode (formMeaning (Utf8.encode value)) = none ∨ Intact (Utf8.encode value) := by
  rcases formBytes_cases (Utf8.encode value) with ⟨hintact, heq⟩ | ⟨hnot, hlt⟩
  · refine iff_of_true (fun text htext => ?_) (.inr hintact)
    rw [formDecode, heq, htext]
    rfl
  · refine ⟨fun h => .inl (Option.eq_none_iff_forall_ne_some.mpr fun text htext => ?_), fun h text htext => ?_⟩
    · have hdecode := h text htext
      rw [Utf8.eq_encode_of_decode htext] at hlt
      rw [formDecode] at hdecode
      cases hread : Utf8.decode (formBytes (Utf8.encode value)) with
      | none =>
        rw [hread] at hdecode
        rw [← String.ofList_injective hdecode] at hlt
        exact absurd hlt (Nat.not_lt_zero _)
      | some read =>
        rw [hread] at hdecode
        rw [Utf8.eq_encode_of_decode hread, String.ofList_injective hdecode] at hlt
        exact absurd hlt (Nat.lt_irrefl _)
    · rcases h with hnone | hintact
      · rw [hnone] at htext
        cases htext
      · exact absurd hintact hnot

theorem formDecode_loses :
    ¬∀ value text : List Char, Utf8.decode (formMeaning (Utf8.encode value)) = some text →
      formDecode value = String.ofList text := by
  intro h
  have hbytes : Utf8.encode "%zz".toList = [0x25, 0x7a, 0x7a] := rfl
  have hread : Utf8.encode "zz".toList = [0x7a, 0x7a] := rfl
  have hmeaning : formMeaning [0x25, 0x7a, 0x7a] = [0x25, 0x7a, 0x7a] := by decide
  have hlost : formBytes [0x25, 0x7a, 0x7a] = [0x7a, 0x7a] := by decide
  have hdecode := h "%zz".toList "%zz".toList (by rw [hbytes, hmeaning, ← hbytes, Utf8.decode_encode])
  rw [formDecode, hbytes, hlost, ← hread, Utf8.decode_encode] at hdecode
  exact absurd (String.ofList_injective hdecode) (by decide)

/-! ### Encodings -/

/-- The characters that stand for themselves, the space apart. -/
def isUnreserved (c : Char) : Bool := c.isAlphanum || "-._~*".toList.contains c

/-- The digit of a number below 16, in lower case or in upper case. -/
def IsHexDigit (n : Nat) (c : Char) : Prop := c = n.digitChar ∨ c = n.digitChar.toUpper

/-- The texts that a form writes for some bytes. -/
inductive FormEncodes : List UInt8 → List Char → Prop
  | nil : FormEncodes [] []
  | literal {c : Char} {bytes : List UInt8} {text : List Char} (hc : isUnreserved c) (h : FormEncodes bytes text) :
      FormEncodes (c.val.toUInt8 :: bytes) (c :: text)
  | plus {bytes : List UInt8} {text : List Char} (h : FormEncodes bytes text) :
      FormEncodes (0x20 :: bytes) ('+' :: text)
  | escape {byte : UInt8} {high low : Char} {bytes : List UInt8} {text : List Char}
      (hhigh : IsHexDigit (byte.toNat / 16) high) (hlow : IsHexDigit (byte.toNat % 16) low)
      (h : FormEncodes bytes text) : FormEncodes (byte :: bytes) ('%' :: high :: low :: text)

def Provisioning.fields (p : Provisioning) : List (String × String) :=
  [("ssid", p.ssid), ("password", p.password), ("hostname", p.hostname), ("ntfy_topic", p.ntfyTopic)]

/-- A field of a form, as its body writes it. -/
def IsField (field : String × String) (text : List Char) : Prop :=
  ∃ value, FormEncodes (Utf8.encode field.2.toList) value ∧ text = field.1.toList ++ '=' :: value

/-- The bodies of a form with some settings in any order. An empty password may be left out. -/
def IsForm (p : Provisioning) (body : List Char) : Prop :=
  ∃ fields texts, (fields.Perm p.fields ∨ p.password = "" ∧ fields.Perm (p.fields.eraseIdx 1)) ∧
    List.Forall₂ IsField fields texts ∧ body = ['&'].intercalate texts

/-! ### What is read from an encoding -/

theorem isUnreserved_spec {c : Char} (h : isUnreserved c) : c.toNat < 128 ∧ c ≠ '+' ∧ c ≠ '%' ∧ c ≠ '&' := by
  refine ⟨?_, ?_, ?_, ?_⟩
  · rcases Bool.or_eq_true_iff.mp h with halphanum | hmark
    · have hlast : ∀ last : Char, c.val ≤ last.val → last.toNat < 128 → c.toNat < 128 := fun _ hle hlast =>
        (UInt32.le_iff_toNat_le.mp hle).trans_lt hlast
      rcases Bool.or_eq_true_iff.mp halphanum with halpha | hdigit
      · rcases Bool.or_eq_true_iff.mp halpha with hupper | hlower
        · exact hlast 'Z' (of_decide_eq_true hupper).2 (by decide)
        · exact hlast 'z' (of_decide_eq_true (Bool.and_eq_true_iff.mp hlower).2) (by decide)
      · exact hlast '9' (of_decide_eq_true (Bool.and_eq_true_iff.mp hdigit).2) (by decide)
    · have hall : ("-._~*".toList.all fun c => decide (c.toNat < 128)) = true := rfl
      exact of_decide_eq_true (List.all_eq_true.mp hall c (List.contains_iff_mem.mp hmark))
  all_goals
    rintro rfl
    cases h

theorem isHexDigit_spec {n : Nat} {c : Char} (hn : n < 16) (h : IsHexDigit n c) :
    c.toNat < 128 ∧ c ≠ '&' ∧ hex c.val.toUInt8 = some n.toUInt8 := by
  have hall : ∀ n < 16, [n.digitChar, n.digitChar.toUpper].all fun c =>
      decide (c.toNat < 128 ∧ c ≠ '&' ∧ hex c.val.toUInt8 = some n.toUInt8) := by decide
  refine of_decide_eq_true (List.all_eq_true.mp (hall n hn) c ?_)
  rcases h with rfl | rfl
  · exact List.mem_cons_self ..
  · exact List.mem_cons_of_mem _ (List.mem_cons_self ..)

/-- A byte is put together from its halves. -/
theorem nibbles (byte : UInt8) : (byte.toNat / 16).toUInt8 <<< 4 ||| (byte.toNat % 16).toUInt8 = byte := by
  have hall : ∀ n < 256, UInt8.ofNat (n / 16) <<< 4 ||| UInt8.ofNat (n % 16) = UInt8.ofNat n := by decide +kernel
  rw [hall byte.toNat byte.toNat_lt]
  exact UInt8.ofNat_toNat

/-- A text of unreserved characters is an encoding of itself. -/
theorem formEncodes_unreserved {text : List Char} (h : text.all isUnreserved) : FormEncodes (Utf8.encode text) text := by
  induction text with
  | nil => exact .nil
  | cons c text ih =>
    rw [List.all_cons, Bool.and_eq_true] at h
    rw [Utf8.encode_cons_ascii (isUnreserved_spec h.1).1]
    exact .literal h.1 (ih h.2)

theorem byte_ne {c d : Char} (hc : c.toNat < 128) (hd : d.toNat < 128) (h : c ≠ d) : c.val.toUInt8 ≠ d.val.toUInt8 := by
  intro heq
  refine h (Char.toNat_inj.mp ?_)
  have hnat := congrArg UInt8.toNat heq
  rw [UInt32.toNat_toUInt8, UInt32.toNat_toUInt8] at hnat
  rw [Char.toNat] at hc hd ⊢
  rw [Char.toNat]
  omega

theorem formBytes_encode {bytes : List UInt8} {text : List Char} (h : FormEncodes bytes text) :
    formBytes (Utf8.encode text) = bytes := by
  induction h with
  | nil => rfl
  | literal hc _ ih =>
    obtain ⟨hascii, hplus, hpercent, -⟩ := isUnreserved_spec hc
    rw [Utf8.encode_cons_ascii hascii, readsForm_formBytes.literal (byte_ne hascii (by decide) hplus)
      (byte_ne hascii (by decide) hpercent), ih]
  | plus _ ih => rw [Utf8.encode_cons_ascii (by decide), show '+'.val.toUInt8 = 0x2b from rfl, readsForm_formBytes.plus, ih]
  | @escape byte high low bytes text hhigh hlow _ ih =>
    obtain ⟨hhigh, -, hh⟩ := isHexDigit_spec (Nat.div_lt_of_lt_mul byte.toNat_lt) hhigh
    obtain ⟨hlow, -, hl⟩ := isHexDigit_spec (Nat.mod_lt _ (by decide)) hlow
    rw [Utf8.encode_cons_ascii (by decide), Utf8.encode_cons_ascii hhigh, Utf8.encode_cons_ascii hlow]
    exact (readsForm_formBytes.escape hh hl).trans (by rw [ih, nibbles])

theorem formDecode_encode {value : String} {text : List Char} (h : FormEncodes (Utf8.encode value.toList) text) :
    formDecode text = value := by
  rw [formDecode, formBytes_encode h, Utf8.decode_encode]
  exact String.ofList_toList

theorem not_mem_encode {bytes : List UInt8} {text : List Char} (h : FormEncodes bytes text) : '&' ∉ text := by
  induction h with
  | nil => exact List.not_mem_nil
  | literal hc _ ih => exact List.not_mem_cons_of_ne_of_not_mem (isUnreserved_spec hc).2.2.2.symm ih
  | plus _ ih => exact List.not_mem_cons_of_ne_of_not_mem (by decide) ih
  | @escape byte _ _ _ _ hhigh hlow _ ih =>
    have hhigh := (isHexDigit_spec (Nat.div_lt_of_lt_mul byte.toNat_lt) hhigh).2.1
    have hlow := (isHexDigit_spec (Nat.mod_lt _ (by decide)) hlow).2.1
    refine List.not_mem_cons_of_ne_of_not_mem (by decide) ?_
    exact List.not_mem_cons_of_ne_of_not_mem hhigh.symm (List.not_mem_cons_of_ne_of_not_mem hlow.symm ih)

/-! ### Settings -/

/-- What separates names and fields is in no name. -/
def IsName (name : String) : Prop := '=' ∉ name.toList ∧ '&' ∉ name.toList

variable {field : String × String} {fields : List (String × String)} {text : List Char} {texts : List (List Char)}

theorem not_mem_field (hname : IsName field.1) (h : IsField field text) : '&' ∉ text := by
  obtain ⟨value, hvalue, rfl⟩ := h
  rw [List.mem_append, not_or]
  exact ⟨hname.2, List.not_mem_cons_of_ne_of_not_mem (by decide) (not_mem_encode hvalue)⟩

/-- What is looked for in one field. -/
theorem formValue_field (hname : IsName field.1) (h : IsField field text) (name : String) :
    (do
      let (key, value) ← Text.splitOnce '=' text
      if key = name.toList then some (formDecode value) else none) =
      if name == field.1 then some field.2 else none := by
  obtain ⟨value, hvalue, rfl⟩ := h
  rw [Text.splitOnce_append hname.1, Option.bind_eq_bind, Option.bind_some]
  change (if field.1.toList = name.toList then some (formDecode value) else none) = _
  by_cases heq : name = field.1
  · rw [if_pos (congrArg String.toList heq.symm), if_pos (beq_iff_eq.mpr heq), formDecode_encode hvalue]
  · rw [if_neg fun h => heq (String.toList_inj.mp h).symm, if_neg fun h => heq (beq_iff_eq.mp h)]

theorem splitOn_fields (hnames : ∀ f ∈ fields, IsName f.1) (hne : fields ≠ []) (h : List.Forall₂ IsField fields texts) :
    (['&'].intercalate texts).splitOn '&' = texts := by
  refine List.splitOn_intercalate '&' ?_ ?_
  · clear hne
    induction h with
    | nil => exact fun _ => nofun
    | cons hfield _ ih =>
      rw [List.forall_mem_cons] at hnames
      exact List.forall_mem_cons.mpr ⟨not_mem_field hnames.1 hfield, ih hnames.2⟩
  · rintro rfl
    cases h
    exact hne rfl

/-- A body is searched as the fields are that it writes. -/
theorem formValue_eq (hnames : ∀ f ∈ fields, IsName f.1) (hne : fields ≠ []) (h : List.Forall₂ IsField fields texts)
    (name : String) : formValue (['&'].intercalate texts) name = fields.lookup name := by
  rw [formValue, splitOn_fields hnames hne h]
  clear hne
  induction h with
  | nil => rfl
  | @cons field text fields texts hfield _ ih =>
    rw [List.forall_mem_cons] at hnames
    rw [List.findSome?_cons, formValue_field hnames.1 hfield, ih hnames.2, List.lookup_cons]
    cases name == field.1 <;> rfl

/-- The order of fields with different names makes no difference. -/
theorem lookup_perm {fields' : List (String × String)} (h : fields.Perm fields') (hnodup : (fields.map (·.1)).Nodup)
    (name : String) : fields.lookup name = fields'.lookup name := by
  induction h with
  | nil => rfl
  | cons field _ ih => rw [List.lookup_cons, List.lookup_cons, ih (List.nodup_cons.mp hnodup).2]
  | swap first second fields =>
    have hne : second.1 ≠ first.1 := by
      intro heq
      exact (List.nodup_cons.mp hnodup).1 (List.mem_map.mpr ⟨first, List.mem_cons_self .., heq.symm⟩)
    rw [List.lookup_cons, List.lookup_cons, List.lookup_cons, List.lookup_cons]
    cases hfirst : name == first.1
    · rfl
    · rw [beq_eq_false_iff_ne.mpr (beq_iff_eq.mp hfirst ▸ hne.symm)]
  | trans h _ ih ih' => rw [ih hnodup, ih' ((h.map _).nodup hnodup)]

theorem nodup_fields (p : Provisioning) : (p.fields.map (·.1)).Nodup := by
  change ["ssid", "password", "hostname", "ntfy_topic"].Nodup
  decide

theorem isName_fields (p : Provisioning) : ∀ f ∈ p.fields, IsName f.1 := by
  have hall : ∀ name ∈ ["ssid", "password", "hostname", "ntfy_topic"], '=' ∉ name.toList ∧ '&' ∉ name.toList := by decide
  intro f hf
  exact hall f.1 (List.mem_map_of_mem (f := (·.1)) hf)

/-- What is found in a form. -/
theorem formValue_isForm {p : Provisioning} (hfields : fields.Sublist p.fields ∧ fields ≠ []) {fields' : List (String × String)}
    (hperm : fields'.Perm fields) (htexts : List.Forall₂ IsField fields' texts) (name : String) :
    formValue (['&'].intercalate texts) name = fields.lookup name := by
  have hnodup : (fields'.map (·.1)).Nodup :=
    (hperm.map _).symm.nodup ((nodup_fields p).sublist (hfields.1.map _))
  have hnames : ∀ f ∈ fields', IsName f.1 := fun f hf => isName_fields p f (hfields.1.subset (hperm.mem_iff.mp hf))
  have hne : fields' ≠ [] := fun hnil => hfields.2 (hnil ▸ hperm).nil_eq.symm
  rw [formValue_eq hnames hne htexts, lookup_perm hperm hnodup]

/-- The settings of a form are taken when they are valid. -/
theorem parseProvisioning_eq {p : Provisioning} {body : List Char} (h : IsForm p body) :
    parseProvisioning body = if p.isValid then some p else none := by
  obtain ⟨fields, texts, hfields, htexts, rfl⟩ := h
  rcases hfields with hperm | ⟨hempty, hperm⟩
  · have hvalue := formValue_isForm ⟨List.Sublist.refl p.fields, List.cons_ne_nil _ _⟩ hperm htexts
    rw [parseProvisioning, hvalue, hvalue, hvalue, hvalue]
    rfl
  · have hvalue := formValue_isForm ⟨List.eraseIdx_sublist p.fields 1, List.cons_ne_nil _ _⟩ hperm htexts
    obtain ⟨ssid, password, hostname, ntfyTopic⟩ := p
    obtain rfl : password = "" := hempty
    rw [parseProvisioning, hvalue, hvalue, hvalue, hvalue]
    rfl

/-- Valid settings are read back from every form that holds them. -/
theorem parseProvisioning_isForm {p : Provisioning} {body : List Char} (hvalid : p.isValid) (h : IsForm p body) :
    parseProvisioning body = some p := by
  rw [parseProvisioning_eq h, if_pos hvalid]

theorem parseProvisioning_isForm_any :
    parseProvisioning "hostname=s1&password=%C3%bc+&ntfy_topic=t_0&ssid=A".toList =
      some ⟨"A", "ü ", "s1", "t_0"⟩ := by
  refine parseProvisioning_isForm (by decide) ⟨[("hostname", "s1"), ("password", "ü "), ("ntfy_topic", "t_0"), ("ssid", "A")],
    ["hostname=s1".toList, "password=%C3%bc+".toList, "ntfy_topic=t_0".toList, "ssid=A".toList], .inl (by decide), ?_, by decide⟩
  have hescape : FormEncodes [0xc3, 0xbc, 0x20] "%C3%bc+".toList :=
    .escape (.inr rfl) (.inl rfl) (.escape (.inl rfl) (.inl rfl) (.plus .nil))
  refine .cons ⟨_, formEncodes_unreserved ?_, rfl⟩ (.cons ⟨"%C3%bc+".toList, hescape, rfl⟩
    (.cons ⟨_, formEncodes_unreserved ?_, rfl⟩ (.cons ⟨_, formEncodes_unreserved ?_, rfl⟩ .nil)))
  all_goals decide

end Servatory
