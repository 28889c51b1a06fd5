import Mathlib.Data.List.Basic
import Mathlib.Data.List.Nodup
import Servatory.Host.Conditions
import Servatory.Theorems.Host.Budget

/-! Which conditions are read as they are written. The forms `all` and `any` ignore the keys they do not know, so a
    mapping loses what stands beside its list of conditions. -/

namespace Servatory

/-! ### What is kept -/

mutual
/-- Every mapping has only keys of the form that it was read as. -/
inductive ReadWhole : Content → Condition → Prop
  | all {entries : List (Content × Content)} {key : Content} {items : List Content} {children : List Condition}
      (hkeys : ∀ entry ∈ entries, identify ["all"] entry.1 = .field 0) (hlist : (key, .seq items) ∈ entries)
      (h : ReadWholeAll items children) : ReadWhole (.map entries) (.all children)
  | any {entries : List (Content × Content)} {key : Content} {items : List Content} {children : List Condition}
      (hkeys : ∀ entry ∈ entries, identify ["any"] entry.1 = .field 0) (hlist : (key, .seq items) ∈ entries)
      (h : ReadWholeAll items children) : ReadWhole (.map entries) (.any children)
  | predicate {entries : List (Content × Content)} {p : Predicate}
      (hkeys : ∀ entry ∈ entries, ∃ index, identify predicateFields entry.1 = .field index) :
      ReadWhole (.map entries) (.predicate p)
  | sequence {items : List Content} {p : Predicate} : ReadWhole (.seq items) (.predicate p)

inductive ReadWholeAll : List Content → List Condition → Prop
  | nil : ReadWholeAll [] []
  | cons {item : Content} {items : List Content} {child : Condition} {children : List Condition}
      (h : ReadWhole item child) (hrest : ReadWholeAll items children) : ReadWholeAll (item :: items) (child :: children)
end

/-! ### What is written -/

namespace Content

def isSeq : Content → Bool
  | seq _ => true
  | _ => false

/-- The entry can be the list of conditions of its mapping: it is under `all` or `any`, or it is a list under the number
    of the first field. -/
def leads (key value : Content) : Bool :=
  match key with
  | str name => name == "all" || name == "any"
  | int position => position == 0 && value.isSeq
  | _ => false

mutual
/-- A list of conditions is the only entry of its mapping. -/
def exclusive : Content → Bool
  | map entries => (!(entries.any fun entry => leads entry.1 entry.2) || entries.length == 1) && listsExclusive entries
  | _ => true

def itemsExclusive : List Content → Bool
  | [] => true
  | item :: rest => item.exclusive && itemsExclusive rest

def listExclusive : Content → Bool
  | seq items => itemsExclusive items
  | _ => true

def listsExclusive : List (Content × Content) → Bool
  | [] => true
  | (key, value) :: rest => (!leads key value || value.listExclusive) && listsExclusive rest
end

theorem itemsExclusive_iff {items : List Content} :
    itemsExclusive items = true ↔ ∀ item ∈ items, item.exclusive = true := by
  induction items with
  | nil => simp [itemsExclusive]
  | cons item rest ih => rw [itemsExclusive, Bool.and_eq_true, ih, List.forall_mem_cons]

theorem listsExclusive_iff {entries : List (Content × Content)} :
    listsExclusive entries = true ↔ ∀ entry ∈ entries, leads entry.1 entry.2 = true → entry.2.listExclusive = true := by
  induction entries with
  | nil => simp [listsExclusive]
  | cons entry rest ih =>
    obtain ⟨key, value⟩ := entry
    rw [listsExclusive, Bool.and_eq_true, ih, List.forall_mem_cons]
    cases leads key value <;> simp

/-- A mapping without a list of conditions loses nothing. -/
theorem exclusive_of_not_leads {entries : List (Content × Content)}
    (h : ∀ entry ∈ entries, leads entry.1 entry.2 = false) : (map entries).exclusive = true := by
  have hnone : (entries.any fun entry => leads entry.1 entry.2) = false := by
    rw [List.any_eq_false]
    exact fun entry hentry hleads => by cases (h entry hentry).symm.trans hleads
  rw [exclusive, hnone, Bool.not_false, Bool.true_or, Bool.true_and, listsExclusive_iff]
  exact fun entry hentry hleads => by cases (h entry hentry).symm.trans hleads

/-- A mapping with a list of conditions has nothing else, and neither have those in the list. -/
theorem exclusive_of_leads {entries : List (Content × Content)} {key : Content} {items : List Content}
    (hmem : (key, seq items) ∈ entries) (hleads : leads key (seq items) = true) :
    (map entries).exclusive = true ↔ entries = [(key, seq items)] ∧ ∀ item ∈ items, item.exclusive = true := by
  have hsome : (entries.any fun entry => leads entry.1 entry.2) = true := List.any_eq_true.mpr ⟨_, hmem, hleads⟩
  rw [exclusive, hsome, Bool.not_true, Bool.false_or, Bool.and_eq_true, beq_iff_eq, List.length_eq_one_iff,
    ← itemsExclusive_iff]
  constructor
  · rintro ⟨⟨entry, rfl⟩, hlists⟩
    obtain rfl := List.mem_singleton.mp hmem
    exact ⟨rfl, listsExclusive_iff.mp hlists _ hmem hleads⟩
  · rintro ⟨rfl, hitems⟩
    refine ⟨⟨_, rfl⟩, listsExclusive_iff.mpr fun entry hentry _ => ?_⟩
    obtain rfl := List.mem_singleton.mp hentry
    exact hitems

/-- The conditions in the list of a mapping are smaller than the mapping. -/
theorem induction_items {P : Content → Prop}
    (h : ∀ content, (∀ entries key items, content = map entries → (key, seq items) ∈ entries → ∀ item ∈ items, P item) →
      P content) (content : Content) : P content := by
  induction hsize : sizeOf content using Nat.strongRecOn generalizing content with
  | ind n ih =>
    subst hsize
    refine h content ?_
    rintro entries key items rfl hmem item hitem
    have h1 := List.sizeOf_lt_of_mem hitem
    have h2 := List.sizeOf_lt_of_mem hmem
    refine ih (sizeOf item) ?_ item rfl
    simp only [Prod.mk.sizeOf_spec, seq.sizeOf_spec, map.sizeOf_spec] at h2 ⊢
    omega

end Content

/-! ### What is read -/

theorem identify_single {field : String} {key : Content} {index : Nat} (h : identify [field] key = .field index) :
    index = 0 ∧ (key = .str field ∨ key = .int 0) := by
  cases key with
  | str name =>
    by_cases hname : field = name
    · simp [identify, hname] at h
      exact ⟨h.symm, .inl (by rw [hname])⟩
    · simp [identify, hname] at h
  | int position =>
    rw [identify] at h
    by_cases hneg : position < 0
    · rw [if_pos hneg] at h
      cases h
    · rw [if_neg hneg] at h
      by_cases hfirst : position.toNat < [field].length
      · rw [if_pos hfirst] at h
        obtain rfl : position.toNat = index := FieldKey.field.inj h
        rw [List.length_singleton] at hfirst
        exact ⟨by omega, .inr (congrArg Content.int (by omega))⟩
      · rw [if_neg hfirst] at h
        cases h
  | _ => cases h

namespace Content

/-- No key of an entry is the field. -/
theorem unknown_of_childrenUnder {field : String} {entries : List (Content × Content)}
    (h : childrenUnder field entries = some none) : ∀ entry ∈ entries, identify [field] entry.1 = .unknown := by
  induction entries with
  | nil => exact fun _ => nofun
  | cons entry rest ih =>
    obtain ⟨key, value⟩ := entry
    rw [childrenUnder] at h
    split at h
    · cases h
    · rename_i hkey
      exact List.forall_mem_cons.mpr ⟨hkey, ih h⟩
    · split at h
      · obtain ⟨_, -, h⟩ := Option.map_eq_some_iff.mp h
        cases h
      · cases h

/-- The conditions of `all` or `any` stand in a list under its key, and the keys beside it are not known. -/
theorem childrenUnder_eq_some {field : String} {entries : List (Content × Content)} {children : List Condition}
    (h : childrenUnder field entries = some (some children)) :
    ∃ before key items after, entries = before ++ (key, seq items) :: after ∧ identify [field] key = .field 0 ∧
      conditions items = some children ∧ ∀ entry ∈ before ++ after, identify [field] entry.1 = .unknown := by
  induction entries with
  | nil => cases h
  | cons entry rest ih =>
    obtain ⟨key, value⟩ := entry
    rw [childrenUnder] at h
    split at h
    · cases h
    · rename_i hkey
      obtain ⟨before, key', items, after, rfl, hkey', hitems, hothers⟩ := ih h
      exact ⟨(key, value) :: before, key', items, after, rfl, hkey', hitems, List.forall_mem_cons.mpr ⟨hkey, hothers⟩⟩
    · rename_i index hkey
      split at h
      · rename_i hrest
        obtain ⟨children', hvalue, h⟩ := Option.map_eq_some_iff.mp h
        obtain rfl := Option.some.inj h
        cases value with
        | seq items =>
          obtain ⟨rfl, -⟩ := identify_single hkey
          exact ⟨[], key, items, rest, rfl, hkey, hvalue, unknown_of_childrenUnder hrest⟩
        | _ => cases hvalue
      · cases h

end Content

/-- Every key of a predicate is one of its fields, and none of its entries can be a list of conditions. -/
theorem Predicate.ofMap_eq_some {entries : List (Content × Content)} {p : Predicate}
    (h : Predicate.ofMap entries = some p) : ∀ entry ∈ entries,
      (∃ index, identify predicateFields entry.1 = .field index) ∧ Content.leads entry.1 entry.2 = false := by
  rw [Predicate.ofMap] at h
  split at h
  · cases h
  · rename_i hkeys
    obtain ⟨hunknown, hinvalid, hnodup⟩ : FieldKey.unknown ∉ entries.map (fun entry => identify predicateFields entry.1) ∧
        FieldKey.invalid ∉ entries.map (fun entry => identify predicateFields entry.1) ∧
        (entries.map fun entry => identify predicateFields entry.1).Nodup := by
      simpa [not_or] using hkeys
    obtain ⟨measurement, hmeasurement, h⟩ := Option.bind_eq_some_iff.mp h
    obtain ⟨selector, hselector, -⟩ := Option.bind_eq_some_iff.mp h
    obtain ⟨text, htext, -⟩ := Option.bind_eq_some_iff.mp hselector
    intro entry hentry
    have hmem := List.mem_map_of_mem (f := fun entry : Content × Content => identify predicateFields entry.1) hentry
    obtain ⟨key, value⟩ := entry
    refine ⟨?_, ?_⟩
    · cases hkey : identify predicateFields key with
      | field index => exact ⟨index, rfl⟩
      | unknown => exact absurd (hkey ▸ hmem) hunknown
      | invalid => exact absurd (hkey ▸ hmem) hinvalid
    · cases key with
      | str name =>
        by_contra hleads
        rw [Bool.not_eq_false, Content.leads, Bool.or_eq_true, beq_iff_eq, beq_iff_eq] at hleads
        rcases hleads with rfl | rfl
        · exact hunknown hmem
        · exact hunknown hmem
      | int position =>
        by_contra hleads
        rw [Bool.not_eq_false, Content.leads, Bool.and_eq_true, beq_iff_eq] at hleads
        obtain ⟨rfl, hseq⟩ := hleads
        -- A list under the number of the first field is no measurement.
        obtain ⟨first, hfirst, rfl⟩ := Option.map_eq_some_iff.mp hmeasurement
        have hfield := List.find?_some hfirst
        have hsame := List.inj_on_of_nodup_map hnodup (List.mem_of_find?_eq_some hfirst) hentry (beq_iff_eq.mp hfield)
        rw [hsame] at htext
        cases value with
        | seq items => cases htext
        | _ => cases hseq
      | _ => rfl

/-! ### When everything is kept -/

namespace Content

theorem readWholeAll_iff {items : List Content} {children : List Condition} (hchildren : conditions items = some children)
    (h : ∀ item ∈ items, ∀ child, item.condition = some child → (ReadWhole item child ↔ item.exclusive = true)) :
    ReadWholeAll items children ↔ ∀ item ∈ items, item.exclusive = true := by
  induction items generalizing children with
  | nil =>
    obtain rfl := Option.some.inj hchildren
    exact ⟨fun _ => nofun, fun _ => .nil⟩
  | cons item rest ih =>
    obtain ⟨child, hchild, hchildren⟩ := Option.bind_eq_some_iff.mp hchildren
    obtain ⟨others, hothers, hchildren⟩ := Option.bind_eq_some_iff.mp hchildren
    obtain rfl := Option.some.inj hchildren
    have hitem := h item (List.mem_cons_self ..) child hchild
    have hrest := ih hothers fun other hother => h other (List.mem_cons_of_mem _ hother)
    rw [List.forall_mem_cons, ← hitem, ← hrest]
    constructor
    · intro hall
      cases hall with
      | cons hkept hkeptAll => exact ⟨hkept, hkeptAll⟩
    · rintro ⟨hkept, hkeptAll⟩
      exact .cons hkept hkeptAll

/-- A mapping read as a list of conditions keeps its keys when the list is its only entry. -/
theorem only_iff {field : String} (hfield : field = "all" ∨ field = "any") {entries : List (Content × Content)}
    {children : List Condition} (h : childrenUnder field entries = some (some children))
    (ih : ∀ key items, (key, seq items) ∈ entries → ∀ item ∈ items, ∀ child, item.condition = some child →
      (ReadWhole item child ↔ item.exclusive = true)) :
    ((∀ entry ∈ entries, identify [field] entry.1 = .field 0) ∧
      ∃ key items, (key, seq items) ∈ entries ∧ ReadWholeAll items children) ↔ (map entries).exclusive = true := by
  obtain ⟨before, key, items, after, rfl, hkey, hitems, hothers⟩ := childrenUnder_eq_some h
  have hmem : (key, seq items) ∈ before ++ (key, seq items) :: after :=
    List.mem_append_right _ (List.mem_cons_self ..)
  have hleads : leads key (seq items) = true := by
    rcases (identify_single hkey).2 with rfl | rfl
    · rcases hfield with rfl | rfl <;> rfl
    · rfl
  rw [exclusive_of_leads hmem hleads, ← readWholeAll_iff hitems (ih key items hmem)]
  constructor
  · rintro ⟨hkeys, key', items', hmem', hkept⟩
    -- The keys beside the list are not known, so there are none.
    have hnone : before ++ after = [] := by
      refine List.eq_nil_iff_forall_not_mem.mpr fun entry hentry => ?_
      have hentry' : entry ∈ before ++ (key, seq items) :: after := by
        rw [List.mem_append] at hentry ⊢
        exact hentry.imp_right (List.mem_cons_of_mem _)
      cases (hothers entry hentry).symm.trans (hkeys entry hentry')
    obtain ⟨rfl, rfl⟩ := List.append_eq_nil_iff.mp hnone
    obtain ⟨-, hitems'⟩ := Prod.mk.inj (List.mem_singleton.mp hmem')
    rw [seq.inj hitems'] at hkept
    exact ⟨rfl, hkept⟩
  · rintro ⟨heq, hkept⟩
    rw [heq]
    refine ⟨fun entry hentry => ?_, key, items, List.mem_singleton_self _, hkept⟩
    rw [List.mem_singleton.mp hentry]
    exact hkey

end Content

/-- A condition is read with all that is written exactly when, in it and in all conditions that it lists, a list of
    conditions is the only entry of its mapping. -/
theorem condition_kept_iff {content : Content} {condition : Condition} (h : content.condition = some condition) :
    ReadWhole content condition ↔ content.exclusive = true := by
  induction content using Content.induction_items generalizing condition with
  | h content ih =>
    cases content with
    | map entries =>
      have hitems : ∀ key items, (key, Content.seq items) ∈ entries → ∀ item ∈ items, ∀ child,
          item.condition = some child → (ReadWhole item child ↔ item.exclusive = true) :=
        fun key items hmem item hitem child => ih entries key items rfl hmem item hitem
      rw [Content.condition] at h
      split at h
      · rename_i children hall
        obtain rfl := Option.some.inj h
        rw [← Content.only_iff (.inl rfl) hall hitems]
        constructor
        · intro hall
          cases hall with
          | all hkeys hlist hkept => exact ⟨hkeys, _, _, hlist, hkept⟩
        · rintro ⟨hkeys, key, items, hlist, hkept⟩
          exact .all hkeys hlist hkept
      · split at h
        · rename_i children hany
          obtain rfl := Option.some.inj h
          rw [← Content.only_iff (.inr rfl) hany hitems]
          constructor
          · intro hany
            cases hany with
            | any hkeys hlist hkept => exact ⟨hkeys, _, _, hlist, hkept⟩
          · rintro ⟨hkeys, key, items, hlist, hkept⟩
            exact .any hkeys hlist hkept
        · obtain ⟨p, hp, rfl⟩ := Option.map_eq_some_iff.mp h
          have hentries := Predicate.ofMap_eq_some hp
          exact ⟨fun _ => Content.exclusive_of_not_leads fun entry hentry => (hentries entry hentry).2,
            fun _ => .predicate fun entry hentry => (hentries entry hentry).1⟩
    | seq items =>
      rw [Content.condition] at h
      obtain ⟨p, -, rfl⟩ := Option.map_eq_some_iff.mp h
      exact ⟨fun _ => rfl, fun _ => .sequence⟩
    | _ => cases h

/-- The link is down, in a list under `any`. -/
def linkDown : Content × Content :=
  (.str "any", .seq [.map [(.str "measurement", .str "network.uplink.up"), (.str "equals", .bool false)]])

/-- The processor is busy, in a list under `all`. -/
def cpuBusy : Content × Content :=
  (.str "all", .seq [.map [(.str "measurement", .str "system.cpu.percent"), (.str "at_least", .int 85)]])

/-- A list within a list, each the only entry of its mapping. -/
theorem condition_kept_nested :
    ReadWhole (.map [(.str "all", .seq [.map [linkDown]])])
        (.all [.any [.predicate ⟨.networkUp, some (.bool false), none, none, none, none⟩]]) ↔
      Content.exclusive (.map [(.str "all", .seq [.map [linkDown]])]) = true :=
  condition_kept_iff (by rfl)

/-- Both lists in one mapping are accepted, and the second is dropped. -/
theorem condition_dropped :
    ∃ condition, Content.condition (.map [cpuBusy, linkDown]) = some condition ∧
      Config.guestsOnly.validateCondition condition = .ok () ∧ ¬ReadWhole (.map [cpuBusy, linkDown]) condition := by
  refine ⟨.all [.predicate ⟨.cpuPercent, none, none, some (.finite 85), none, none⟩], by rfl, by rfl, fun h => ?_⟩
  cases h with
  | all hkeys => cases hkeys linkDown (List.mem_cons_of_mem _ (List.mem_singleton_self _))

end Servatory
