import Servatory.Host.Layout
import Servatory.Lib.Except

/-! What is read from the layout of a storage view: when the layouts of the documentation keep their meaning, and when
    a list keeps all of its elements. -/

namespace Servatory

namespace Node

/-! ### The layouts of the documentation -/

def filesystemColumn (ids : List String) : Node :=
  mapping [(string "filesystems", sequence (ids.map string)), (string "footer", string "proxmox_backup")]

def smartColumn (ids : List String) : Node := mapping [(string "smart", sequence (ids.map string))]

def columns (left right : Node) : Node :=
  mapping [(string "columns", mapping [(string "left", left), (string "right", right)])]

variable {needle : String} {ids filesystems smart : List String}

theorem containsItems_string : containsItems needle (ids.map string) = true ↔ needle ∈ ids := by
  induction ids with
  | nil => simp [containsItems]
  | cons id ids ih =>
    rw [List.map_cons, containsItems, Bool.or_eq_true, ih, contains, beq_iff_eq, List.mem_cons, eq_comm]

theorem contains_filesystemColumn :
    (filesystemColumn ids).contains needle = true ↔
      needle ∈ ["filesystems", "footer", "proxmox_backup"] ∨ needle ∈ ids := by
  simp only [filesystemColumn, contains, containsEntries, Bool.or_eq_true, beq_iff_eq, containsItems_string,
    Bool.or_false, List.mem_cons, List.not_mem_nil, or_false]
  grind

theorem contains_smartColumn : (smartColumn ids).contains needle = true ↔ needle = "smart" ∨ needle ∈ ids := by
  simp only [smartColumn, contains, containsEntries, Bool.or_eq_true, beq_iff_eq, containsItems_string, Bool.or_false]
  grind

theorem contains_columns {left right : Node} :
    (columns left right).contains needle = true ↔
      needle ∈ ["columns", "left", "right"] ∨ left.contains needle = true ∨ right.contains needle = true := by
  simp only [columns, contains, containsEntries, Bool.or_eq_true, beq_iff_eq, Bool.or_false, List.mem_cons,
    List.not_mem_nil, or_false]
  grind

theorem columnContains_columns {left right : Node} :
    (columns left right).columnContains "left" needle = left.contains needle := rfl

theorem searchItems_string {α : Type} {take : Node → Node → Option α → Option α} :
    searchItems take (ids.map string) = none := by
  induction ids with
  | nil => rfl
  | cons id ids ih => rw [List.map_cons, searchItems, search, ih, Option.or_none]; all_goals nofun

theorem asStr_string (value : String) : (string value).asStr = some value := rfl

theorem asSequence_sequence (items : List Node) : (sequence items).asSequence = some items := rfl

theorem filterMap_asStr : (ids.map string).filterMap asStr = ids := by
  rw [List.filterMap_map]
  exact List.filterMap_some

theorem findStringList_columns :
    (columns (filesystemColumn filesystems) (smartColumn smart)).findStringList "filesystems" = some filesystems ∧
      (columns (filesystemColumn filesystems) (smartColumn smart)).findStringList "smart" = some smart ∧
      (columns (smartColumn smart) (filesystemColumn filesystems)).findStringList "filesystems" = some filesystems ∧
      (columns (smartColumn smart) (filesystemColumn filesystems)).findStringList "smart" = some smart := by
  simp [findStringList, columns, filesystemColumn, smartColumn, search, searchEntries, searchItems_string,
    takeStringList, asStr_string, asSequence_sequence, filterMap_asStr, -List.filterMap_map]

/-! ### Sequences -/

mutual
/-- The sequences under a key, in the order of the layout. What is under the key is not searched. -/
def sequences (needle : String) : Node → List (List Node)
  | mapping entries => sequencesOfEntries needle entries
  | sequence items => sequencesOfItems needle items
  | _ => []

def sequencesOfItems (needle : String) : List Node → List (List Node)
  | [] => []
  | item :: rest => item.sequences needle ++ sequencesOfItems needle rest

def sequencesOfEntries (needle : String) : List (Node × Node) → List (List Node)
  | [] => []
  | (key, value) :: rest =>
    (if key.asStr = some needle then value.asSequence.toList else value.sequences needle) ++
      sequencesOfEntries needle rest
end

mutual
/-- The first of the sequences is taken. -/
theorem findStringList_eq (needle : String) : ∀ node : Node,
    node.search (takeStringList needle) = (node.sequences needle).head?.map (·.filterMap asStr)
  | mapping entries => by rw [search, sequences, findStringListEntries_eq]
  | sequence items => by rw [search, sequences, findStringListItems_eq]
  | null | bool _ | number _ | string _ | tagged _ _ => rfl

theorem findStringListItems_eq (needle : String) : ∀ items : List Node,
    searchItems (takeStringList needle) items = (sequencesOfItems needle items).head?.map (·.filterMap asStr)
  | [] => rfl
  | item :: rest => by
    rw [searchItems, sequencesOfItems, findStringList_eq needle item, findStringListItems_eq needle rest,
      List.head?_append, Option.map_or]

theorem findStringListEntries_eq (needle : String) : ∀ entries : List (Node × Node),
    searchEntries (takeStringList needle) entries =
      (sequencesOfEntries needle entries).head?.map (·.filterMap asStr)
  | [] => rfl
  | (key, value) :: rest => by
    rw [searchEntries, sequencesOfEntries, findStringList_eq needle value, findStringListEntries_eq needle rest,
      List.head?_append, Option.map_or, takeStringList]
    split
    · rw [Option.head?_toList]
    · rfl
end

end Node

variable {layout : Node} {filesystemIds smartIds : List String} {filesystemsLeft : Bool}

theorem elim_eq_ok {ε α : Type} {o : Option α} {e : ε} {a : α} :
    (o.elim (.error e) .ok : Except ε α) = .ok a ↔ o = some a := by
  cases o with
  | none => exact ⟨nofun, nofun⟩
  | some b => exact ⟨fun h => congrArg some (Except.ok.inj h), fun h => congrArg _ (Option.some.inj h)⟩

theorem parseViewLayout_eq_storage :
    parseViewLayout layout = .ok (.storage filesystemIds smartIds filesystemsLeft) ↔
      layout.contains "guest_list" = false ∧
        layout.contains "filesystems" = true ∧ layout.contains "smart" = true ∧
        layout.findStringList "filesystems" = some filesystemIds ∧ layout.findStringList "smart" = some smartIds ∧
        layout.columnContains "left" "filesystems" = filesystemsLeft := by
  rw [parseViewLayout]
  split
  · rename_i hguest
    refine iff_of_false ?_ fun h => Bool.false_ne_true (h.1.symm.trans hguest)
    intro h
    obtain ⟨offset, -, h⟩ := Except.bind_eq_ok.mp h
    obtain ⟨limit, -, h⟩ := Except.bind_eq_ok.mp h
    cases h
  · rename_i hguest
    rw [Bool.not_eq_true] at hguest
    split
    · rename_i hboth
      rw [Bool.and_eq_true] at hboth
      constructor
      · intro h
        obtain ⟨filesystemIds, hfilesystems, h⟩ := Except.bind_eq_ok.mp h
        obtain ⟨smartIds, hsmart, h⟩ := Except.bind_eq_ok.mp h
        cases h
        exact ⟨hguest, hboth.1, hboth.2, elim_eq_ok.mp hfilesystems, elim_eq_ok.mp hsmart, rfl⟩
      · rintro ⟨-, -, -, hfilesystems, hsmart, rfl⟩
        rw [hfilesystems, hsmart]
        rfl
    · rename_i hboth
      refine iff_of_false ?_ fun h => hboth (Bool.and_eq_true _ _ ▸ ⟨h.2.1, h.2.2.1⟩)
      intro h
      repeat' split at h
      all_goals cases h

/-- A documented layout keeps its meaning when no id is a word that a layout is recognised by. -/
theorem storageLayout_iff (filesystems smart : List String) :
    (parseViewLayout (Node.columns (Node.filesystemColumn filesystems) (Node.smartColumn smart)) =
        .ok (.storage filesystems smart true) ↔ "guest_list" ∉ filesystems ∧ "guest_list" ∉ smart) ∧
      (parseViewLayout (Node.columns (Node.smartColumn smart) (Node.filesystemColumn filesystems)) =
        .ok (.storage filesystems smart false) ↔
          "guest_list" ∉ filesystems ∧ "guest_list" ∉ smart ∧ "filesystems" ∉ smart) := by
  obtain ⟨hfilesystems, hsmart, hfilesystems', hsmart'⟩ := @Node.findStringList_columns filesystems smart
  rw [parseViewLayout_eq_storage, parseViewLayout_eq_storage]
  rw [hfilesystems, hsmart, hfilesystems', hsmart']
  simp only [← Bool.not_eq_true, Node.columnContains_columns, Node.contains_columns, Node.contains_filesystemColumn,
    Node.contains_smartColumn]
  constructor
  · simp
  · simp only [List.mem_cons, List.not_mem_nil]
    grind

/-- A smart device that is called like the list of file systems turns the columns around. -/
theorem storageLayout_flips :
    ¬∀ filesystems smart : List String, (∀ id ∈ filesystems ++ smart, id ≠ "" ∧ id.toList.all isIdChar) →
      parseViewLayout (Node.columns (Node.filesystemColumn filesystems) (Node.smartColumn smart)) =
          .ok (.storage filesystems smart true) ∧
        parseViewLayout (Node.columns (Node.smartColumn smart) (Node.filesystemColumn filesystems)) =
          .ok (.storage filesystems smart false) := by
  intro hall
  obtain ⟨-, hflipped⟩ := hall ["root"] ["filesystems"] (by decide)
  have hleft := (parseViewLayout_eq_storage.mp hflipped).2.2.2.2.2
  revert hleft
  decide

/-! ### Elements -/

namespace Node
variable {needle : String} {ids : List String}

/-- The list has one entry for each element of the sequence that it comes from. -/
def Listed (layout : Node) (needle : String) (ids : List String) : Prop :=
  ∃ items, (layout.sequences needle).head? = some items ∧ items.map asStr = ids.map some

/-- The sequence has only texts. -/
def Textual (layout : Node) (needle : String) : Prop :=
  ∀ items, (layout.sequences needle).head? = some items → ∀ item ∈ items, item.asStr.isSome

theorem map_asStr_iff {items : List Node} :
    items.map asStr = (items.filterMap asStr).map some ↔ ∀ item ∈ items, item.asStr.isSome := by
  rw [List.map_filterMap_some_eq_filter_map_isSome, eq_comm, List.filter_eq_self, List.forall_mem_map]

theorem listed_iff {layout : Node} (h : layout.findStringList needle = some ids) :
    layout.Listed needle ids ↔ layout.Textual needle := by
  rw [findStringList, findStringList_eq, Option.map_eq_some_iff] at h
  obtain ⟨items, hitems, rfl⟩ := h
  constructor
  · rintro ⟨items', hitems', hmap⟩ items'' hitems''
    obtain rfl := Option.some.inj (hitems.symm.trans hitems')
    obtain rfl := Option.some.inj (hitems.symm.trans hitems'')
    exact map_asStr_iff.mp hmap
  · intro htextual
    exact ⟨items, hitems, map_asStr_iff.mpr (htextual items hitems)⟩

end Node

/-- The lists of a storage view are complete when the layout has only texts in them. -/
theorem storageLists_iff (h : parseViewLayout layout = .ok (.storage filesystemIds smartIds filesystemsLeft)) :
    layout.Listed "filesystems" filesystemIds ∧ layout.Listed "smart" smartIds ↔
      layout.Textual "filesystems" ∧ layout.Textual "smart" := by
  obtain ⟨-, -, -, hfilesystems, hsmart, -⟩ := parseViewLayout_eq_storage.mp h
  exact and_congr (Node.listed_iff hfilesystems) (Node.listed_iff hsmart)

/-- A layout whose second file system has a number for its name. -/
def numberedLayout : Node :=
  .mapping [(.string "columns", .mapping [
    (.string "left", .mapping [(.string "filesystems", .sequence [.string "root", .number (.posInt 5)])]),
    (.string "right", .mapping [(.string "smart", .sequence [.string "root"])])])]

theorem parseViewLayout_numberedLayout : parseViewLayout numberedLayout = .ok (.storage ["root"] ["root"] true) := by
  decide

theorem storageLists_numbered :
    numberedLayout.Listed "filesystems" ["root"] ∧ numberedLayout.Listed "smart" ["root"] ↔
      numberedLayout.Textual "filesystems" ∧ numberedLayout.Textual "smart" :=
  storageLists_iff parseViewLayout_numberedLayout

/-- The number is left out. -/
theorem storageLists_incomplete :
    ¬∀ layout filesystemIds smartIds filesystemsLeft,
      parseViewLayout layout = .ok (.storage filesystemIds smartIds filesystemsLeft) →
        layout.Listed "filesystems" filesystemIds ∧ layout.Listed "smart" smartIds := by
  intro hall
  obtain ⟨⟨items, hitems, hmap⟩, -⟩ := hall _ _ _ _ parseViewLayout_numberedLayout
  obtain rfl : [.string "root", .number (.posInt 5)] = items := Option.some.inj hitems
  cases congrArg List.length hmap

end Servatory
