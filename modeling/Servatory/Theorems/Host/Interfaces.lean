import Mathlib.Data.Finset.Card
import Mathlib.Data.List.Induction
import Mathlib.Data.List.ReduceOption
import Mathlib.Logic.Relation
import Servatory.Host.Interfaces
import Servatory.Lib.Except

/-! Resolving an interface ends, whatever the links are, and leads to an interface that exists and that the links reach:
    every call but the last on a path visits one more of the interfaces. -/

namespace Servatory

namespace Sysfs

/-- One of the three kinds of links leads from an interface to a name. -/
inductive Link (sysfs : Sysfs) (interface : String) : String → Prop
  | activeSlave {directory : Interface} {text : String} (h : sysfs.lookup interface = some directory)
      (htext : directory.activeSlave = some text) : Link sysfs interface (trim text)
  | port {directory : Interface} {ports : List String} {port : String} (h : sysfs.lookup interface = some directory)
      (hports : directory.ports = some ports) (hport : port ∈ ports) : Link sysfs interface port
  | lower {directory : Interface} {lower : String} (h : sysfs.lookup interface = some directory)
      (hlower : "lower_" ++ lower ∈ directory.entries) : Link sysfs interface lower

/-- The links lead there over any number of interfaces. -/
def Reaches (sysfs : Sysfs) : String → String → Prop := Relation.ReflTransGen sysfs.Link

def names (sysfs : Sysfs) : Finset String := (sysfs.map (·.1)).toFinset

/-- How many of the interfaces have not been visited. -/
def unvisited (sysfs : Sysfs) (visited : List String) : Nat := (sysfs.names \ visited.toFinset).card

variable {sysfs : Sysfs} {interface : String} {visited visited' : List String}

theorem unvisited_le : sysfs.unvisited visited ≤ sysfs.length := by
  refine (Finset.card_le_card Finset.sdiff_subset).trans ?_
  rw [names, ← List.length_map (·.1)]
  exact List.toFinset_card_le _

theorem mem_names (h : (sysfs.lookup interface).isSome) : interface ∈ sysfs.names := by
  obtain ⟨directory, hdirectory⟩ := Option.isSome_iff_exists.mp h
  obtain ⟨before, after, hsplit, -⟩ := List.lookup_eq_some_iff.mp hdirectory
  rw [names, List.mem_toFinset, hsplit]
  simp

theorem unvisited_lt (hexists : (sysfs.lookup interface).isSome) (hfresh : interface ∉ visited)
    (hsub : visited ++ [interface] ⊆ visited') : sysfs.unvisited visited' < sysfs.unvisited visited := by
  obtain ⟨hvisited, hinterface⟩ := List.append_subset.mp hsub
  refine Finset.card_lt_card ((Finset.ssubset_iff_of_subset ?_).mpr ⟨interface, ?_, ?_⟩)
  · exact Finset.sdiff_subset_sdiff (Finset.Subset.refl _) fun name hname =>
      List.mem_toFinset.mpr (hvisited (List.mem_toFinset.mp hname))
  · exact Finset.mem_sdiff.mpr ⟨mem_names hexists, fun h => hfresh (List.mem_toFinset.mp h)⟩
  · exact fun h => (Finset.mem_sdiff.mp h).2 (List.mem_toFinset.mpr (hinterface (List.mem_singleton_self _)))

end Sysfs

variable {sysfs : Sysfs} {interface : String} {visited : List String} {resolve resolve' : Resolve}

/-- What a call returns: nothing becomes unvisited, and what it resolves to exists and can be reached. -/
structure Resolved (sysfs : Sysfs) (interface : String) (visited : List String)
    (r : Option String × List String) : Prop where
  grows : visited ⊆ r.2
  sound : ∀ found, r.1 = some found → (sysfs.lookup found).isSome ∧ sysfs.Reaches interface found

/-- The best so far is one of the names so far. -/
theorem mem_of_foldl_best {better : String → String → Bool} {l : List String} {best : String}
    (h : l.foldl (fun best a => if best.all (better · a) then some a else best) none = some best) : best ∈ l := by
  induction l using List.reverseRecOn with
  | nil => cases h
  | append_singleton l a ih =>
    rw [List.foldl_concat] at h
    split at h
    · rw [Option.some.inj h]
      exact List.mem_concat_self
    · exact List.mem_append_left _ (ih h)

theorem mem_of_bestPort {candidates : List String} {best : String} (h : bestPort sysfs candidates = some best) :
    best ∈ candidates :=
  List.mem_mergeSort.mp (mem_of_foldl_best h)

theorem mem_of_lowerDevice {entries : List String} {lower : String} (h : lowerDevice entries = some lower) :
    "lower_" ++ lower ∈ entries := by
  obtain ⟨entry, hentry, rfl⟩ := Option.map_eq_some_iff.mp h
  have hstart := List.find?_some hentry
  obtain ⟨rest, hrest⟩ := List.isPrefixOf_iff_prefix.mp hstart
  have heq : "lower_" ++ String.ofList (entry.toList.drop "lower_".length) = entry := by
    apply String.toList_injective
    rw [String.toList_append, @String.toList_ofList (entry.toList.drop "lower_".length), ← hrest]
    rfl
  rw [heq]
  exact List.mem_of_find?_eq_some hentry

theorem Resolved.of_link {linked : String} {r : Option String × List String} (hlink : sysfs.Link interface linked)
    (h : Resolved sysfs linked visited r) : Resolved sysfs interface visited r := by
  refine ⟨h.grows, fun found hfound => ?_⟩
  obtain ⟨hexists, hreaches⟩ := h.sound found hfound
  exact ⟨hexists, hreaches.head hlink⟩

theorem follow_resolved {link : Option String} (hlink : ∀ linked, link = some linked → sysfs.Link interface linked)
    (h : ∀ linked, ∃ r, resolve linked visited = some r ∧ Resolved sysfs linked visited r) :
    ∃ r, resolve.follow link visited = some r ∧ Resolved sysfs interface visited r := by
  cases link with
  | none => exact ⟨_, rfl, List.Subset.refl _, nofun⟩
  | some linked =>
    obtain ⟨r, hr, hresolved⟩ := h linked
    exact ⟨r, hr, hresolved.of_link (hlink linked rfl)⟩

theorem pick_resolved {ports : List String} (hports : ∀ port ∈ ports, sysfs.Link interface port)
    (h : ∀ port, ∃ r, resolve port visited = some r ∧ Resolved sysfs port visited r) :
    ∃ r, resolve.pick sysfs ports visited = some r ∧ Resolved sysfs interface visited r := by
  choose r hr hresolved using h
  have hcandidates : ports.mapM (fun port => (resolve port visited).map (·.1)) =
      some (ports.map fun port => (r port).1) :=
    Option.mapM_eq_some_map fun port _ => by rw [hr, Option.map_some]
  refine ⟨(bestPort sysfs (ports.map fun port => (r port).1).reduceOption, visited), ?_, List.Subset.refl _, ?_⟩
  · rw [Resolve.pick, hcandidates]
    rfl
  · intro found hfound
    obtain ⟨port, hport, hfound⟩ := List.mem_map.mp (List.reduceOption_mem_iff.mp (mem_of_bestPort hfound))
    exact ((hresolved port).of_link (hports port hport)).sound found hfound

/-- A call returns when the calls for the names that it can link to do. -/
theorem resolveStep_resolved
    (h : interface ∉ visited → (sysfs.lookup interface).isSome → ∀ linked visited', visited ++ [interface] ⊆ visited' →
      ∃ r, resolve linked visited' = some r ∧ Resolved sysfs linked visited' r) :
    ∃ r, resolveStep sysfs resolve interface visited = some r ∧ Resolved sysfs interface visited r := by
  by_cases hfresh : visited.contains interface = true
  · exact ⟨_, if_pos hfresh, List.Subset.refl _, nofun⟩
  have hgrows : visited ⊆ visited ++ [interface] := List.subset_append_left _ _
  rw [resolveStep, if_neg hfresh]
  cases hlookup : sysfs.lookup interface with
  | none => exact ⟨_, rfl, hgrows, nofun⟩
  | some directory =>
    have hcalls := h (fun hmem => hfresh (List.contains_iff_mem.mpr hmem)) (hlookup ▸ rfl)
    have hslave : ∀ slave, (directory.activeSlave.map trim).filter (!·.isEmpty) = some slave →
        sysfs.Link interface slave := by
      intro slave hslave
      obtain ⟨text, htext, rfl⟩ := Option.map_eq_some_iff.mp (Option.filter_eq_some_iff.mp hslave).1
      exact .activeSlave hlookup htext
    obtain ⟨⟨resolved, visited'⟩, hr, hresolved⟩ :=
      follow_resolved hslave fun linked => hcalls linked _ (List.Subset.refl _)
    have hgrows' := List.Subset.trans hgrows hresolved.grows
    simp only [Option.bind_eq_bind, hr, Option.bind_some]
    by_cases hsome : resolved.isSome = true
    · rw [if_pos hsome]
      exact ⟨_, rfl, hgrows', hresolved.sound⟩
    rw [if_neg hsome]
    cases hports : directory.ports with
    | some ports =>
      obtain ⟨r, hr, hresolved'⟩ := pick_resolved (fun port hport => .port hlookup hports hport)
        fun port => hcalls port visited' hresolved.grows
      exact ⟨r, hr, List.Subset.trans hgrows' hresolved'.grows, hresolved'.sound⟩
    | none =>
      obtain ⟨⟨resolved', visited''⟩, hr, hresolved'⟩ := follow_resolved
        (fun lower hlower => .lower hlookup (mem_of_lowerDevice hlower)) fun linked => hcalls linked visited' hresolved.grows
      refine ⟨(resolved'.or (some interface), visited''), ?_, List.Subset.trans hgrows' hresolved'.grows, ?_⟩
      · dsimp only
        rw [hr]
        rfl
      · intro found hfound
        rcases Option.or_eq_some_iff.mp hfound with hfound | ⟨-, hfound⟩
        · exact hresolved'.sound found hfound
        · rw [← Option.some.inj hfound, hlookup]
          exact ⟨rfl, .refl⟩

/-- As much fuel as there are unvisited interfaces, and one more, is enough. -/
theorem resolveInterface_resolved {fuel : Nat} (h : sysfs.unvisited visited < fuel) :
    ∃ r, resolveInterface sysfs fuel interface visited = some r ∧ Resolved sysfs interface visited r := by
  induction fuel generalizing interface visited with
  | zero => exact absurd h (Nat.not_lt_zero _)
  | succ fuel ih =>
    refine resolveStep_resolved fun hfresh hexists linked visited' hsub => ih ?_
    have hlt := Sysfs.unvisited_lt hexists hfresh hsub
    omega

section
variable (h : ∀ linked visited r, resolve linked visited = some r → resolve' linked visited = some r)
  {r : Option String × List String}
include h

theorem follow_mono {link : Option String} (hr : resolve.follow link visited = some r) :
    resolve'.follow link visited = some r := by
  cases link with
  | none => exact hr
  | some linked => exact h _ _ _ hr

theorem pick_mono {ports : List String} (hr : resolve.pick sysfs ports visited = some r) :
    resolve'.pick sysfs ports visited = some r := by
  obtain ⟨candidates, hcandidates, hr⟩ := Option.bind_eq_some_iff.mp hr
  have hcandidates' : ports.mapM (fun port => (resolve' port visited).map (·.1)) = some candidates := by
    refine Option.mapM_mono (fun port found hfound => ?_) hcandidates
    obtain ⟨r', hr', rfl⟩ := Option.map_eq_some_iff.mp hfound
    rw [h _ _ _ hr', Option.map_some]
  rw [Resolve.pick, hcandidates']
  exact hr

/-- What the calls return with less fuel they return with more. -/
theorem resolveStep_mono (hr : resolveStep sysfs resolve interface visited = some r) :
    resolveStep sysfs resolve' interface visited = some r := by
  rw [resolveStep] at hr ⊢
  split
  · rename_i hseen
    rwa [if_pos hseen] at hr
  rename_i hfresh
  rw [if_neg hfresh] at hr
  cases hlookup : sysfs.lookup interface with
  | none =>
    rw [hlookup] at hr
    exact hr
  | some directory =>
    rw [hlookup] at hr
    obtain ⟨⟨resolved, visited'⟩, hslave, hr⟩ := Option.bind_eq_some_iff.mp hr
    dsimp only at hr ⊢
    rw [follow_mono h hslave, Option.bind_eq_bind, Option.bind_some]
    dsimp only
    split
    · rename_i hsome
      rwa [if_pos hsome] at hr
    rename_i hnone
    rw [if_neg hnone] at hr
    cases hports : directory.ports with
    | some ports =>
      rw [hports] at hr
      exact pick_mono h hr
    | none =>
      rw [hports] at hr
      obtain ⟨resolved', hlower, hr⟩ := Option.bind_eq_some_iff.mp hr
      dsimp only at hr ⊢
      rw [follow_mono h hlower]
      exact hr

end

theorem resolveInterface_mono {fuel fuel' : Nat} (hle : fuel ≤ fuel') {r : Option String × List String}
    (hr : resolveInterface sysfs fuel interface visited = some r) :
    resolveInterface sysfs fuel' interface visited = some r := by
  induction fuel generalizing fuel' interface visited r with
  | zero => cases hr
  | succ fuel ih =>
    obtain ⟨fuel', rfl⟩ := Nat.exists_eq_succ_of_ne_zero (Nat.ne_of_gt (Nat.lt_of_lt_of_le (Nat.succ_pos _) hle))
    exact resolveStep_mono (fun _ _ _ => ih (Nat.le_of_succ_le_succ hle)) hr

/-- Resolving an interface ends: more calls deep than there are interfaces are never made. What it returns exists and is
    reached over the links. -/
theorem resolvePhysicalInterface_sound (sysfs : Sysfs) (routed : String) :
    ∃ resolved, (∀ fuel, sysfs.length < fuel → resolvePhysicalInterface sysfs fuel routed = some resolved) ∧
      ∀ found, resolved = some found → (sysfs.lookup found).isSome ∧ sysfs.Reaches routed found := by
  obtain ⟨r, hr, hresolved⟩ := @resolveInterface_resolved sysfs routed [] (sysfs.length + 1)
    (Nat.lt_succ_of_le Sysfs.unvisited_le)
  refine ⟨r.1, fun fuel hfuel => ?_, hresolved.sound⟩
  rw [resolvePhysicalInterface, resolveInterface_mono hfuel hr, Option.map_some]

end Servatory
