import Mathlib.Data.Prod.Lex
import Mathlib.Data.String.Basic
import Servatory.Theorems.Host.Interfaces

/-! What a call to resolve an interface does, apart from the order of the directories: it takes the best of the ports of a
    bridge, and any of the lower devices. -/

namespace Servatory

/-! ### The best port -/

/-- What decides between two ports, their names last. -/
def portRank (sysfs : Sysfs) (name : String) : Bool ×ₗ Bool ×ₗ ℕ ×ₗ String :=
  let key := portKey sysfs name
  toLex (key.1, toLex (key.2.1, toLex (key.2.2, name)))

theorem portRank_injective (sysfs : Sysfs) : Function.Injective (portRank sysfs) := by
  intro a b h
  exact (Prod.ext_iff.mp (toLex.injective (Prod.ext_iff.mp (toLex.injective (Prod.ext_iff.mp
    (toLex.injective h)).2)).2)).2

theorem portRank_le (sysfs : Sysfs) (a b : String) : portRank sysfs a ≤ portRank sysfs b ↔
    portKeyLe (portKey sysfs a) (portKey sysfs b) ∧ (portKeyLe (portKey sysfs b) (portKey sysfs a) → a ≤ b) := by
  rw [portRank, portRank]
  generalize portKey sysfs a = ka
  generalize portKey sysfs b = kb
  obtain ⟨a₁, a₂, a₃⟩ := ka
  obtain ⟨b₁, b₂, b₃⟩ := kb
  simp only [Prod.Lex.toLex_le_toLex, portKeyLe]
  cases a₁ <;> cases b₁ <;> cases a₂ <;> cases b₂ <;> simp <;> grind

variable {sysfs sysfs' : Sysfs} {candidates : List String} {best : String}

theorem foldl_best_ne_none {better : String → String → Bool} {l : List String} (hne : l ≠ []) :
    l.foldl (fun best a => if best.all (better · a) then some a else best) none ≠ none := by
  induction l using List.reverseRecOn with
  | nil => exact absurd rfl hne
  | append_singleton l a ih =>
    rw [List.foldl_concat]
    split
    · exact Option.some_ne_none a
    · rename_i hnot
      exact fun hnone => hnot (by rw [hnone]; rfl)

/-- Among names in their order, the best so far is no worse than any. -/
theorem rank_le_of_foldl_best {l : List String} (hsorted : l.Pairwise (· ≤ ·))
    (h : l.foldl (fun best a => if best.all fun b => portKeyLe (portKey sysfs b) (portKey sysfs a) then some a else best)
      none = some best) : ∀ a ∈ l, portRank sysfs a ≤ portRank sysfs best := by
  induction l using List.reverseRecOn generalizing best with
  | nil => exact fun _ => nofun
  | append_singleton l a ih =>
    obtain ⟨hl, -, hlast⟩ := List.pairwise_append.mp hsorted
    rw [List.foldl_concat] at h
    cases hprior : l.foldl (fun best a => if best.all fun b => portKeyLe (portKey sysfs b) (portKey sysfs a)
      then some a else best) none with
    | none =>
      have hnil : l = [] := by
        by_contra hne
        exact foldl_best_ne_none hne hprior
      rw [hprior] at h
      cases h
      rw [hnil, List.nil_append]
      exact List.forall_mem_singleton.mpr le_rfl
    | some b =>
      have hb := ih hl hprior
      have hba : b ≤ a := hlast b (mem_of_foldl_best hprior) a (List.mem_singleton_self a)
      rw [hprior, Option.all_some] at h
      split at h
      · rename_i hkey
        cases h
        have hle : portRank sysfs b ≤ portRank sysfs a := (portRank_le sysfs b a).mpr ⟨hkey, fun _ => hba⟩
        rw [List.forall_mem_append]
        exact ⟨fun c hc => (hb c hc).trans hle, List.forall_mem_singleton.mpr le_rfl⟩
      · rename_i hkey
        obtain rfl : b = best := Option.some.inj h
        have hle : ¬portRank sysfs b ≤ portRank sysfs a := fun hle => hkey ((portRank_le sysfs b a).mp hle).1
        rw [List.forall_mem_append]
        exact ⟨hb, List.forall_mem_singleton.mpr (le_of_not_ge hle)⟩

theorem bestPort_eq_none : bestPort sysfs candidates = none ↔ candidates = [] := by
  constructor
  · intro h
    by_contra hne
    have hsorted : candidates.mergeSort (fun a b => decide (a ≤ b)) ≠ [] := fun hnil =>
      hne (List.length_eq_zero_iff.mp (by rw [← List.length_mergeSort, hnil, List.length_nil]))
    exact foldl_best_ne_none hsorted h
  · rintro rfl
    rw [bestPort, List.mergeSort_nil]
    rfl

/-- The order of the candidates makes no difference. -/
theorem bestPort_eq_some : bestPort sysfs candidates = some best ↔
    best ∈ candidates ∧ ∀ a ∈ candidates, portRank sysfs a ≤ portRank sysfs best := by
  have hrank : ∀ {b}, bestPort sysfs candidates = some b → ∀ a ∈ candidates, portRank sysfs a ≤ portRank sysfs b := by
    intro b hb a ha
    have hsorted : (candidates.mergeSort fun a b => decide (a ≤ b)).Pairwise (· ≤ ·) := by
      refine (List.pairwise_mergeSort ?_ ?_ candidates).imp fun h => of_decide_eq_true h
      · exact fun a b c hab hbc => decide_eq_true ((of_decide_eq_true hab).trans (of_decide_eq_true hbc))
      · intro a b
        rw [Bool.or_eq_true, decide_eq_true_eq, decide_eq_true_eq]
        exact le_total a b
    exact rank_le_of_foldl_best hsorted hb a (List.mem_mergeSort.mpr ha)
  constructor
  · exact fun h => ⟨mem_of_bestPort h, hrank h⟩
  · rintro ⟨hmem, hle⟩
    cases hbest : bestPort sysfs candidates with
    | none => rw [bestPort_eq_none.mp hbest] at hmem; cases hmem
    | some b =>
      have heq := le_antisymm (hle b (mem_of_bestPort hbest)) (hrank hbest best hmem)
      rw [portRank_injective sysfs heq]

theorem mem_results {ports : List String} {results : String → Option String} {found : String} :
    found ∈ (ports.map results).reduceOption ↔ ∃ port ∈ ports, results port = some found := by
  rw [List.reduceOption_mem_iff, List.mem_map]

theorem best_eq_none {ports : List String} {results : String → Option String} :
    bestPort sysfs (ports.map results).reduceOption = none ↔ ∀ port ∈ ports, results port = none := by
  rw [bestPort_eq_none, List.eq_nil_iff_forall_not_mem]
  constructor
  · intro h port hport
    exact Option.eq_none_iff_forall_ne_some.mpr fun found hfound => h found (mem_results.mpr ⟨port, hport, hfound⟩)
  · intro h found hfound
    obtain ⟨port, hport, hresult⟩ := mem_results.mp hfound
    rw [h port hport] at hresult
    cases hresult

/-- The best of what some ports lead to. -/
theorem best_eq_some {ports : List String} {results : String → Option String} :
    bestPort sysfs (ports.map results).reduceOption = some best ↔ (∃ port ∈ ports, results port = some best) ∧
      ∀ port ∈ ports, ∀ found, results port = some found → portRank sysfs found ≤ portRank sysfs best := by
  rw [bestPort_eq_some, mem_results]
  refine and_congr_right fun _ => ⟨fun h port hport found hfound => ?_, fun h found hfound => ?_⟩
  · exact h found (mem_results.mpr ⟨port, hport, hfound⟩)
  · obtain ⟨port, hport, hresult⟩ := mem_results.mp hfound
    exact h port hport found hresult

/-! ### One call -/

def Interface.slave (directory : Interface) : Option String := (directory.activeSlave.map trim).filter (!·.isEmpty)

variable {resolve : Resolve} {interface : String} {visited : List String} {directory : Interface}
  {r : Option String × List String}

/-- A call gets past the slave of a bond, which leads nowhere, with what it has visited on the way. -/
structure Passes (sysfs : Sysfs) (resolve : Resolve) (interface : String) (visited : List String) (directory : Interface)
    (visited' : List String) : Prop where
  fresh : interface ∉ visited
  lookup : sysfs.lookup interface = some directory
  slave : resolve.follow directory.slave (visited ++ [interface]) = some (none, visited')

/-- What one call does. -/
inductive ResolveStep (sysfs : Sysfs) (resolve : Resolve) (interface : String) (visited : List String) :
    Option String × List String → Prop
  | visited (h : interface ∈ visited) : ResolveStep sysfs resolve interface visited (none, visited)
  | missing (h : interface ∉ visited) (hlookup : sysfs.lookup interface = none) :
      ResolveStep sysfs resolve interface visited (none, visited ++ [interface])
  | slave {directory : Interface} {slave found : String} {visited' : List String} (h : interface ∉ visited)
      (hlookup : sysfs.lookup interface = some directory) (hslave : directory.slave = some slave)
      (hresolve : resolve slave (visited ++ [interface]) = some (some found, visited')) :
      ResolveStep sysfs resolve interface visited (some found, visited')
  | ports {directory : Interface} {visited' ports : List String} {results : String → Option String}
      (h : Passes sysfs resolve interface visited directory visited') (hports : directory.ports = some ports)
      (hresults : ∀ port ∈ ports, ∃ w, resolve port visited' = some (results port, w)) :
      ResolveStep sysfs resolve interface visited (bestPort sysfs (ports.map results).reduceOption, visited')
  | lower {directory : Interface} {visited' visited'' : List String} {lower : String} {found : Option String}
      (h : Passes sysfs resolve interface visited directory visited') (hports : directory.ports = none)
      (hlower : lowerDevice directory.entries = some lower) (hresolve : resolve lower visited' = some (found, visited'')) :
      ResolveStep sysfs resolve interface visited (found.or (some interface), visited'')
  | self {directory : Interface} {visited' : List String}
      (h : Passes sysfs resolve interface visited directory visited') (hports : directory.ports = none)
      (hlower : lowerDevice directory.entries = none) :
      ResolveStep sysfs resolve interface visited (some interface, visited')

theorem pick_cases {ports : List String} (hr : resolve.pick sysfs ports visited = some r) :
    ∃ results : String → Option String, (∀ port ∈ ports, ∃ w, resolve port visited = some (results port, w)) ∧
      r = (bestPort sysfs (ports.map results).reduceOption, visited) := by
  obtain ⟨candidates, hcandidates, hr⟩ := Option.bind_eq_some_iff.mp hr
  have hall := Option.exists_of_mapM hcandidates
  have hresults : ∀ port ∈ ports, ∃ w, resolve port visited = some (((resolve port visited).bind (·.1)), w) := by
    intro port hport
    obtain ⟨_, hfound⟩ := hall port hport
    obtain ⟨⟨found, w⟩, hcall, -⟩ := Option.map_eq_some_iff.mp hfound
    exact ⟨w, by rw [hcall]; rfl⟩
  refine ⟨fun port => (resolve port visited).bind (·.1), hresults, ?_⟩
  rw [Option.mapM_eq_some_map (g := fun port => (resolve port visited).bind (·.1)) fun port hport => by
    obtain ⟨w, hw⟩ := hresults port hport
    rw [hw]
    rfl] at hcandidates
  rw [← Option.some.inj hr, ← Option.some.inj hcandidates]

theorem resolveStep_cases (hr : resolveStep sysfs resolve interface visited = some r) :
    ResolveStep sysfs resolve interface visited r := by
  rw [resolveStep] at hr
  split at hr
  · rename_i hseen
    cases hr
    exact .visited (List.contains_iff_mem.mp hseen)
  rename_i hfresh
  have hfresh : interface ∉ visited := fun hmem => hfresh (List.contains_iff_mem.mpr hmem)
  cases hlookup : sysfs.lookup interface with
  | none =>
    rw [hlookup] at hr
    cases hr
    exact .missing hfresh hlookup
  | some directory =>
    rw [hlookup] at hr
    obtain ⟨⟨resolved, visited'⟩, hslave, hr⟩ := Option.bind_eq_some_iff.mp hr
    dsimp only at hr
    cases resolved with
    | some found =>
      cases hr
      cases hlink : directory.slave with
      | none =>
        rw [← Interface.slave, hlink] at hslave
        cases hslave
      | some slave =>
        rw [← Interface.slave, hlink] at hslave
        exact .slave hfresh hlookup hlink hslave
    | none =>
      have hpasses : Passes sysfs resolve interface visited directory visited' := ⟨hfresh, hlookup, hslave⟩
      rw [if_neg (by decide)] at hr
      cases hports : directory.ports with
      | some ports =>
        rw [hports] at hr
        obtain ⟨results, hresults, rfl⟩ := pick_cases hr
        exact .ports hpasses hports hresults
      | none =>
        rw [hports] at hr
        obtain ⟨⟨found, visited''⟩, hcall, hr⟩ := Option.bind_eq_some_iff.mp hr
        cases hr
        cases hlower : lowerDevice directory.entries with
        | some lower =>
          rw [hlower] at hcall
          exact .lower hpasses hports hlower hcall
        | none =>
          rw [hlower] at hcall
          cases hcall
          exact .self hpasses hports hlower

theorem resolveStep_of (h : ResolveStep sysfs resolve interface visited r) :
    resolveStep sysfs resolve interface visited = some r := by
  have hnot : interface ∉ visited → ¬visited.contains interface = true := fun h hc => h (List.contains_iff_mem.mp hc)
  cases h with
  | visited h => exact if_pos (List.contains_iff_mem.mpr h)
  | missing h hlookup => rw [resolveStep, if_neg (hnot h), hlookup]
  | slave h hlookup hslave hresolve =>
    rw [resolveStep, if_neg (hnot h), hlookup]
    dsimp only
    rw [← Interface.slave, hslave, Resolve.follow, Option.elim_some, hresolve]
    rfl
  | @ports directory visited' ports results h hports hresults =>
    have hpick : resolve.pick sysfs ports visited' = some (bestPort sysfs (ports.map results).reduceOption, visited') := by
      rw [Resolve.pick, Option.mapM_eq_some_map (g := results) fun port hport => by
        obtain ⟨w, hw⟩ := hresults port hport
        rw [hw]
        rfl]
      rfl
    rw [resolveStep, if_neg (hnot h.fresh), h.lookup]
    dsimp only
    rw [← Interface.slave, h.slave, Option.bind_eq_bind, Option.bind_some, hports]
    exact hpick
  | lower h hports hlower hresolve =>
    rw [resolveStep, if_neg (hnot h.fresh), h.lookup]
    dsimp only
    rw [← Interface.slave, h.slave, Option.bind_eq_bind, Option.bind_some, hports, hlower, Resolve.follow,
      Option.elim_some, hresolve]
    rfl
  | self h hports hlower =>
    rw [resolveStep, if_neg (hnot h.fresh), h.lookup]
    dsimp only
    rw [← Interface.slave, h.slave, Option.bind_eq_bind, Option.bind_some, hports, hlower]
    rfl

/-! ### Other orders -/

variable {directory' : Interface}

theorem Interface.Reordered.refl (directory : Interface) : directory.Reordered directory := by
  refine .mk ?_ (List.Perm.refl directory.entries)
  cases directory.ports with
  | none => exact .none
  | some ports => exact .some (List.Perm.refl ports)

theorem Interface.Reordered.slave (h : directory.Reordered directory') : directory'.slave = directory.slave := by
  cases h
  rfl

theorem Interface.Reordered.mem_entries (h : directory.Reordered directory') {entry : String} :
    entry ∈ directory'.entries ↔ entry ∈ directory.entries := by
  cases h with
  | mk hports hentries => exact hentries.mem_iff.symm

theorem Interface.Reordered.ports_some (h : directory.Reordered directory') {ports' : List String}
    (hports : directory'.ports = some ports') : ∃ ports, directory.ports = some ports ∧ ports.Perm ports' := by
  cases h with
  | mk hrel hentries =>
    obtain rfl := hports
    generalize directory.ports = ports at hrel
    cases hrel with
    | some hperm => exact ⟨_, rfl, hperm⟩

theorem Interface.Reordered.ports_none (h : directory.Reordered directory') (hports : directory'.ports = none) :
    directory.ports = none := by
  cases h with
  | mk hrel hentries =>
    obtain rfl := hports
    generalize directory.ports = ports at hrel
    cases hrel with
    | none => rfl

namespace Sysfs

theorem Reordered.refl (sysfs : Sysfs) : sysfs.Reordered sysfs := by
  intro name
  cases sysfs.lookup name with
  | none => exact .none
  | some directory => exact .some (.refl directory)

theorem Reordered.cons {name : String} (hdirectory : directory.Reordered directory') (h : sysfs.Reordered sysfs') :
    Reordered ((name, directory) :: sysfs) ((name, directory') :: sysfs') := by
  intro other
  rw [List.lookup_cons, List.lookup_cons]
  cases other == name
  · exact h other
  · exact .some hdirectory

theorem Reordered.lookup_some (h : sysfs.Reordered sysfs') {name : String} (hlookup : sysfs.lookup name = some directory) :
    ∃ directory', sysfs'.lookup name = some directory' ∧ directory.Reordered directory' := by
  have hname := h name
  rw [hlookup] at hname
  cases hlookup' : sysfs'.lookup name with
  | none => rw [hlookup'] at hname; cases hname
  | some directory' =>
    rw [hlookup'] at hname
    cases hname with
    | some hdirectory => exact ⟨directory', rfl, hdirectory⟩

theorem Reordered.lookup_none (h : sysfs.Reordered sysfs') {name : String} (hlookup : sysfs.lookup name = none) :
    sysfs'.lookup name = none := by
  have hname := h name
  rw [hlookup] at hname
  cases hlookup' : sysfs'.lookup name with
  | none => rfl
  | some directory' => rw [hlookup'] at hname; cases hname

theorem Reordered.portRank (h : sysfs.Reordered sysfs') (name : String) :
    Servatory.portRank sysfs' name = Servatory.portRank sysfs name := by
  have hkey : portKey sysfs' name = portKey sysfs name := by
    cases hlookup : sysfs.lookup name with
    | none => rw [portKey, portKey, readLink, readLink, hlookup, h.lookup_none hlookup]
    | some directory =>
      obtain ⟨directory', hlookup', hdirectory⟩ := h.lookup_some hlookup
      rw [portKey, portKey, readLink, readLink, hlookup, hlookup']
      cases hdirectory
      rfl
  rw [Servatory.portRank, hkey]
  rfl

/-! ### What a call returns -/

variable {found : String} {visited' : List String}

theorem startsWith_lower (lower : String) : startsWith ("lower_" ++ lower) "lower_" := by
  rw [startsWith, String.toList_append]
  exact List.isPrefixOf_iff_prefix.mpr (List.prefix_append _ _)

theorem lowerDevice_eq_none {entries : List String} (h : lowerDevice entries = none) (lower : String) :
    "lower_" ++ lower ∉ entries := fun hmem =>
  List.find?_eq_none.mp (Option.map_eq_none_iff.mp h) _ hmem (startsWith_lower lower)

/-- Every lower device is named by the first entry in some order. -/
theorem exists_lowerDevice {entries : List String} {lower : String} (h : "lower_" ++ lower ∈ entries) :
    ∃ entries', entries.Perm entries' ∧ lowerDevice entries' = some lower := by
  refine ⟨("lower_" ++ lower) :: entries.erase ("lower_" ++ lower), List.perm_cons_erase h, ?_⟩
  rw [lowerDevice, List.find?_cons_of_pos (p := (startsWith · "lower_")) (startsWith_lower lower), Option.map_some,
    String.toList_append]
  exact congrArg some (String.ofList_toList)

/-- What a run in one order returns can be returned. -/
theorem Reordered.returns (h : sysfs.Reordered sysfs') {fuel : Nat}
    (hr : resolveInterface sysfs' fuel interface visited = some r) : sysfs.Returns interface visited r := by
  induction fuel generalizing interface visited r with
  | zero => cases hr
  | succ fuel ih => exact .call h (fun _ _ _ hr => ih hr) hr

theorem exists_returns (sysfs : Sysfs) (interface : String) (visited : List String) :
    ∃ r, sysfs.Returns interface visited r := by
  obtain ⟨r, hr, -⟩ := @resolveInterface_resolved sysfs interface visited _ (Nat.lt_succ_self _)
  exact ⟨r, (Reordered.refl sysfs).returns hr⟩

/-- A call gets past the slave of a bond. `returns` says what the calls that it makes return. -/
structure Passed (returns : String → List String → Option String × List String → Prop) (interface : String)
    (visited : List String) (directory : Interface) (visited' : List String) : Prop where
  direct : directory.slave = none → visited' = visited ++ [interface]
  slave : ∀ slave, directory.slave = some slave → returns slave (visited ++ [interface]) (none, visited')

/-- What a call returns for an interface that it has not visited, whatever the order: the best of the ports, or any of the
    lower devices. -/
inductive Choice (sysfs : Sysfs) (returns : String → List String → Option String × List String → Prop)
    (interface : String) (visited : List String) (directory : Interface) : Option String × List String → Prop
  | slave {slave found : String} {visited' : List String} (hslave : directory.slave = some slave)
      (hreturns : returns slave (visited ++ [interface]) (some found, visited')) :
      Choice sysfs returns interface visited directory (some found, visited')
  | ports {visited' ports : List String} {results : String → Option String} {best : Option String}
      (h : Passed returns interface visited directory visited') (hports : directory.ports = some ports)
      (hresults : ∀ port ∈ ports, ∃ w, returns port visited' (results port, w))
      (hbest : best = bestPort sysfs (ports.map results).reduceOption) :
      Choice sysfs returns interface visited directory (best, visited')
  | lower {visited' visited'' : List String} {lower : String} {found : Option String}
      (h : Passed returns interface visited directory visited') (hports : directory.ports = none)
      (hlower : "lower_" ++ lower ∈ directory.entries) (hreturns : returns lower visited' (found, visited'')) :
      Choice sysfs returns interface visited directory (found.or (some interface), visited'')
  | self {visited' : List String} (h : Passed returns interface visited directory visited') (hports : directory.ports = none)
      (hlower : ∀ lower, "lower_" ++ lower ∉ directory.entries) :
      Choice sysfs returns interface visited directory (some interface, visited')

variable {returns : String → List String → Option String × List String → Prop}

theorem Passed.eq {visited'' : List String} (h : Passed returns interface visited directory visited'')
    (hnone : directory.slave = none → visited' = visited ++ [interface])
    (hslave : ∀ slave, directory.slave = some slave → ∀ w, returns slave (visited ++ [interface]) (none, w) →
      w = visited') : visited'' = visited' := by
  cases hlink : directory.slave with
  | none => rw [h.direct hlink, hnone hlink]
  | some slave => exact hslave slave hlink visited'' (h.slave slave hlink)

theorem Reordered.passed (hdirectory : directory.Reordered directory')
    (hcalls : ∀ name visited r, resolve name visited = some r → returns name visited r)
    (h : Passes sysfs' resolve interface visited directory' visited') : Passed returns interface visited directory visited' := by
  have hfollow := h.slave
  rw [hdirectory.slave] at hfollow
  refine ⟨fun hnone => ?_, fun slave hslave => ?_⟩
  · rw [hnone] at hfollow
    cases hfollow
    rfl
  · rw [hslave] at hfollow
    exact hcalls slave _ _ hfollow

theorem Reordered.bestPort (h : sysfs.Reordered sysfs') {candidates candidates' : List String}
    (hmem : ∀ c, c ∈ candidates ↔ c ∈ candidates') :
    Servatory.bestPort sysfs' candidates' = Servatory.bestPort sysfs candidates := by
  cases hbest : Servatory.bestPort sysfs candidates with
  | none =>
    rw [bestPort_eq_none] at hbest ⊢
    rw [hbest] at hmem
    exact List.eq_nil_iff_forall_not_mem.mpr fun c hc => List.not_mem_nil ((hmem c).mpr hc)
  | some best =>
    rw [bestPort_eq_some] at hbest ⊢
    refine ⟨(hmem best).mp hbest.1, fun c hc => ?_⟩
    rw [h.portRank, h.portRank]
    exact hbest.2 c ((hmem c).mpr hc)

theorem step_of_mem (h : ResolveStep sysfs' resolve interface visited r) (hseen : interface ∈ visited) :
    r = (none, visited) := by
  cases h with
  | visited => rfl
  | missing hfresh => exact absurd hseen hfresh
  | slave hfresh => exact absurd hseen hfresh
  | ports hpasses => exact absurd hseen hpasses.fresh
  | lower hpasses => exact absurd hseen hpasses.fresh
  | self hpasses => exact absurd hseen hpasses.fresh

theorem Reordered.step_of_missing (hread : sysfs.Reordered sysfs') (h : ResolveStep sysfs' resolve interface visited r)
    (hfresh : interface ∉ visited) (hlookup : sysfs.lookup interface = none) : r = (none, visited ++ [interface]) := by
  have hmissing : ∀ {directory}, sysfs'.lookup interface = some directory → False := fun hsome => by
    rw [hread.lookup_none hlookup] at hsome
    cases hsome
  cases h with
  | visited hseen => exact absurd hseen hfresh
  | missing => rfl
  | slave _ hlookup => exact (hmissing hlookup).elim
  | ports hpasses => exact (hmissing hpasses.lookup).elim
  | lower hpasses => exact (hmissing hpasses.lookup).elim
  | self hpasses => exact (hmissing hpasses.lookup).elim

theorem Reordered.choice (hread : sysfs.Reordered sysfs') (h : ResolveStep sysfs' resolve interface visited r)
    (hcalls : ∀ name visited r, resolve name visited = some r → returns name visited r)
    (hfresh : interface ∉ visited) (hlookup : sysfs.lookup interface = some directory) :
    sysfs.Choice returns interface visited directory r := by
  obtain ⟨directory', hlookup', hdirectory⟩ := hread.lookup_some hlookup
  have hsame : ∀ {other}, sysfs'.lookup interface = some other → other = directory' := fun hother =>
    Option.some.inj (hother.symm.trans hlookup')
  cases h with
  | visited hseen => exact absurd hseen hfresh
  | missing _ hmissing => rw [hlookup'] at hmissing; cases hmissing
  | slave _ hother hslave hresolve =>
    obtain rfl := hsame hother
    exact .slave (hdirectory.slave ▸ hslave) (hcalls _ _ _ hresolve)
  | @ports _ _ _ results hpasses hports hresults =>
    obtain rfl := hsame hpasses.lookup
    obtain ⟨ports, hbase, hperm⟩ := hdirectory.ports_some hports
    refine .ports (Reordered.passed hdirectory hcalls hpasses) hbase (fun port hport => ?_)
      (hread.bestPort fun c => ((hperm.map results).filterMap id).mem_iff)
    obtain ⟨w, hw⟩ := hresults port (hperm.mem_iff.mp hport)
    exact ⟨w, hcalls _ _ _ hw⟩
  | lower hpasses hports hlower hresolve =>
    obtain rfl := hsame hpasses.lookup
    exact .lower (Reordered.passed hdirectory hcalls hpasses) (hdirectory.ports_none hports)
      (hdirectory.mem_entries.mp (mem_of_lowerDevice hlower)) (hcalls _ _ _ hresolve)
  | self hpasses hports hlower =>
    obtain rfl := hsame hpasses.lookup
    exact .self (Reordered.passed hdirectory hcalls hpasses) (hdirectory.ports_none hports) fun lower hmem =>
      lowerDevice_eq_none hlower lower (hdirectory.mem_entries.mpr hmem)

theorem Returns.of_mem (h : sysfs.Returns interface visited r) (hseen : interface ∈ visited) : r = (none, visited) := by
  cases h with
  | call _ _ hstep => exact step_of_mem (resolveStep_cases hstep) hseen

theorem Returns.of_missing (h : sysfs.Returns interface visited r) (hfresh : interface ∉ visited)
    (hlookup : sysfs.lookup interface = none) : r = (none, visited ++ [interface]) := by
  cases h with
  | call hread _ hstep => exact hread.step_of_missing (resolveStep_cases hstep) hfresh hlookup

theorem Returns.choice (h : sysfs.Returns interface visited r) (hfresh : interface ∉ visited)
    (hlookup : sysfs.lookup interface = some directory) : sysfs.Choice sysfs.Returns interface visited directory r := by
  cases h with
  | call hread hcalls hstep => exact hread.choice (resolveStep_cases hstep) hcalls hfresh hlookup

/-- A call that the calls which it makes make possible. -/
theorem Reordered.returns_of_step (hread : sysfs.Reordered sysfs') {results : String → Option String × List String}
    (hresults : ∀ name, sysfs.Returns name visited' (results name))
    (hstep : ∀ resolve : Resolve, (∀ name, resolve name visited' = some (results name)) →
      (∀ name w, ∃ r, resolve name w = some r ∧ sysfs.Returns name w r) →
      ResolveStep sysfs' resolve interface visited r) : sysfs.Returns interface visited r := by
  classical
  choose any hany using exists_returns sysfs
  let resolve : Resolve := fun name w => some (if w = visited' then results name else any name w)
  have hresolve : ∀ name w r, resolve name w = some r → sysfs.Returns name w r := by
    intro name w r hr
    cases hr
    split
    · rename_i hw
      exact hw ▸ hresults name
    · exact hany name w
  refine .call hread hresolve (resolveStep_of (hstep resolve (fun name => ?_) fun name w => ⟨_, rfl, hresolve name w _ rfl⟩))
  exact congrArg some (if_pos rfl)

end Sysfs

end Servatory
