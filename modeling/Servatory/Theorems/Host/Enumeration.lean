import Mathlib.Data.Set.Finite.Lemmas
import Servatory.Theorems.Host.Resolution

/-! When the order in which directories are enumerated makes no difference to what an interface resolves to. Only the
    first lower device is followed, so the lower devices have to agree, unless a better port hides the difference. -/

namespace Servatory

namespace Sysfs

variable {sysfs : Sysfs} {interface found : String} {visited visited' : List String} {directory directory' : Interface}
  {r : Option String × List String}

/-! ### Where an interface leads -/

/-- An interface that leads nowhere, and what has been visited when that is known. -/
inductive Dead (sysfs : Sysfs) : String → List String → List String → Prop
  | visited {interface : String} {visited : List String} (h : interface ∈ visited) : Dead sysfs interface visited visited
  | missing {interface : String} {visited : List String} (h : interface ∉ visited)
      (hlookup : sysfs.lookup interface = none) : Dead sysfs interface visited (visited ++ [interface])
  | bridge {interface : String} {directory : Interface} {visited visited' ports : List String}
      {after : String → List String} (h : interface ∉ visited) (hlookup : sysfs.lookup interface = some directory)
      (hnone : directory.slave = none → visited' = visited ++ [interface])
      (hslave : ∀ slave, directory.slave = some slave → Dead sysfs slave (visited ++ [interface]) visited')
      (hports : directory.ports = some ports) (hdead : ∀ port ∈ ports, Dead sysfs port visited' (after port)) :
      Dead sysfs interface visited visited'

/-- Where an interface is searched that is no bond, or whose slave leads nowhere. -/
structure Opens (sysfs : Sysfs) (interface : String) (visited : List String) (directory : Interface)
    (visited' : List String) : Prop where
  fresh : interface ∉ visited
  lookup : sysfs.lookup interface = some directory
  direct : directory.slave = none → visited' = visited ++ [interface]
  slave : ∀ slave, directory.slave = some slave → sysfs.Dead slave (visited ++ [interface]) visited'

/-- Some lower device leads nowhere, or there is none, so that the interface itself is the result. -/
def Stays (sysfs : Sysfs) (directory : Interface) (visited : List String) : Prop :=
  (∀ lower, "lower_" ++ lower ∉ directory.entries) ∨
    ∃ lower after, "lower_" ++ lower ∈ directory.entries ∧ sysfs.Dead lower visited after

/-- One of the ways through the ports and the lower devices ends there. -/
inductive Leads (sysfs : Sysfs) : String → List String → String → Prop
  | slave {interface slave found : String} {directory : Interface} {visited : List String} (h : interface ∉ visited)
      (hlookup : sysfs.lookup interface = some directory) (hslave : directory.slave = some slave)
      (hleads : Leads sysfs slave (visited ++ [interface]) found) : Leads sysfs interface visited found
  | port {interface port found : String} {directory : Interface} {visited visited' ports : List String}
      (h : sysfs.Opens interface visited directory visited') (hports : directory.ports = some ports) (hport : port ∈ ports)
      (hleads : Leads sysfs port visited' found) : Leads sysfs interface visited found
  | lower {interface lower found : String} {directory : Interface} {visited visited' : List String}
      (h : sysfs.Opens interface visited directory visited') (hports : directory.ports = none)
      (hlower : "lower_" ++ lower ∈ directory.entries) (hleads : Leads sysfs lower visited' found) :
      Leads sysfs interface visited found
  | self {interface : String} {directory : Interface} {visited visited' : List String}
      (h : sysfs.Opens interface visited directory visited') (hports : directory.ports = none)
      (hstays : sysfs.Stays directory visited') : Leads sysfs interface visited interface

/-- All ways end there that are not hidden by a better port. -/
inductive Certain (sysfs : Sysfs) : String → List String → String → Prop
  | slave {interface slave found : String} {directory : Interface} {visited : List String} (h : interface ∉ visited)
      (hlookup : sysfs.lookup interface = some directory) (hslave : directory.slave = some slave)
      (hcertain : Certain sysfs slave (visited ++ [interface]) found) : Certain sysfs interface visited found
  | port {interface port found : String} {directory : Interface} {visited visited' ports : List String}
      (h : sysfs.Opens interface visited directory visited') (hports : directory.ports = some ports) (hport : port ∈ ports)
      (hcertain : Certain sysfs port visited' found)
      (hbest : ∀ other ∈ ports, ∀ result, sysfs.Leads other visited' result →
        Servatory.portRank sysfs result ≤ Servatory.portRank sysfs found) : Certain sysfs interface visited found
  | lower {interface found : String} {directory : Interface} {visited visited' : List String}
      (h : sysfs.Opens interface visited directory visited') (hports : directory.ports = none)
      (hlower : ∀ lower, "lower_" ++ lower ∈ directory.entries → (∀ after, ¬sysfs.Dead lower visited' after) →
        Certain sysfs lower visited' found)
      (hstays : sysfs.Stays directory visited' → found = interface) : Certain sysfs interface visited found

/-! ### What is returned -/

/-- An interface that leads nowhere is not resolved in any order. -/
theorem Dead.eq_of_returns (h : sysfs.Dead interface visited visited') (hr : sysfs.Returns interface visited r) :
    r = (none, visited') := by
  induction h generalizing r with
  | visited h => exact hr.of_mem h
  | missing h hlookup => exact hr.of_missing h hlookup
  | @bridge interface directory visited visited' ports after h hlookup hnone hslave hports hdead ihslave ihdead =>
    cases hr.choice h hlookup with
    | slave hslave hreturns => cases ihslave _ hslave hreturns
    | @ports _ _ results _ hpassed hports' hresults hbest =>
      rw [hports] at hports'
      cases hports'
      obtain rfl := hpassed.eq hnone fun slave hs w hw => (Prod.mk.inj (ihslave slave hs hw)).2
      have hall : ∀ port ∈ ports, results port = none := fun port hport => by
        obtain ⟨w, hw⟩ := hresults port hport
        exact (Prod.mk.inj (ihdead port hport hw)).1
      rw [hbest, best_eq_none.mpr hall]
    | lower _ hports' => rw [hports] at hports'; cases hports'
    | self _ hports' => rw [hports] at hports'; cases hports'

theorem Opens.eq {visited'' : List String} (h : sysfs.Opens interface visited directory visited')
    (hpassed : Passed sysfs.Returns interface visited directory visited'') : visited'' = visited' :=
  hpassed.eq h.direct fun slave hslave _ hr => (Prod.mk.inj ((h.slave slave hslave).eq_of_returns hr)).2

/-- What is returned leads somewhere, or it is none and the interface leads nowhere. -/
def Explained (sysfs : Sysfs) (interface : String) (visited : List String) (r : Option String × List String) : Prop :=
  (∀ found, r.1 = some found → sysfs.Leads interface visited found) ∧
    (r.1 = none → sysfs.Dead interface visited r.2)

theorem Choice.explained (h : sysfs.Choice sysfs.Explained interface visited directory r) (hfresh : interface ∉ visited)
    (hlookup : sysfs.lookup interface = some directory) : sysfs.Explained interface visited r := by
  have hopens : ∀ {visited'}, Passed sysfs.Explained interface visited directory visited' →
      sysfs.Opens interface visited directory visited' := fun hpassed =>
    ⟨hfresh, hlookup, hpassed.direct, fun slave hslave => (hpassed.slave slave hslave).2 rfl⟩
  cases h with
  | slave hslave hreturns =>
    refine ⟨fun found hfound => ?_, nofun⟩
    exact .slave hfresh hlookup hslave (hreturns.1 found hfound)
  | @ports visited' ports results best hpassed hports hresults hbest =>
    constructor
    · intro found hfound
      obtain ⟨⟨port, hport, hresult⟩, -⟩ := best_eq_some.mp (hbest.symm.trans hfound)
      obtain ⟨w, hw⟩ := hresults port hport
      exact .port (hopens hpassed) hports hport (hw.1 found hresult)
    · intro hnone
      have hall := best_eq_none.mp (hbest.symm.trans hnone)
      choose! after hafter using hresults
      exact .bridge hfresh hlookup hpassed.direct (hopens hpassed).slave hports fun port hport =>
        (hafter port hport).2 (hall port hport)
  | @lower visited' visited'' lower found hpassed hports hlower hreturns =>
    refine ⟨fun result hresult => ?_, fun hnone => ?_⟩
    · cases found with
      | some found =>
        cases hresult
        exact .lower (hopens hpassed) hports hlower (hreturns.1 result rfl)
      | none =>
        cases hresult
        exact .self (hopens hpassed) hports (.inr ⟨lower, visited'', hlower, hreturns.2 rfl⟩)
    · cases found <;> cases hnone
  | self hpassed hports hlower =>
    refine ⟨fun found hfound => ?_, nofun⟩
    cases hfound
    exact .self (hopens hpassed) hports (.inl hlower)

theorem Returns.explained (h : sysfs.Returns interface visited r) : sysfs.Explained interface visited r := by
  induction h with
  | @call sysfs' resolve interface visited r hread hcalls hstep ih =>
    by_cases hseen : interface ∈ visited
    · obtain rfl := step_of_mem (resolveStep_cases hstep) hseen
      exact ⟨nofun, fun _ => .visited hseen⟩
    cases hlookup : sysfs.lookup interface with
    | none =>
      obtain rfl := hread.step_of_missing (resolveStep_cases hstep) hseen hlookup
      exact ⟨nofun, fun _ => .missing hseen hlookup⟩
    | some directory => exact (hread.choice (resolveStep_cases hstep) ih hseen hlookup).explained hseen hlookup

/-- Whatever the order, an interface resolves to what is certain. -/
theorem Certain.eq_of_returns (h : sysfs.Certain interface visited found) (hr : sysfs.Returns interface visited r) :
    r.1 = some found := by
  induction h generalizing r with
  | @slave interface slave found directory visited h hlookup hslave hcertain ih =>
    have hnot : ∀ {visited'}, Passed sysfs.Returns interface visited directory visited' → False := fun hpassed => by
      cases ih (hpassed.slave slave hslave)
    cases hr.choice h hlookup with
    | slave hslave' hreturns =>
      rw [hslave] at hslave'
      cases hslave'
      exact ih hreturns
    | ports hpassed => exact (hnot hpassed).elim
    | lower hpassed => exact (hnot hpassed).elim
    | self hpassed => exact (hnot hpassed).elim
  | @port interface port found directory visited visited' ports h hports hport hcertain hbest ih =>
    cases hr.choice h.fresh h.lookup with
    | slave hslave hreturns => cases (h.slave _ hslave).eq_of_returns hreturns
    | @ports _ _ results _ hpassed hports' hresults hpick =>
      rw [hports] at hports'
      cases hports'
      obtain rfl := h.eq hpassed
      rw [hpick, best_eq_some]
      refine ⟨⟨port, hport, ?_⟩, fun other hother result hresult => ?_⟩
      · obtain ⟨w, hw⟩ := hresults port hport
        exact ih hw
      · obtain ⟨w, hw⟩ := hresults other hother
        exact hbest other hother result (hw.explained.1 result hresult)
    | lower _ hports' => rw [hports] at hports'; cases hports'
    | self _ hports' => rw [hports] at hports'; cases hports'
  | @lower interface found directory visited visited' h hports hlower hstays ih =>
    cases hr.choice h.fresh h.lookup with
    | slave hslave hreturns => cases (h.slave _ hslave).eq_of_returns hreturns
    | ports _ hports' => rw [hports] at hports'; cases hports'
    | @lower w visited'' lower result hpassed _ hentry hreturns =>
      obtain rfl := h.eq hpassed
      by_cases hdead : ∃ after, sysfs.Dead lower w after
      · obtain ⟨after, hdead⟩ := hdead
        cases hdead.eq_of_returns hreturns
        rw [hstays (.inr ⟨lower, visited'', hentry, hdead⟩)]
        rfl
      · have hresult := ih lower hentry (fun after hafter => hdead ⟨after, hafter⟩) hreturns
        dsimp only at hresult ⊢
        rw [hresult, Option.some_or]
    | self _ _ hnone => rw [hstays (.inl hnone)]

/-! ### What can be returned -/

variable {sysfs' : Sysfs} {resolve : Resolve}

theorem Opens.passes (h : sysfs.Opens interface visited directory visited')
    (hlookup : sysfs'.lookup interface = some directory') (hdirectory : directory.Reordered directory')
    (hcalls : ∀ name w, ∃ r, resolve name w = some r ∧ sysfs.Returns name w r) :
    Passes sysfs' resolve interface visited directory' visited' := by
  refine ⟨h.fresh, hlookup, ?_⟩
  rw [hdirectory.slave]
  cases hlink : directory.slave with
  | none => rw [h.direct hlink]; rfl
  | some slave =>
    obtain ⟨r, hr, hreturns⟩ := hcalls slave (visited ++ [interface])
    rw [(h.slave slave hlink).eq_of_returns hreturns] at hr
    exact hr

theorem Opens.returns_ports (h : sysfs.Opens interface visited directory visited') {ports : List String}
    (hports : directory.ports = some ports) {results : String → Option String × List String}
    (hresults : ∀ name, sysfs.Returns name visited' (results name)) :
    sysfs.Returns interface visited (bestPort sysfs (ports.map fun port => (results port).1).reduceOption, visited') := by
  refine (Reordered.refl sysfs).returns_of_step hresults fun resolve hresolve hcalls => ?_
  exact .ports (h.passes h.lookup (.refl directory) hcalls) hports fun port _ => ⟨(results port).2, hresolve port⟩

/-- The first of the names can be any lower device. -/
theorem Opens.returns_lower (h : sysfs.Opens interface visited directory visited') (hports : directory.ports = none)
    {lower : String} (hlower : "lower_" ++ lower ∈ directory.entries) {after : List String} {result : Option String}
    (hreturns : sysfs.Returns lower visited' (result, after)) :
    sysfs.Returns interface visited (result.or (some interface), after) := by
  classical
  obtain ⟨entries, hperm, hfirst⟩ := exists_lowerDevice hlower
  have hdirectory : directory.Reordered { directory with entries := entries } := by
    refine @Interface.Reordered.mk directory directory.ports entries ?_ hperm
    rw [hports]
    exact .none
  have hread : sysfs.Reordered ((interface, { directory with entries := entries }) :: sysfs) := by
    intro name
    rw [List.lookup_cons]
    by_cases hname : name = interface
    · rw [hname, beq_self_eq_true, h.lookup]
      exact .some hdirectory
    · rw [beq_eq_false_iff_ne.mpr hname]
      exact Reordered.refl sysfs name
  have hlookup : List.lookup interface ((interface, { directory with entries := entries }) :: sysfs) =
      some { directory with entries := entries } := List.lookup_cons_self
  choose any hany using fun name => exists_returns sysfs name visited'
  have hresults : ∀ name, sysfs.Returns name visited' (if name = lower then (result, after) else any name) := by
    intro name
    split
    · rename_i hname
      exact hname ▸ hreturns
    · exact hany name
  refine hread.returns_of_step hresults fun resolve hresolve hcalls => ?_
  exact .lower (h.passes hlookup hdirectory hcalls) hports hfirst (by rw [hresolve, if_pos rfl])

theorem Opens.returns_self (h : sysfs.Opens interface visited directory visited') (hports : directory.ports = none)
    (hlower : ∀ lower, "lower_" ++ lower ∉ directory.entries) :
    sysfs.Returns interface visited (some interface, visited') := by
  choose any hany using fun name => exists_returns sysfs name visited'
  refine (Reordered.refl sysfs).returns_of_step hany fun resolve _ hcalls => ?_
  refine .self (h.passes h.lookup (.refl directory) hcalls) hports ?_
  exact Option.eq_none_iff_forall_ne_some.mpr fun lower h => hlower lower (mem_of_lowerDevice h)

theorem returns_slave {slave : String} (hfresh : interface ∉ visited) (hlookup : sysfs.lookup interface = some directory)
    (hslave : directory.slave = some slave)
    (hreturns : sysfs.Returns slave (visited ++ [interface]) (some found, visited')) :
    sysfs.Returns interface visited (some found, visited') := by
  classical
  choose any hany using fun name => exists_returns sysfs name (visited ++ [interface])
  have hresults : ∀ name, sysfs.Returns name (visited ++ [interface])
      (if name = slave then (some found, visited') else any name) := by
    intro name
    split
    · rename_i hname
      exact hname ▸ hreturns
    · exact hany name
  refine (Reordered.refl sysfs).returns_of_step hresults fun resolve hresolve _ => ?_
  exact .slave hfresh hlookup hslave (by rw [hresolve, if_pos rfl])

theorem Dead.unique {after after' : List String} (h : sysfs.Dead interface visited after)
    (h' : sysfs.Dead interface visited after') : after' = after := by
  obtain ⟨r, hr⟩ := exists_returns sysfs interface visited
  exact (Prod.mk.inj ((h'.eq_of_returns hr).symm.trans (h.eq_of_returns hr))).2

theorem Dead.subset (h : sysfs.Dead interface visited visited') : visited ⊆ visited' := by
  induction h with
  | visited => exact List.Subset.refl _
  | missing => exact List.subset_append_left _ _
  | @bridge interface directory visited visited' ports after h hlookup hdirect hslave hports hdead ihslave ihdead =>
    have hgrows : visited ⊆ visited ++ [interface] := List.subset_append_left _ _
    cases hlink : directory.slave with
    | none => exact hdirect hlink ▸ hgrows
    | some slave => exact List.Subset.trans hgrows (ihslave slave hlink)

theorem Opens.subset (h : sysfs.Opens interface visited directory visited') : visited ++ [interface] ⊆ visited' := by
  cases hlink : directory.slave with
  | none => exact (h.direct hlink).symm ▸ List.Subset.refl _
  | some slave => exact (h.slave slave hlink).subset

theorem Opens.unique {visited'' : List String} {directory' : Interface}
    (h : sysfs.Opens interface visited directory visited') (h' : sysfs.Opens interface visited directory' visited'') :
    directory' = directory ∧ visited'' = visited' := by
  have hdirectory := Option.some.inj (h'.lookup.symm.trans h.lookup)
  subst hdirectory
  refine ⟨rfl, ?_⟩
  cases hlink : directory'.slave with
  | none => rw [h.direct hlink, h'.direct hlink]
  | some slave => exact (h.slave slave hlink).unique (h'.slave slave hlink)

/-- No way leads from an interface that leads nowhere. -/
theorem Dead.not_leads (h : sysfs.Dead interface visited visited') : ¬sysfs.Leads interface visited found := by
  induction h with
  | visited h =>
    rintro (⟨hfresh⟩ | ⟨hopens⟩ | ⟨hopens⟩ | ⟨hopens⟩)
    · exact hfresh h
    all_goals exact hopens.fresh h
  | missing h hlookup =>
    rintro (⟨-, hsome⟩ | ⟨hopens⟩ | ⟨hopens⟩ | ⟨hopens⟩)
    · rw [hlookup] at hsome; cases hsome
    all_goals
      have hsome := hopens.lookup
      rw [hlookup] at hsome
      cases hsome
  | @bridge interface directory visited visited' ports after h hlookup hdirect hslave hports hdead ihslave ihdead =>
    have hopens : sysfs.Opens interface visited directory visited' := ⟨h, hlookup, hdirect, hslave⟩
    intro hleads
    cases hleads with
    | slave _ hlookup' hslave' hleads =>
      rw [hlookup] at hlookup'
      cases hlookup'
      exact ihslave _ hslave' hleads
    | port hopens' hports' hport hleads =>
      obtain ⟨rfl, rfl⟩ := hopens.unique hopens'
      rw [hports] at hports'
      cases hports'
      exact ihdead _ hport hleads
    | lower hopens' hports' =>
      obtain ⟨rfl, rfl⟩ := hopens.unique hopens'
      rw [hports] at hports'
      cases hports'
    | self hopens' hports' =>
      obtain ⟨rfl, rfl⟩ := hopens.unique hopens'
      rw [hports] at hports'
      cases hports'

/-! ### What is not certain -/

/-- The results of some interface lie between two, and both can be returned. It is certain when they are the same. -/
structure Between (sysfs : Sysfs) (interface : String) (visited : List String) (low high : String) : Prop where
  returnsLow : ∃ after, sysfs.Returns interface visited (some low, after)
  returnsHigh : ∃ after, sysfs.Returns interface visited (some high, after)
  le : ∀ found, sysfs.Leads interface visited found →
    Servatory.portRank sysfs found ≤ Servatory.portRank sysfs high
  certain : low = high → sysfs.Certain interface visited low

theorem Between.low_le {low high : String} (h : sysfs.Between interface visited low high) :
    Servatory.portRank sysfs low ≤ Servatory.portRank sysfs high := by
  obtain ⟨after, hreturns⟩ := h.returnsLow
  exact h.le low (hreturns.explained.1 low rfl)

/-- Where one of the ways leads once no slave decides. -/
theorem Opens.leads (h : sysfs.Opens interface visited directory visited') (hleads : sysfs.Leads interface visited found) :
    (∃ ports, directory.ports = some ports ∧ ∃ port ∈ ports, sysfs.Leads port visited' found) ∨
      directory.ports = none ∧ ((∃ lower, "lower_" ++ lower ∈ directory.entries ∧ sysfs.Leads lower visited' found) ∨
        sysfs.Stays directory visited' ∧ found = interface) := by
  cases hleads with
  | slave _ hlookup hslave hleads =>
    rw [h.lookup] at hlookup
    cases hlookup
    exact absurd hleads (h.slave _ hslave).not_leads
  | port hopens hports hport hleads =>
    obtain ⟨rfl, rfl⟩ := h.unique hopens
    exact .inl ⟨_, hports, _, hport, hleads⟩
  | lower hopens hports hlower hleads =>
    obtain ⟨rfl, rfl⟩ := h.unique hopens
    exact .inr ⟨hports, .inl ⟨_, hlower, hleads⟩⟩
  | self hopens hports hstays =>
    obtain ⟨rfl, rfl⟩ := h.unique hopens
    exact .inr ⟨hports, .inr ⟨hstays, rfl⟩⟩

theorem Between.of_slave {slave low high : String} (hfresh : interface ∉ visited)
    (hlookup : sysfs.lookup interface = some directory) (hslave : directory.slave = some slave)
    (h : sysfs.Between slave (visited ++ [interface]) low high) : sysfs.Between interface visited low high := by
  obtain ⟨⟨after, hlow⟩, ⟨after', hhigh⟩, hle, hcertain⟩ := h
  refine ⟨⟨after, returns_slave hfresh hlookup hslave hlow⟩, ⟨after', returns_slave hfresh hlookup hslave hhigh⟩,
    fun found hleads => ?_, fun heq => .slave hfresh hlookup hslave (hcertain heq)⟩
  have hnot : ∀ {directory' visited'}, sysfs.Opens interface visited directory' visited' → False := by
    intro directory' visited' hopens
    rw [Option.some.inj (hlookup.symm.trans hopens.lookup)] at hslave
    cases (hopens.slave slave hslave).eq_of_returns hlow
  cases hleads with
  | slave _ hlookup' hslave' hleads =>
    rw [hlookup] at hlookup'
    cases hlookup'
    rw [hslave] at hslave'
    cases hslave'
    exact hle found hleads
  | port hopens => exact (hnot hopens).elim
  | lower hopens => exact (hnot hopens).elim
  | self hopens => exact (hnot hopens).elim

/-- The least and the greatest that some name leads to. -/
def Spread (sysfs : Sysfs) (name : String) (visited : List String) (low high : Option String × List String) : Prop :=
  (∃ after, sysfs.Dead name visited after ∧ low = (none, after) ∧ high = (none, after)) ∨
    ∃ a b, low.1 = some a ∧ high.1 = some b ∧ sysfs.Between name visited a b

/-- A bridge lies between the best of the least and the best of the greatest. -/
theorem Opens.between_ports (h : sysfs.Opens interface visited directory visited') {ports : List String}
    (hports : directory.ports = some ports) {low high : String → Option String × List String}
    (hlow : ∀ name, sysfs.Returns name visited' (low name)) (hhigh : ∀ name, sysfs.Returns name visited' (high name))
    (hspread : ∀ name, sysfs.Spread name visited' (low name) (high name)) :
    (∃ after, sysfs.Dead interface visited after) ∨ ∃ a b, sysfs.Between interface visited a b := by
  have hlowReturns := h.returns_ports hports hlow
  have hhighReturns := h.returns_ports hports hhigh
  cases hbest : Servatory.bestPort sysfs (ports.map fun port => (low port).1).reduceOption with
  | none =>
    refine .inl ⟨_, hlowReturns.explained.2 ?_⟩
    exact hbest
  | some a =>
    obtain ⟨⟨port, hport, hresult⟩, hmax⟩ := best_eq_some.mp hbest
    have hbetween : ∀ {name found}, sysfs.Leads name visited' found →
        ∃ a b, (low name).1 = some a ∧ (high name).1 = some b ∧ sysfs.Between name visited' a b := by
      intro name found hleads
      rcases hspread name with ⟨after, hdead, -⟩ | h
      · exact absurd hleads hdead.not_leads
      · exact h
    obtain ⟨a', b, ha', hb, hport'⟩ := hbetween ((hlow port).explained.1 a hresult)
    rw [hresult] at ha'
    cases ha'
    cases hbest' : Servatory.bestPort sysfs (ports.map fun port => (high port).1).reduceOption with
    | none =>
      rw [best_eq_none.mp hbest' port hport] at hb
      cases hb
    | some c =>
      obtain ⟨-, hmax'⟩ := best_eq_some.mp hbest'
      rw [hbest] at hlowReturns
      rw [hbest'] at hhighReturns
      have hle : ∀ other ∈ ports, ∀ found, sysfs.Leads other visited' found →
          Servatory.portRank sysfs found ≤ Servatory.portRank sysfs c := by
        intro other hother found hleads
        obtain ⟨_, b', -, hb', hother'⟩ := hbetween hleads
        exact (hother'.le found hleads).trans (hmax' other hother b' hb')
      refine .inr ⟨a, c, ⟨_, hlowReturns⟩, ⟨_, hhighReturns⟩, fun found hleads => ?_, fun heq => ?_⟩
      · rcases h.leads hleads with ⟨ports', hports', other, hother, hleads⟩ | ⟨hnone, -⟩
        · rw [hports] at hports'
          cases hports'
          exact hle other hother found hleads
        · rw [hports] at hnone; cases hnone
      · subst heq
        have hab := portRank_injective sysfs (le_antisymm hport'.low_le (hmax' port hport b hb))
        exact .port h hports hport (hport'.certain hab) hle

theorem Opens.between_self (h : sysfs.Opens interface visited directory visited') (hports : directory.ports = none)
    (hlower : ∀ lower, "lower_" ++ lower ∉ directory.entries) : sysfs.Between interface visited interface interface := by
  have hself := h.returns_self hports hlower
  refine ⟨⟨_, hself⟩, ⟨_, hself⟩, fun found hleads => ?_, fun _ => ?_⟩
  · rcases h.leads hleads with ⟨ports, hports', -⟩ | ⟨-, ⟨lower, hmem, -⟩ | ⟨-, rfl⟩⟩
    · rw [hports] at hports'; cases hports'
    · exact absurd hmem (hlower lower)
    · exact le_rfl
  · exact .lower h hports (fun lower hmem => absurd hmem (hlower lower)) fun _ => rfl

theorem finite_lower (entries : List String) : {lower | "lower_" ++ lower ∈ entries}.Finite := by
  refine (List.finite_toSet entries).preimage fun a _ b _ hab => ?_
  have hlists := congrArg String.toList hab
  rw [String.toList_append, String.toList_append] at hlists
  exact String.toList_injective (List.append_cancel_left hlists)

/-- What is returned through a lower device whose result this is. -/
theorem Opens.returns_getD (h : sysfs.Opens interface visited directory visited') (hports : directory.ports = none)
    {lower : String} (hlower : "lower_" ++ lower ∈ directory.entries) (hreturns : sysfs.Returns lower visited' r) :
    sysfs.Returns interface visited (some (r.1.getD interface), r.2) := by
  have h := h.returns_lower hports hlower hreturns
  rwa [Option.or_some] at h

/-- Anything else lies between the least and the greatest of what its lower devices lead to. -/
theorem Opens.between_lower (h : sysfs.Opens interface visited directory visited') (hports : directory.ports = none)
    {low high : String → Option String × List String} (hlow : ∀ name, sysfs.Returns name visited' (low name))
    (hhigh : ∀ name, sysfs.Returns name visited' (high name))
    (hspread : ∀ name, sysfs.Spread name visited' (low name) (high name)) {first : String}
    (hfirst : "lower_" ++ first ∈ directory.entries) : ∃ a b, sysfs.Between interface visited a b := by
  obtain ⟨least, hleast, hmin⟩ := Set.exists_min_image _
    (fun lower => Servatory.portRank sysfs ((low lower).1.getD interface)) (finite_lower directory.entries) ⟨first, hfirst⟩
  obtain ⟨greatest, hgreatest, hmax⟩ := Set.exists_max_image _
    (fun lower => Servatory.portRank sysfs ((high lower).1.getD interface)) (finite_lower directory.entries) ⟨first, hfirst⟩
  refine ⟨_, _, ⟨_, h.returns_getD hports hleast (hlow least)⟩, ⟨_, h.returns_getD hports hgreatest (hhigh greatest)⟩,
    fun found hleads => ?_, fun heq => ?_⟩
  · rcases h.leads hleads with ⟨ports, hports', -⟩ | ⟨-, ⟨lower, hlower, hleads⟩ |
      ⟨hstays | ⟨lower, after, hlower, hdead⟩, rfl⟩⟩
    · rw [hports] at hports'; cases hports'
    · refine le_trans ?_ (hmax lower hlower)
      rcases hspread lower with ⟨after, hdead, -⟩ | ⟨a, b, -, hb, hbetween⟩
      · exact absurd hleads hdead.not_leads
      · rw [hb]
        exact hbetween.le found hleads
    · exact absurd hfirst (hstays first)
    · refine le_trans ?_ (hmax lower hlower)
      rw [hdead.eq_of_returns (hhigh lower)]
      exact le_rfl
  · have hsame : ∀ {a : String}, Servatory.portRank sysfs ((low least).1.getD interface) ≤ Servatory.portRank sysfs a →
        Servatory.portRank sysfs a ≤ Servatory.portRank sysfs ((high greatest).1.getD interface) →
        a = (low least).1.getD interface := fun hle hge =>
      portRank_injective sysfs (le_antisymm (heq ▸ hge) hle)
    refine .lower h hports (fun lower hlower halive => ?_) fun hstays => ?_
    · have hle := hmin lower hlower
      have hge := hmax lower hlower
      rcases hspread lower with ⟨after, hdead, -⟩ | ⟨a, b, ha, hb, hbetween⟩
      · exact absurd hdead (halive after)
      · rw [ha, Option.getD_some] at hle
        rw [hb, Option.getD_some] at hge
        have hlowest := hsame hle (hbetween.low_le.trans hge)
        have hhighest := hsame (hle.trans hbetween.low_le) hge
        rw [← hlowest]
        exact hbetween.certain (hlowest.trans hhighest.symm)
    · rcases hstays with hstays | ⟨lower, after, hlower, hdead⟩
      · exact absurd hfirst (hstays first)
      · have hle := hmin lower hlower
        have hge := hmax lower hlower
        rw [hdead.eq_of_returns (hlow lower)] at hle
        rw [hdead.eq_of_returns (hhigh lower)] at hge
        exact (hsame hle hge).symm

/-- An interface that leads nowhere, or whose results lie between two that can be returned. -/
def Bounded (sysfs : Sysfs) (interface : String) (visited : List String) : Prop :=
  (∃ after, sysfs.Dead interface visited after) ∨ ∃ low high, sysfs.Between interface visited low high

theorem Bounded.spread (h : sysfs.Bounded interface visited) :
    ∃ low high, sysfs.Returns interface visited low ∧ sysfs.Returns interface visited high ∧
      sysfs.Spread interface visited low high := by
  rcases h with ⟨after, hdead⟩ | ⟨a, b, hbetween⟩
  · obtain ⟨r, hr⟩ := exists_returns sysfs interface visited
    have heq := hdead.eq_of_returns hr
    exact ⟨r, r, hr, hr, .inl ⟨after, hdead, heq, heq⟩⟩
  · obtain ⟨w, hlow⟩ := hbetween.returnsLow
    obtain ⟨w', hhigh⟩ := hbetween.returnsHigh
    exact ⟨_, _, hlow, hhigh, .inr ⟨a, b, rfl, rfl, hbetween⟩⟩

theorem Opens.bounded (h : sysfs.Opens interface visited directory visited') (hnames : ∀ name, sysfs.Bounded name visited') :
    sysfs.Bounded interface visited := by
  choose low high hlow hhigh hspread using fun name => (hnames name).spread
  cases hports : directory.ports with
  | some ports => exact h.between_ports hports hlow hhigh hspread
  | none =>
    by_cases hlower : ∀ lower, "lower_" ++ lower ∉ directory.entries
    · exact .inr ⟨_, _, h.between_self hports hlower⟩
    · obtain ⟨first, hfirst⟩ := not_forall_not.mp hlower
      exact .inr (h.between_lower hports hlow hhigh hspread hfirst)

theorem bounded (sysfs : Sysfs) (interface : String) (visited : List String) : sysfs.Bounded interface visited := by
  induction hn : sysfs.unvisited visited using Nat.strongRecOn generalizing interface visited with
  | _ n ih =>
    subst hn
    by_cases hseen : interface ∈ visited
    · exact .inl ⟨visited, .visited hseen⟩
    cases hlookup : sysfs.lookup interface with
    | none => exact .inl ⟨_, .missing hseen hlookup⟩
    | some directory =>
      have hcall : ∀ {visited'}, visited ++ [interface] ⊆ visited' → ∀ name, sysfs.Bounded name visited' :=
        fun hsub name => ih _ (unvisited_lt (hlookup ▸ rfl) hseen hsub) name _ rfl
      cases hslave : directory.slave with
      | none =>
        have hopens : sysfs.Opens interface visited directory (visited ++ [interface]) := by
          refine ⟨hseen, hlookup, fun _ => rfl, fun slave h => ?_⟩
          rw [hslave] at h
          cases h
        exact hopens.bounded (hcall hopens.subset)
      | some slave =>
        rcases hcall (List.Subset.refl _) slave with ⟨after, hdead⟩ | ⟨low, high, hbetween⟩
        · have hopens : sysfs.Opens interface visited directory after := by
            refine ⟨hseen, hlookup, fun h => ?_, fun slave' h => ?_⟩
            · rw [hslave] at h
              cases h
            · rw [hslave] at h
              cases h
              exact hdead
          exact hopens.bounded (hcall hopens.subset)
        · exact .inr ⟨low, high, hbetween.of_slave hseen hlookup hslave⟩

end Sysfs

/-- An interface that resolves to the same in every order of the directories leads nowhere, or its result is certain. -/
theorem resolves_order_iff (sysfs : Sysfs) (routed : String) :
    (∀ sysfs' fuel resolved, sysfs.Reordered sysfs' → resolvePhysicalInterface sysfs' fuel routed = some resolved →
      sysfs.Resolves routed resolved) ∧
    ((∀ resolved resolved', sysfs.Resolves routed resolved → sysfs.Resolves routed resolved' → resolved = resolved') ↔
      (∃ visited, sysfs.Dead routed [] visited) ∨ ∃ found, sysfs.Certain routed [] found) := by
  constructor
  · intro sysfs' fuel resolved hread hr
    obtain ⟨⟨_, visited⟩, hcall, rfl⟩ := Option.map_eq_some_iff.mp hr
    exact ⟨visited, hread.returns hcall⟩
  constructor
  · intro hsame
    rcases sysfs.bounded routed [] with hdead | ⟨low, high, hbetween⟩
    · exact .inl hdead
    · exact .inr ⟨low, hbetween.certain (Option.some.inj (hsame _ _ hbetween.returnsLow hbetween.returnsHigh))⟩
  · rintro (⟨visited, hdead⟩ | ⟨found, hcertain⟩) resolved resolved' ⟨_, h⟩ ⟨_, h'⟩
    · rw [(Prod.mk.inj (hdead.eq_of_returns h)).1, (Prod.mk.inj (hdead.eq_of_returns h')).1]
    · exact (hcertain.eq_of_returns h).trans (hcertain.eq_of_returns h').symm

/-- A network interface of the machine, and a bond of two without an active slave. -/
def ethernet : Interface := ⟨none, none, ["device"], some "1", none, none, true⟩
def bondOf (entries : List String) : Interface := ⟨some "", none, entries, some "1", none, none, false⟩

theorem resolvePhysicalInterface_order :
    ¬∀ (sysfs sysfs' : Sysfs) (fuel : Nat) (routed : String), sysfs.length < fuel → sysfs.Reordered sysfs' →
      resolvePhysicalInterface sysfs fuel routed = resolvePhysicalInterface sysfs' fuel routed := by
  intro h
  have hread : Sysfs.Reordered [("bond0", bondOf ["lower_a", "lower_b"]), ("a", ethernet), ("b", ethernet)]
      [("bond0", bondOf ["lower_b", "lower_a"]), ("a", ethernet), ("b", ethernet)] := by
    exact .cons (.mk .none (List.Perm.swap "lower_b" "lower_a" [])) (.refl _)
  have heq := h _ _ 4 "bond0" (by decide) hread
  exact absurd heq (by decide)

end Servatory
