import Servatory.Host.Config
import Servatory.Lib.Transition

/-! The connectivity probe: when a probe is sent, and what its result means. The collector observes the link and asks
    for a probe; a thread of its own reports the result. Times are microseconds. -/

namespace Servatory

structure ProbeState where
  status : InternetStatus
  consecutiveFailures : UInt8
  lastSuccess : Option Nat
  nextProbe : Nat
  inFlight : Bool
  lastLinkUp : Option Bool
  generation : UInt32
  linkUpGraceRetry : Bool
  interval : Nat
  settleDelay : Nat
  retryDelay : Nat
  failuresBeforeFailed : UInt8
  deriving DecidableEq, Repr

namespace ProbeState

def newConfigured (now interval settleDelay retryDelay : Nat) (failuresBeforeFailed : UInt8) : ProbeState where
  status := .checking
  consecutiveFailures := 0
  lastSuccess := none
  nextProbe := now
  inFlight := false
  lastLinkUp := none
  generation := 0
  linkUpGraceRetry := false
  interval := interval
  settleDelay := settleDelay
  retryDelay := retryDelay
  failuresBeforeFailed := failuresBeforeFailed

/-- A link that has changed starts over, in a generation of its own. -/
def observeLink (p : ProbeState) (now : Nat) (linkUp : Bool) : ProbeState :=
  if p.lastLinkUp ≠ some linkUp then
    { p with
      lastLinkUp := some linkUp
      nextProbe := if linkUp then now + p.settleDelay else now
      status := .checking
      consecutiveFailures := 0
      generation := p.generation + 1
      linkUpGraceRetry := linkUp }
  else p

/-- The generation of the probe that is to be sent now, if one is. -/
def prepareProbe (p : ProbeState) (now : Nat) (linkUp : Bool) : ProbeState × Option UInt32 :=
  let p := p.observeLink now linkUp
  if p.inFlight ∨ now < p.nextProbe then (p, none)
  else ({ p with inFlight := true, nextProbe := now + p.interval }, some p.generation)

def saturatingSucc (n : UInt8) : UInt8 := if n = 255 then 255 else n + 1

def recordResult (p : ProbeState) (generation : UInt32) (reachable : Bool) (now : Nat) : ProbeState :=
  let p := { p with inFlight := false }
  if p.generation ≠ generation then p
  else if reachable then
    { p with status := .reachable, consecutiveFailures := 0, lastSuccess := some now, linkUpGraceRetry := false }
  else if p.linkUpGraceRetry then
    { p with status := .checking, linkUpGraceRetry := false, nextProbe := now + p.retryDelay }
  else
    let consecutiveFailures := saturatingSucc p.consecutiveFailures
    { p with
      consecutiveFailures
      status := if consecutiveFailures < p.failuresBeforeFailed then .missed else .failed }

/-- What the collector reports: the status, and the age of the last success in seconds. -/
def report (p : ProbeState) (now : Nat) : InternetStatus × Option UInt32 :=
  (p.status, p.lastSuccess.map fun success =>
    if (now - success) / 1000000 < UInt32.size then UInt32.ofNat ((now - success) / 1000000)
    else UInt32.ofNat (UInt32.size - 1))

end ProbeState

/-- The state of a probe that starts; the defaults are those of a collector without configuration. -/
def ConnectivityProbe.new (config : Option InternetConfig) (now : Nat) : ProbeState :=
  match config with
  | some config =>
    .newConfigured now (config.interval * 1000) (config.linkUpSettleDelay * 1000)
      (config.firstFailureRetryDelay * 1000) config.failuresBeforeFailed
  | none => .newConfigured now (30 * 1000000) (3 * 1000000) (5 * 1000000) 2

/-! ### The collector and the probes under way -/

/-- A probe that was sent, and how often the link had changed by then. -/
structure Issued where
  generation : UInt32
  linkChanges : Nat
  deriving DecidableEq, Repr

/-- The shared state and the probes without a result. What the code does not keep: the time of the last call, how
    often the link has changed and when it last did, and the results since then of the probes sent since then. -/
structure Probing where
  state : ProbeState
  outstanding : List Issued
  clock : Nat
  linkChanges : Nat
  changedAt : Nat
  results : List Bool
  deriving DecidableEq, Repr

inductive ProbeAction
  | prepare (now : Nat) (linkUp : Bool)
  | result (probe : Issued) (reachable : Bool) (now : Nat)
  deriving DecidableEq, Repr

namespace Probing

def start (state : ProbeState) (now : Nat) : Probing := ⟨state, [], now, 0, now, []⟩

/-- The link differs from what was last observed. The first observation counts as a change. -/
def Changes (s : Probing) (linkUp : Bool) : Prop := s.state.lastLinkUp ≠ some linkUp

instance (s : Probing) (linkUp : Bool) : Decidable (s.Changes linkUp) := inferInstanceAs (Decidable (_ ≠ _))

def prepare (s : Probing) (now : Nat) (linkUp : Bool) : Probing :=
  let linkChanges := if s.Changes linkUp then s.linkChanges + 1 else s.linkChanges
  let (state, generation) := s.state.prepareProbe now linkUp
  { state
    outstanding := s.outstanding ++ (generation.map fun generation => ⟨generation, linkChanges⟩).toList
    clock := now
    linkChanges
    changedAt := if s.Changes linkUp then now else s.changedAt
    results := if s.Changes linkUp then [] else s.results }

def result (s : Probing) (probe : Issued) (reachable : Bool) (now : Nat) : Probing :=
  { s with
    state := s.state.recordResult probe.generation reachable now
    outstanding := s.outstanding.erase probe
    clock := now
    results := if probe.linkChanges = s.linkChanges then s.results ++ [reachable] else s.results }

def next (s : Probing) : ProbeAction → Probing
  | .prepare now linkUp => s.prepare now linkUp
  | .result probe reachable now => s.result probe reachable now

/-- Time does not run back, every probe gets one result, and the generations do not come round: since the link was first
    observed, it has changed fewer than 2^32 times. -/
def Allowed (s : Probing) : ProbeAction → Prop
  | .prepare now linkUp => s.clock ≤ now ∧ (s.Changes linkUp → s.linkChanges < UInt32.size)
  | .result probe _ now => s.clock ≤ now ∧ probe ∈ s.outstanding

instance (s : Probing) (a : ProbeAction) : Decidable (s.Allowed a) :=
  match a with
  | .prepare _ _ => inferInstanceAs (Decidable (_ ∧ _))
  | .result _ _ _ => inferInstanceAs (Decidable (_ ∧ _))

/-- The states of a collector that starts with a fresh probe state. -/
abbrev Reached (interval settleDelay retryDelay : Nat) (failuresBeforeFailed : UInt8) : Probing → Prop :=
  Transition.Reachable
    (fun s => ∃ now, s = start (.newConfigured now interval settleDelay retryDelay failuresBeforeFailed) now)
    (Transition.Guarded Allowed next)

end Probing
end Servatory
