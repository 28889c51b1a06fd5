import Servatory.Firmware.Dashboard
import Servatory.Lib.Transition

/-! The script of the dashboard. A browser runs each of its functions up to where it waits, one at a time; the timers, the
    answers of the Stick and the user come in between in any order. Times are in microseconds, of which `Date.now()` counts
    the thousands. -/

namespace Servatory.DashboardScript
open Dashboard

/-! ### What the Stick has rendered -/

/-- A rendering of the dashboard, as a document or as the part of it that a refresh asks for. -/
structure Rendering where
  build : SoftwareVersion
  now : Nat
  later : Nat
  state : SharedState
  document : Bool

/-- The attributes of the shell. -/
structure Dataset where
  bodyClass : String
  snapshotAge : Int
  staleAfter : Nat

namespace Rendering

def overflowed (r : Rendering) : Bool := (dashboardBuffer r.build r.now r.later r.state r.document).overflowed

/-- The age of the snapshot in seconds. -/
def age (r : Rendering) : Option Nat := (snapshotAge r.later r.state).map (· / 1000000)

/-- The shell that is rendered when the buffer has overflowed has no attributes, and no elements that the script looks for. -/
def dataset (r : Rendering) : Option Dataset :=
  if r.overflowed then none
  else
    some {
      bodyClass := levelClass ((r.state.snapshot.map (·.health.level)).getD .critical)
      snapshotAge := r.age.elim (-1) fun seconds => seconds
      staleAfter := hostStaleAfter / 1000000 }

end Rendering

/-! ### The page -/

/-- What is written behind the button. -/
inductive Feedback
  | empty
  | sending
  | queued
  | failed
  deriving DecidableEq, Repr

/-- The element that a refresh replaces, and what the script has set in it. Elements are told apart by numbers. -/
structure Shell where
  element : Nat
  rendering : Rendering
  ageStarted : Nat
  ageLabel : String
  badge : String
  isStale : Bool
  refreshFailed : Bool
  disabled : Bool
  feedback : Feedback

/-- What a function of the script waits for, with the shell in which it has found its elements. -/
inductive Pending
  | response
  | text
  | testResponse (element : Nat)
  | testTimeout (element : Nat)
  deriving DecidableEq, Repr

/-- `elements` have been created, `clock` is the time of the last event, and `updated` that at which the age was last worked
    out. -/
structure Page where
  shell : Shell
  bodyClass : String
  dashboardBusy : Bool
  refreshFailed : Bool
  hidden : Bool
  pending : List Pending
  elements : Nat
  clock : Nat
  updated : Nat

def formatSnapshotAge (seconds : Nat) : String :=
  if seconds = 0 then "Updated just now"
  else if seconds = 1 then "Updated 1 second ago"
  else "Updated " ++ toString seconds ++ " seconds ago"

namespace Shell

/-- A shell as it is rendered. -/
def ofRendering (element : Nat) (r : Rendering) : Shell where
  element
  rendering := r
  ageStarted := 0
  ageLabel := ""
  badge := ""
  isStale := false
  refreshFailed := false
  disabled := false
  feedback := .empty

def initializeSnapshotClock (s : Shell) (now : Nat) : Shell := { s with ageStarted := now / 1000 }

/-- The age in seconds, if there is a snapshot. -/
def age (s : Shell) (d : Dataset) (now : Nat) : Option Nat :=
  if 0 ≤ d.snapshotAge then some (d.snapshotAge.toNat + (now / 1000 - s.ageStarted) / 1000) else none

def updateSnapshotAge (s : Shell) (refreshFailed : Bool) (now : Nat) : Shell :=
  match s.rendering.dataset with
  | none => { s with isStale := true, refreshFailed }
  | some d =>
    let age := s.age d now
    let stale := age.all fun age => age ≥ d.staleAfter
    { s with
      ageLabel := age.elim "No host snapshot received" formatSnapshotAge
      badge := if age.isNone then "NO DATA" else if stale then "STALE" else if refreshFailed then "RETRYING" else "LIVE"
      isStale := stale
      refreshFailed }

end Shell

namespace Page

def updateSnapshotAge (p : Page) (now : Nat) : Page :=
  { p with shell := p.shell.updateSnapshotAge p.refreshFailed now, updated := now }

/-- The page when its script starts. -/
def load (r : Rendering) (hidden : Bool) (now : Nat) : Page :=
  updateSnapshotAge
    { shell := (Shell.ofRendering 0 r).initializeSnapshotClock now
      bodyClass := levelClass ((r.state.snapshot.map (·.health.level)).getD .critical)
      dashboardBusy := false
      refreshFailed := false
      hidden
      pending := []
      elements := 1
      clock := now
      updated := now } now

/-- A function goes on from where it has waited. -/
def resume (p : Page) (waited : Pending) (waits : List Pending) : Page :=
  { p with pending := p.pending.erase waited ++ waits }

/-- A change of an element; one that is no longer in the document does not show. -/
def setIn (p : Page) (element : Nat) (f : Shell → Shell) : Page :=
  if p.shell.element = element then { p with shell := f p.shell } else p

/-- `refreshDashboard` up to the request. -/
def refreshDashboard (p : Page) : Page :=
  if p.dashboardBusy || p.hidden then p else { p with dashboardBusy := true, pending := p.pending ++ [.response] }

def refreshError (p : Page) (now : Nat) : Page :=
  { updateSnapshotAge { p with refreshFailed := true } now with dashboardBusy := false }

def replaceShell (p : Page) (r : Rendering) (now : Nat) : Page :=
  { updateSnapshotAge
      { p with
        bodyClass := r.dataset.elim "undefined" (·.bodyClass)
        shell := (Shell.ofRendering p.elements r).initializeSnapshotClock now
        elements := p.elements + 1
        refreshFailed := false } now with
    dashboardBusy := false }

/-- `sendTestNotification` up to the request. -/
def sendTestNotification (p : Page) : Page :=
  if p.dashboardBusy then p
  else
    { p with
      dashboardBusy := true
      shell := { p.shell with disabled := true, feedback := .sending }
      pending := p.pending ++ [.testResponse p.shell.element] }

end Page

inductive Event
  | tick
  | refreshTimer
  | visibilityChange (hidden : Bool)
  | response (ok : Bool)
  | text (rendering : Option Rendering)
  | click
  | testResponse (element : Nat) (ok : Bool)
  | testTimeout (element : Nat)

namespace Page

/-- A function goes on only when it waits, and a button that is disabled cannot be clicked. A rendering is one of a state
    before, with a snapshot from before. -/
def Allowed (p : Page) : Event × Nat → Prop
  | (e, now) => p.clock ≤ now ∧
    match e with
    | .tick | .refreshTimer | .visibilityChange _ => True
    | .response _ => .response ∈ p.pending
    | .text none => .text ∈ p.pending
    | .text (some r) =>
      .text ∈ p.pending ∧ r.document = false ∧ r.later ≤ now ∧ ∀ updated ∈ r.state.lastUpdate, updated ≤ r.later
    | .click => p.shell.rendering.dataset.isSome ∧ p.shell.disabled = false
    | .testResponse element _ => .testResponse element ∈ p.pending
    | .testTimeout element => .testTimeout element ∈ p.pending

def next (p : Page) : Event × Nat → Page
  | (e, now) =>
    let p := { p with clock := now }
    match e with
    | .tick => p.updateSnapshotAge now
    | .refreshTimer => p.refreshDashboard
    | .visibilityChange hidden => ({ p with hidden }.updateSnapshotAge now).refreshDashboard
    | .response ok => if ok then p.resume .response [.text] else (p.resume .response []).refreshError now
    | .text none => (p.resume .text []).refreshError now
    | .text (some r) => (p.resume .text []).replaceShell r now
    | .click => p.sendTestNotification
    | .testResponse element ok =>
      (p.resume (.testResponse element) [.testTimeout element]).setIn element fun s =>
        { s with feedback := if ok then .queued else .failed }
    | .testTimeout element =>
      { (p.resume (.testTimeout element) []).setIn element fun s => { s with disabled := false, feedback := .empty } with
        dashboardBusy := false }

/-- The script is part of a document, which the buffer has taken. -/
def Initial (p : Page) : Prop :=
  ∃ r hidden now, p = load r hidden now ∧ r.document = true ∧ r.overflowed = false ∧ r.later ≤ now ∧
    ∀ updated ∈ r.state.lastUpdate, updated ≤ r.later

abbrev Reachable : Page → Prop := Transition.Reachable Initial (Transition.Guarded Allowed next)

end Page
end Servatory.DashboardScript
