import Servatory.Protocol.Message

/-! What the main loop hands to the network tasks: the shared state and the one-slot channels of what is to be
    stored. -/

namespace Servatory

structure SharedState where
  snapshot : Option HealthSnapshot
  manifest : Option NetworkConfig
  filesystemLabels : List DisplayLabel
  lastUpdate : Option Nat
  stationIpv4 : Option (UInt8 × UInt8 × UInt8 × UInt8)
  ntfyTopic : Option String
  daemonVersion : Option SoftwareVersion
  webServerPort : Option UInt16
  manifests : Option NetworkConfig
  topicUpdates : Option String
  deriving DecidableEq, Repr

namespace SharedState

def new : SharedState := ⟨none, none, [], none, none, none, none, none, none, none⟩

def updateDaemonVersion (s : SharedState) (version : SoftwareVersion) : SharedState :=
  { s with daemonVersion := some version }

def updateSnapshot (s : SharedState) (now : Nat) (snapshot : HealthSnapshot) : SharedState :=
  { s with snapshot := some snapshot, lastUpdate := some now }

def updateFilesystemLabels (s : SharedState) (labels : List DisplayLabel) : SharedState :=
  { s with filesystemLabels := labels }

def setWebServer (s : SharedState) (enabled : Bool) (port : UInt16) : SharedState :=
  { s with webServerPort := if enabled then some port else none }

/-- A manifest that differs from the last one replaces whatever waits to be stored. -/
def updateManifest (s : SharedState) (manifest : NetworkConfig) : SharedState :=
  let s := s.setWebServer manifest.http.enabled manifest.http.port
  if s.manifest = some manifest then s
  else { s with manifest := some manifest, manifests := some manifest }

end SharedState
end Servatory
