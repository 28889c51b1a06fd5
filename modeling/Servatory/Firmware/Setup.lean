import Servatory.Firmware.Provisioning
import Servatory.Lib.Text
import Servatory.Lib.Utf8

/-! The web server of the setup network: it reads a request from a socket, and the settings from the form in its body.
    Sizes are counted in 32 bits. -/

namespace Servatory

/-! ### The form -/

def hex (byte : UInt8) : Option UInt8 :=
  if 0x30 ≤ byte ∧ byte ≤ 0x39 then some (byte - 0x30)
  else if 0x61 ≤ byte ∧ byte ≤ 0x66 then some (byte - 0x61 + 10)
  else if 0x41 ≤ byte ∧ byte ≤ 0x46 then some (byte - 0x41 + 10)
  else none

/-- The bytes that a value stands for. A percent sign that two other bytes than digits follow is passed over. -/
def formBytes : List UInt8 → List UInt8
  | [] => []
  | byte :: rest =>
    if byte = 0x2b then 0x20 :: formBytes rest
    else if byte = 0x25 then
      match rest with
      | high :: low :: rest =>
        match hex high, hex low with
        | some high, some low => (high <<< 4 ||| low) :: formBytes rest
        | _, _ => formBytes (high :: low :: rest)
      | rest => byte :: formBytes rest
    else byte :: formBytes rest

def formDecode (value : List Char) : String := ((Utf8.decode (formBytes (Utf8.encode value))).map String.ofList).getD ""

/-- The first value of a field of the form. -/
def formValue (body : List Char) (name : String) : Option String :=
  (body.splitOn '&').findSome? fun field => do
    let (key, value) ← Text.splitOnce '=' field
    if key = name.toList then some (formDecode value) else none

def parseProvisioning (body : List Char) : Option Provisioning := do
  let ssid ← formValue body "ssid"
  let password := (formValue body "password").getD ""
  let hostname ← formValue body "hostname"
  let ntfyTopic ← formValue body "ntfy_topic"
  let provisioning : Provisioning := ⟨ssid, password, hostname, ntfyTopic⟩
  if provisioning.isValid then some provisioning else none

/-! ### The request -/

def headerEnd : List Char := "\r\n\r\n".toList

/-- The number in the first line of a header with a length that can be read. -/
def contentLength (header : List Char) : Nat :=
  ((Text.lines header).findSome? fun line => do
    let (key, value) ← Text.splitOnce ':' line
    if key.map Char.toLower = "content-length".toList then Text.parseUnsigned UInt32.size (Text.trim value)
    else none).getD 0

/-- The header of what has been read, once that is text with the end of the header in it. -/
def requestHeader (buffer : List UInt8) : Option (List Char) := do
  let (header, _) ← Text.splitAtFirst headerEnd (← Utf8.decode buffer)
  return header

/-- The check behind each read. The sum wraps. -/
def isComplete (buffer : List UInt8) : Bool :=
  match requestHeader buffer with
  | some header => ((Utf8.encode header).length + 4 + contentLength header) % UInt32.size ≤ buffer.length
  | none => false

/-- Why reading stopped, which the source does not return. -/
inductive Stop
  | complete
  | ended
  | full
  deriving DecidableEq, Repr

/-- Reads what arrives in chunks, as far as the buffer has room, up to the end of the connection or an empty read. -/
def readRequest (capacity : Nat) (buffer : List UInt8) : List (List UInt8) → List UInt8 × Stop
  | [] => (buffer, if buffer.length < capacity then .ended else .full)
  | chunk :: chunks =>
    if buffer.length < capacity then
      if chunk.isEmpty then (buffer, .ended)
      else
        let buffer := buffer ++ chunk.take (capacity - buffer.length)
        if isComplete buffer then (buffer, .complete) else readRequest capacity buffer chunks
    else (buffer, .full)

def requestCapacity : Nat := 3072

/-- The settings that a request asks to store. -/
def requestedProvisioning (request : List UInt8) : Option Provisioning :=
  let request := (Utf8.decode request).getD []
  if "POST /configure ".toList.isPrefixOf request then
    parseProvisioning (((Text.splitAtFirst headerEnd request).map (·.2)).getD [])
  else none

/-- The settings that a connection stores on which these chunks arrive. -/
def provisioningServer (chunks : List (List UInt8)) : Option Provisioning :=
  requestedProvisioning (readRequest requestCapacity [] chunks).1

end Servatory
