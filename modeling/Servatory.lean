import Servatory.Lib.Except
import Servatory.Lib.FixedString
import Servatory.Lib.Postcard
import Servatory.Lib.Cobs
import Servatory.Lib.Transition
import Servatory.Lib.Progress
import Servatory.Lib.History
import Servatory.Lib.Challenge
import Servatory.Lib.Digest
import Servatory.Lib.Reading
import Servatory.Lib.NorFlash
import Servatory.Lib.Heartbeat
import Servatory.Lib.Paging
import Servatory.Lib.Html
import Servatory.Lib.Segments
import Servatory.Lib.FirstMax
import Servatory.Lib.SortByKey
import Servatory.Lib.Template
import Servatory.Lib.Text
import Servatory.Lib.Utf8
import Servatory.Lib.Json
import Servatory.Lib.BoundedQueue
import Servatory.Lib.Refresh
import Servatory.Lib.Rounding
import Servatory.Lib.Painting
import Servatory.Protocol.Message
import Servatory.Protocol.Wire
import Servatory.Protocol.Frame
import Servatory.Protocol.Size
import Servatory.Firmware.UsbTx
import Servatory.Firmware.Button
import Servatory.Firmware.Network
import Servatory.Firmware.Main
import Servatory.Firmware.Format
import Servatory.Firmware.Render
import Servatory.Firmware.Provisioning
import Servatory.Firmware.Setup
import Servatory.Firmware.Flash
import Servatory.Firmware.SettingsTasks
import Servatory.Firmware.Notifications
import Servatory.Firmware.Dashboard
import Servatory.Firmware.HealthJson
import Servatory.Firmware.DashboardScript
import Servatory.Firmware.Framebuffer
import Servatory.Host.Config
import Servatory.Host.Health
import Servatory.Host.Probe
import Servatory.Host.Conditions
import Servatory.Host.Layout
import Servatory.Host.Usage
import Servatory.Host.Backup
import Servatory.Host.Interfaces
import Servatory.Host.Float
import Servatory.Host.Command
import Servatory.Host.Ups
import Servatory.Host.Guests
import Servatory.Host.Smart
import Servatory.Host.Route
import Servatory.Host.Collector
import Servatory.Host.Policy
import Servatory.Host.Shutdown
import Servatory.Host.Main
import Servatory.System
import Servatory.Timing
import Servatory.Recovery
import Servatory.Alarm
import Servatory.Theorems.Framing
import Servatory.Theorems.Transmit
import Servatory.Theorems.Button
import Servatory.Theorems.Stream
import Servatory.Theorems.Join
import Servatory.Theorems.Stick.Frame
import Servatory.Theorems.Stick.Session
import Servatory.Theorems.Stick.Requests
import Servatory.Theorems.Stick.Drawing
import Servatory.Theorems.Host.Validate
import Servatory.Theorems.Host.Manifest
import Servatory.Theorems.Host.Budget
import Servatory.Theorems.Host.Writes
import Servatory.Theorems.Host.Phases
import Servatory.Theorems.Host.Agreement
import Servatory.Theorems.Host.Shutdown
import Servatory.Theorems.Host.Probe
import Servatory.Theorems.Host.Conditions
import Servatory.Theorems.Host.Policy
import Servatory.Theorems.Host.Messages
import Servatory.Theorems.Storage
import Servatory.Theorems.Guests
import Servatory.Theorems.Host.Outputs
import Servatory.Theorems.Host.Durations
import Servatory.Theorems.Host.Layout
import Servatory.Theorems.Host.Usage
import Servatory.Theorems.Host.Backup
import Servatory.Theorems.Host.Interfaces
import Servatory.Theorems.Host.Resolution
import Servatory.Theorems.Host.Enumeration
import Servatory.Theorems.Host.Float
import Servatory.Theorems.Host.Frames
import Servatory.Theorems.Host.Ups
import Servatory.Theorems.Host.Collector
import Servatory.Theorems.Rows
import Servatory.Theorems.Persistence
import Servatory.Theorems.Settings
import Servatory.Theorems.Flash
import Servatory.Theorems.Corruption
import Servatory.Theorems.SettingsTasks
import Servatory.Theorems.Notifications
import Servatory.Theorems.Repeats
import Servatory.Theorems.Delivery
import Servatory.Theorems.System.Link
import Servatory.Theorems.System.Authenticity
import Servatory.Theorems.System.Manifests
import Servatory.Theorems.System.Timing
import Servatory.Theorems.Stick.Idle
import Servatory.Theorems.System.Recovery
import Servatory.Theorems.System.Alarm
import Servatory.Theorems.Dashboard
import Servatory.Theorems.Buffer
import Servatory.Theorems.Sections
import Servatory.Theorems.DashboardScript
import Servatory.Theorems.HealthJson
import Servatory.Theorems.Framebuffer
import Servatory.Theorems.Cause
import Servatory.Theorems.Setup.Form
import Servatory.Theorems.Setup.Request
import Servatory.Firmware.Http
import Servatory.Theorems.Http
import Servatory.Theorems.Host.Route
