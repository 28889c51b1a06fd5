import Servatory.Lib.Text
import Servatory.Lib.Utf8
import Servatory.Protocol.Message

/-! What the health collector reads from the texts of the kernel and of `df`: the load of the processors, the load
    average, and the usage of a filesystem. -/

namespace Servatory

structure CpuTimes where
  total : Nat
  idle : Nat
  deriving DecidableEq, Repr

/-- The times of all processors. Fields that are no numbers are passed over, and the sum of all that are is the total:
    it wraps at 64 bits, where the idle times saturate. -/
def readCpuTimes (text : Option String) : Option CpuTimes := do
  let line ← (Text.lines (← text).toList).find? ("cpu ".toList.isPrefixOf ·)
  let values := (Text.words line).tail.filterMap (Text.parseUnsigned UInt64.size)
  if values.length < 4 then none
  else some ⟨values.foldl (· + ·) 0 % UInt64.size, min (values.getD 3 0 + values.getD 4 0) (UInt64.size - 1)⟩

def cpuPercent (previous current : Option CpuTimes) : UInt8 :=
  match previous, current with
  | some previous, some current =>
    let total := current.total - previous.total
    let idle := current.idle - previous.idle
    let percent := min ((total - idle) * 100) (UInt64.size - 1) / total
    if total ≠ 0 ∧ percent < UInt8.size then percent.toUInt8 else 0
  | _, _ => 0

/-- A number in hundredths: the first two bytes behind the point count when they are not below the digits. The additions
    saturate at 32 bits, and the result is refused when it does not fit 16. -/
def parseHundredths (value : List Char) : Option UInt16 := do
  let (whole, fraction) := (Text.splitOnce '.' value).getD (value, [])
  let whole ← Text.parseUnsigned UInt32.size whole
  let digits := ((Utf8.encode fraction).take 2).map fun digit => if digit < 48 then none else some (digit - 48).toNat
  let tenths := ((digits[0]?).join).getD 0
  let hundredths := ((digits[1]?).join).getD 0
  let maximum := UInt32.size - 1
  let sum := min (min (min (whole * 100) maximum + tenths * 10) maximum + hundredths) maximum
  if sum < UInt16.size then some sum.toUInt16 else none

def readLoadAverage (text : Option String) : UInt16 :=
  (do parseHundredths (← (Text.words (← text).toList).head?)).getD 0

/-- A percentage above 100 is taken as 100. -/
def FilesystemUsage.new (usedPercent : UInt8) (availableMib : UInt32) : FilesystemUsage :=
  ⟨if 100 < usedPercent then 100 else usedPercent, availableMib, true⟩

/-- The usage in the last line of the output, when its last word is the mount point. -/
def parseFilesystemUsage (output expectedMount : String) : Option FilesystemUsage := do
  let fields := Text.words (← (Text.lines output.toList).getLast?)
  if fields.length < 6 ∨ fields.getLast? ≠ some expectedMount.toList then none
  else
    let availableKib ← Text.parseUnsigned UInt64.size (← fields[3]?)
    let usedPercent ← Text.parseUnsigned UInt8.size ((← fields[4]?).rdropWhile (· == '%'))
    some (.new usedPercent.toUInt8 (min (availableKib / 1024) (UInt32.size - 1)).toUInt32)

end Servatory
