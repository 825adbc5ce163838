import Courier.Program
import Std.Time.DateTime.Timestamp

/-!
# Courier — The executable

Takes from the operating system what a run of the program needs (the files it may read, the
environment, the clock and random bytes), runs it, and writes the output and the log.
-/

namespace Courier.Main

/-! ### Files and the environment -/

/-- Why a file cannot be read. -/
def fileErrorOf : IO.Error → FileError
  | .noFileOrDirectory _ _ _    => .notFound
  | .inappropriateType _ code _ => if code = 21 then .isDirectory else .notDirectory
  | .invalidArgument _ code _   => if code = 22 then .zeroInName else .nameTooLong
  | _                           => .denied

def readFile (path : String) : BaseIO (Except FileError ByteArray) := do
  let content ← EIO.toBaseIO (IO.FS.readBinFile path)
  return content.mapError fileErrorOf

/-- The files at the given paths. -/
def readFiles (paths : List String) : BaseIO Files := do
  let contents ← paths.mapM fun path => do return (path, ← readFile path)
  return fun path => (contents.lookup path).getD (.error .notFound)

/-- The variables of the process, from where the operating system shows them. -/
def readEnvironment : BaseIO Configuration.Environment := do
  match ← readFile "/proc/self/environ" with
  | .ok block => return .ofBlock block
  | .error _  => return []

/-! ### The clock and random bytes -/

def clock : IO Instant := do
  let now ← Std.Time.Timestamp.now
  let nanos := now.toNanosecondsSinceUnixEpoch.val
  return (Instant.ofUnix? (nanos / nanosPerSecond) (nanos % nanosPerSecond).toNat).getD
    ⟨0, 0, by decide, by decide⟩

/-- The distance between the random parts of two puts: odd, so that none comes twice. -/
def stride : Nat := 0x9E3779B97F4A7C15F39CC0605CEDC835

/-- The random part of put number `i` from one random number. -/
def entropyAt (seed i : Nat) : Entropy :=
  Vector.ofFn fun k : Fin 16 => UInt8.ofNat ((seed + i * stride) / Nat.pow 256 k.val)

def drawFrom (now : Instant) : IO (Nat → Draw) := do
  let bytes ← IO.getRandomBytes 16
  let seed := bytes.foldl (fun n b => n * 256 + b.toNat) 0
  return fun i => ⟨now, entropyAt seed i⟩

/-! ### A run -/

def run (args : List String) : IO UInt32 := do
  let environment ← readEnvironment
  let paths := match Program.invocation environment args with
    | .ok i    => i.paths
    | .error _ => []
  let now ← clock
  let w : Surroundings := ⟨← readFiles paths, environment, ← drawFrom now⟩
  let done := Program.process w args
  let err ← IO.getStderr
  for event in done.log do
    err.putStrLn (if done.jsonLogs then (event.timedJson now).compact else event.timedLine now)
  IO.print done.output
  return done.exitCode.toUInt32

end Courier.Main

def main (args : List String) : IO UInt32 := Courier.Main.run args
