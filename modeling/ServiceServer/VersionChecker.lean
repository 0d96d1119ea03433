import ServiceServer.Lib.Lines
import ServiceServer.PacketDispatcher

/-!
# The version service (`VersionChecker.h`, `VersionChecker.cpp`)

A client says which version it has.  It is told that this is the latest one, or it is
told the latest one and sent the map.  Files are what their streams yield; `none` is
a file that cannot be opened.

* `lines_fullMap` — the map that is sent has the lines of the map file.
* `length_fullMap` — and is longer than the file by the separator its last line may
  lack.
-/

namespace ServiceServer

open Lib

/-- The separator of `std::getline`. -/
def newline : UInt8 := 10

/-- `VersionChecker`: what its handler reads. -/
structure VersionChecker where
  lastestVersion : Bytes
  deriving DecidableEq, Repr

namespace VersionChecker

/-- `GetLocalVersion`. -/
def getLocalVersion (versionFile : Option Bytes) : Bytes :=
  match versionFile with
  | none => ascii ['0', '.', '0']
  | some file =>
    match getline newline file with
    | none => []
    | some (version, _) => version

/-- The constructor. -/
def create (versionFile : Option Bytes) : VersionChecker := ⟨getLocalVersion versionFile⟩

/-- The loop of `SendFile`, with a bound on the number of rounds. -/
def copyLines : Nat → Bytes → Bytes
  | 0, _ => []
  | rounds + 1, file =>
    match getline newline file with
    | none => []
    | some (line, rest) => line ++ [newline] ++ copyLines rounds rest

/-- What the loop of `SendFile` collects.  Every round takes a byte, so there are no
more rounds than bytes. -/
def fullMap (file : Bytes) : Bytes := copyLines file.length file

/-- `SendFile`. -/
def sendFile (mapFile : Option Bytes) (address : IpAddress) (port : UInt16) : List SendCall :=
  match mapFile with
  | none => []
  | some file => [⟨.normal, .updateMap, fullMap file, address, port⟩]

/-- The `VERSION` handler: the calls of `SendDatagram` it makes, in order. -/
def versionHandler (v : VersionChecker) (mapFile : Option Bytes) (job : RawPacketJob) :
    Except Exception (List SendCall) :=
  if job.content = v.lastestVersion then
    match value job.sender with
    | .error e => .error e
    | .ok ip => .ok [⟨.normal, .ok, [], ip, job.port⟩]
  else
    match value job.sender with
    | .error e => .error e
    | .ok ip =>
      .ok (⟨.normal, .update, v.lastestVersion, ip, job.port⟩ :: sendFile mapFile ip job.port)

/-- A registered handler. -/
abbrev Handler := VersionChecker → Option Bytes → RawPacketJob → Except Exception (List SendCall)

/-- The handler `Run` registers. -/
def handlers : PacketType → Option Handler
  | .version => some versionHandler
  | _ => none

/-! ## The files -/

theorem copyLines_eq {rounds : Nat} {file : Bytes} (h : file.length ≤ rounds) :
    copyLines rounds file = unlines newline (lines newline file) := by
  induction rounds generalizing file with
  | zero =>
    obtain rfl : file = [] := List.length_eq_zero_iff.1 (by omega)
    rfl
  | succ rounds ih =>
    cases hg : getline newline file with
    | none =>
      obtain rfl := getline_eq_none_iff.1 hg
      simp [copyLines, hg, lines]
    | some r =>
      obtain ⟨line, rest⟩ := r
      obtain ⟨hlines, hlen⟩ := lines_eq_cons hg
      simp only [copyLines, hg]
      rw [ih (by omega), hlines, unlines_cons, List.append_assoc, List.singleton_append]

theorem fullMap_eq (file : Bytes) : fullMap file = unlines newline (lines newline file) :=
  copyLines_eq le_rfl

/-- **The map that is sent has the lines of the map file.** -/
theorem lines_fullMap (file : Bytes) : lines newline (fullMap file) = lines newline file := by
  rw [fullMap_eq, lines_unlines fun _ hl => sep_notMem_of_mem_lines hl]

/-- How long the map that is sent is. -/
theorem length_fullMap (file : Bytes) :
    (fullMap file).length = file.length + if LastLineOpen newline file then 1 else 0 := by
  rw [fullMap_eq, unlines_lines, List.length_append]
  split_ifs <;> rfl

/-- The version is the first line of its file. -/
theorem getLocalVersion_some (file : Bytes) :
    getLocalVersion (some file) = file.takeWhile (· ≠ newline) := by
  unfold getLocalVersion
  cases hg : getline newline file with
  | none =>
    obtain rfl := getline_eq_none_iff.1 hg
    simp [hg]
  | some r => simp only [hg, getline_eq_takeWhile hg]

end VersionChecker

end ServiceServer
