set_option autoImplicit false

namespace Conduit

/-- The parts that report on their work. -/
inductive Subsystem where
  | copy
  | cache
  | splice
  | pool
  | handshake
  deriving DecidableEq, Repr

namespace Subsystem

def all : List Subsystem := [.copy, .cache, .splice, .pool, .handshake]

def name : Subsystem → String
  | .copy => "copy"
  | .cache => "cache"
  | .splice => "splice"
  | .pool => "pool"
  | .handshake => "handshake"

def target : Subsystem → String
  | .copy => "relay::copy"
  | .cache => "relay::cache"
  | .splice => "relay::splice"
  | .pool => "relay::pool"
  | .handshake => "relay::handshake"

def ofName? (name : String) : Option Subsystem :=
  all.find? fun subsystem => subsystem.name == name

/-- A target names a subsystem by its short name, by its full target, or by a target nested below
the full one. -/
def answersTo (subsystem : Subsystem) (target : String) : Bool :=
  target == subsystem.name || target == subsystem.target ||
    (subsystem.target ++ "::").toList.isPrefixOf target.toList

def ofTarget? (target : String) : Option Subsystem :=
  all.find? fun subsystem => subsystem.answersTo target

theorem mem_all (subsystem : Subsystem) : subsystem ∈ all := by
  cases subsystem <;> decide

end Subsystem

/-- How much a report matters, least first. -/
inductive Severity where
  | trace
  | debug
  | info
  deriving DecidableEq, Repr

namespace Severity

def name : Severity → String
  | .trace => "TRACE"
  | .debug => "DEBUG"
  | .info => "INFO"

/-- The verbosity level from which reports of a severity are shown. -/
def threshold : Severity → Nat
  | .trace => 3
  | .debug => 2
  | .info => 1

end Severity

/-- A level for each subsystem; zero silences it. -/
structure Verbosity where
  copy : UInt8
  cache : UInt8
  splice : UInt8
  pool : UInt8
  handshake : UInt8
  deriving DecidableEq, Repr

namespace Verbosity

def silent : Verbosity := ⟨0, 0, 0, 0, 0⟩

def level (verbosity : Verbosity) : Subsystem → UInt8
  | .copy => verbosity.copy
  | .cache => verbosity.cache
  | .splice => verbosity.splice
  | .pool => verbosity.pool
  | .handshake => verbosity.handshake

def setting (verbosity : Verbosity) (subsystem : Subsystem) (level : UInt8) : Verbosity :=
  match subsystem with
  | .copy => { verbosity with copy := level }
  | .cache => { verbosity with cache := level }
  | .splice => { verbosity with splice := level }
  | .pool => { verbosity with pool := level }
  | .handshake => { verbosity with handshake := level }

/-- One number for all: at one copies report their phases, at two caches and handshakes speak too,
from three on everything does. -/
def ofLevel (level : UInt8) : Verbosity :=
  if level = 0 then silent
  else if level = 1 then { silent with copy := 1 }
  else if level = 2 then { silent with copy := 2, cache := 2, handshake := 2 }
  else ⟨3, 3, 3, 3, 3⟩

def enabled (verbosity : Verbosity) (subsystem : Subsystem) (level : UInt8) : Bool :=
  decide (level ≤ verbosity.level subsystem)

def filterName (level : UInt8) : String :=
  if level = 0 then "off"
  else if level = 1 then "info"
  else if level = 2 then "debug"
  else "trace"

/-- A report is shown when its subsystem's level reaches the threshold of its severity. -/
def shows (verbosity : Verbosity) (subsystem : Subsystem) (severity : Severity) : Bool :=
  decide (severity.threshold ≤ (verbosity.level subsystem).toNat)

def directives (verbosity : Verbosity) : List String :=
  "warn" :: Subsystem.all.map fun subsystem =>
    subsystem.target ++ "=" ++ filterName (verbosity.level subsystem)

theorem level_setting (verbosity : Verbosity) (subsystem other : Subsystem) (level : UInt8) :
    (verbosity.setting subsystem level).level other =
      if other = subsystem then level else verbosity.level other := by
  cases subsystem <;> cases other <;> rfl

end Verbosity

end Conduit
