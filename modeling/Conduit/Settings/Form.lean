import Conduit.Json.Text
import Conduit.Settings.Basic
import Conduit.Verbosity

set_option autoImplicit false

namespace Conduit

/-- Sizes and counts are below this. -/
def wordLimit : Nat := 1 <<< 64

namespace BufferSettings

def fields : List (Json.Field BufferSettings) :=
  [.of "class_sizes" (Json.list (Json.natBelow wordLimit))
      fun settings classSizes => { settings with classSizes },
    .of "max_retained" (Json.natBelow wordLimit)
      fun settings maxRetained => { settings with maxRetained },
    .of "standard_size" (Json.natBelow wordLimit)
      fun settings standardSize => { settings with standardSize },
    .of "huge_size" (Json.natBelow wordLimit)
      fun settings hugeSize => { settings with hugeSize }]

end BufferSettings

namespace SpliceSettings

def fields : List (Json.Field SpliceSettings) :=
  [.of "enabled" Json.bool fun settings enabled => { settings with enabled },
    .of "pipe_size" (Json.natBelow wordLimit)
      fun settings pipeSize => { settings with pipeSize },
    .of "max_chunk" (Json.natBelow wordLimit)
      fun settings maxChunk => { settings with maxChunk },
    .of "max_idle_pipes" (Json.natBelow wordLimit)
      fun settings maxIdlePipes => { settings with maxIdlePipes }]

end SpliceSettings

namespace Settings

/-- The fields of the written form, on a machine with so many processors. -/
def fields (processors : Nat) : List (Json.Field Settings) :=
  [.of "buffers" (Json.record BufferSettings.fields (.standard processors))
      fun settings buffers => { settings with buffers },
    .of "splice" (Json.record SpliceSettings.fields .standard)
      fun settings splice => { settings with splice },
    .of "consistency_checks" Json.bool
      fun settings consistencyChecks => { settings with consistencyChecks }]

def ofText (processors : Nat) (text : String) : Except Json.ReadFault Settings :=
  Json.readText (Json.record (fields processors) (standard processors)) text

end Settings

namespace Verbosity

def levelFields : List (Json.Field Verbosity) :=
  Subsystem.all.map fun subsystem =>
    .of subsystem.name (Json.natBelow 256)
      fun verbosity level => verbosity.setting subsystem (UInt8.ofNat level)

def fields : List (Json.Field Verbosity) :=
  [.of "levels" (Json.record levelFields silent) fun _ levels => levels]

def ofText (text : String) : Except Json.ReadFault Verbosity :=
  Json.readText (Json.record fields silent) text

end Verbosity

namespace Subsystem

def ofText (text : String) : Except Json.ReadFault Subsystem :=
  Json.readText
    (Json.choice fun name => all.find? fun subsystem => Bytes.ofText subsystem.name == name) text

end Subsystem

end Conduit
