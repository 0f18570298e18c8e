import Conduit.Allocator

set_option autoImplicit false

namespace Conduit

structure SpliceSettings where
  /-- Descriptors may be spliced at all. -/
  enabled : Bool
  /-- The capacity asked of new pipes. -/
  pipeSize : Nat
  /-- The most bytes moved by one call. -/
  maxChunk : Nat
  /-- How many idle pipes are kept. -/
  maxIdlePipes : Nat
  deriving DecidableEq, Repr

structure Settings where
  buffers : BufferSettings
  splice : SpliceSettings
  /-- Check that cached buffers are drained once they were written out. -/
  consistencyChecks : Bool
  deriving DecidableEq, Repr

namespace BufferSettings

/-- The usual pools; each keeps four storages a processor. -/
def standard (processors : Nat) : BufferSettings :=
  ⟨[512, 4096, 16384, 32768], processors * 4, 4096, 32768⟩

end BufferSettings

namespace SpliceSettings

/-- The usual pipes, of one mebibyte. -/
def standard : SpliceSettings := ⟨true, 1 <<< 20, 1 <<< 20, 16⟩

end SpliceSettings

namespace Settings

/-- The usual settings on a machine with so many processors. -/
def standard (processors : Nat) : Settings :=
  ⟨.standard processors, .standard, true⟩

/-- For a few long streams: larger pipes, and more of them. -/
def forBulkTransfers (processors : Nat) : Settings :=
  { standard processors with splice := ⟨true, 4 <<< 20, 4 <<< 20, 64⟩ }

/-- For many short connections: small pipes, and more storages kept. -/
def forManyConnections (processors : Nat) : Settings :=
  let usual := BufferSettings.standard processors
  { standard processors with
    buffers := { usual with maxRetained := usual.maxRetained * 4 }
    splice := ⟨true, 65536, 65536, 256⟩ }

def withoutSplice (settings : Settings) : Settings :=
  { settings with splice := { settings.splice with enabled := false } }

end Settings

end Conduit
