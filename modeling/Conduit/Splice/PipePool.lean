import Conduit.World.Basic

set_option autoImplicit false

namespace Conduit

namespace World

/-- Makes a pool of pipes, whose number is `world.pipePools.next`. -/
def addPipePool (world : World) (maxIdle : Nat) : World :=
  { world with pipePools := world.pipePools.add (.new maxIdle) }

def pipePool (world : World) (pool : PipePoolId) : PipePool := world.pipePools.get pool

def openPipe (world : World) (pool : PipePoolId) : Except IoFault Pipe × World :=
  match world.kernel.openPipe with
  | (.error error, kernel) => (.error (.system error), { world with kernel })
  | (.ok id, kernel) =>
    (.ok ⟨id, 0⟩, { world with
      kernel
      pipePools := world.pipePools.update pool fun row => { row with created := row.created + 1 } })

/-- Takes the idle pipe put back last, or makes one. -/
def checkoutPipe (world : World) (pool : PipePoolId) : Except IoFault Pipe × World :=
  let row := world.pipePool pool
  match row.idle with
  | pipe :: rest =>
    (.ok pipe, { world with
      pipePools := world.pipePools.put pool { row with idle := rest, reused := row.reused + 1 } })
  | [] =>
    match world.openPipe pool with
    | (.error fault, world) => (.error fault, world)
    | (.ok pipe, world) =>
      (.ok pipe, world.notice (.pipe "created" (world.pipePool pool).idle.length))

/-- Puts a pipe back. One that holds bytes, or for which there is no room, is given up. -/
def checkinPipe (world : World) (pool : PipePoolId) (pipe : Pipe) : World :=
  let row := world.pipePool pool
  if pipe.pending ≠ 0 then
    { world with
      pipePools := world.pipePools.put pool { row with destroyed := row.destroyed + 1 } }.notice
      (.pipe "destroyed dirty" row.idle.length)
  else if row.idle.length < row.maxIdle then
    { world with
      pipePools := world.pipePools.put pool
        { row with idle := pipe :: row.idle, recycled := row.recycled + 1 } }
  else
    { world with
      pipePools := world.pipePools.put pool { row with destroyed := row.destroyed + 1 } }

/-- Makes up to so many idle pipes, until one cannot be made. -/
def prewarmLoop (world : World) (pool : PipePoolId) : (missing added : Nat) →
    Except IoFault Nat × World
  | 0, added => (.ok added, world)
  | missing + 1, added =>
    match world.openPipe pool with
    | (.error fault, world) => (.error fault, world)
    | (.ok pipe, world) =>
      prewarmLoop
        { world with
          pipePools := world.pipePools.update pool fun row =>
            { row with idle := pipe :: row.idle } }
        pool missing (added + 1)

/-- Makes pipes until so many lie idle, or as many as the pool keeps, and says how many it made. -/
def prewarmPipes (world : World) (pool : PipePoolId) (wanted : Nat) :
    Except IoFault Nat × World :=
  let row := world.pipePool pool
  world.prewarmLoop pool (min wanted row.maxIdle - row.idle.length) 0

end World

end Conduit
