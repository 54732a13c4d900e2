/-
This file defines a world whose catalog and stores are reached over a network.
Clock and identifiers are fixed for the length of a run.
-/

import Fixity.Catalog.Registry
import Fixity.Program
import Fixity.Storage.Remote

namespace Fixity

/-- The parts of a networked world that stay as they are. -/
structure Site where
  registry : Catalog.Registry
  resolver : Storage.Resolver Storage.Remote
  proxies : Http.Proxies := {}
  time : Time.Timestamp := .epoch
  uuid : Uuid := .nil

namespace Site

/-- The store that reads a source; a provider without a store serves no bucket. -/
def storeOf (site : Site) (source : Storage.Source) : Storage.Remote :=
  (site.resolver.client? source.location.provider).getD {}

/-- Asks the catalog for a file. -/
def getFile (site : Site) (network : Http.Network σ) (state : σ) (id : Int64) :
    Except Catalog.Failure Catalog.File × σ :=
  let (answer, state) := network.send state (site.registry.fileRequest id)
  (site.registry.readFile id answer, state)

/-- Asks the catalog to save an event. -/
def saveEvent (site : Site) (network : Http.Network σ) (state : σ) (event : Premis.Event) :
    Except Catalog.Failure Unit × σ :=
  let (answer, state) := network.send state (site.registry.eventRequest event)
  (site.registry.readSaved event answer, state)

/-- The world of a site, whose requests go through its proxies. -/
def world (site : Site) (network : Http.Network σ) : World σ where
  answer state
    | .getFile id => site.getFile (network.through site.proxies) state id
    | .resolve file => (site.resolver.resolution file, state)
    | .stat source =>
      Storage.Remote.stat (network.through site.proxies) state (site.storeOf source)
        source.location.bucket source.key
    | .get source =>
      Storage.Remote.get (network.through site.proxies) state (site.storeOf source)
        source.location.bucket source.key
    | .saveEvent event => site.saveEvent (network.through site.proxies) state event
    | .now => (site.time, state)
    | .newUuid => (site.uuid, state)
    | .pause _ => ((), state)
    | .log _ => ((), state)

end Site

end Fixity
