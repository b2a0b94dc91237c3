/-
# Log records

What the library tells about its work while it does it.  A record has a level, the part of the
library that wrote it, and a text.
-/

namespace SearchIndex.Log

/-- How important a record is. -/
inductive Level where
  | debug
  | info
  | warning
  | error
deriving DecidableEq

namespace Level

/-- The name of a level. -/
def name : Level → String
  | debug => "debug"
  | info => "info"
  | warning => "warning"
  | error => "error"

/-- The order of the levels. -/
def rank : Level → Nat
  | debug => 10
  | info => 20
  | warning => 30
  | error => 40

end Level

/-- The part of the library that writes a record. -/
inductive Source where
  | client
  | access
  | creation
  | dropping
  | merging
  | validation
  | strategy
  | mapping
  | processor
  | manager
  | services
  | command
deriving DecidableEq

/-- The name under which a part writes. -/
def Source.name : Source → String
  | client => "indexsync.client.client"
  | access => "indexsync.schema.accessor"
  | creation => "indexsync.schema.creator"
  | dropping => "indexsync.schema.dropper"
  | merging => "indexsync.schema.migrator"
  | validation => "indexsync.schema.validator"
  | strategy => "indexsync.schema.strategy"
  | mapping => "indexsync.schema.translator"
  | processor => "indexsync.backend.processor"
  | manager => "indexsync.core.index_manager"
  | services => "indexsync.core.services"
  | command => "indexsync.cli"

/-- One record. -/
structure Entry where
  /-- How important it is. -/
  level : Level
  /-- Which part wrote it. -/
  source : Source
  /-- What it says. -/
  text : String
deriving DecidableEq

end SearchIndex.Log
