import WorldEngine.Except
import WorldEngine.Storage.Archetype
import WorldEngine.Storage.Location
import WorldEngine.Storage.Index
import WorldEngine.Query.Cache
import WorldEngine.Query.Iterate
import WorldEngine.Query.Semantics
import WorldEngine.Query.Filter
import WorldEngine.Query.Cql
import WorldEngine.World.Lifecycle
import WorldEngine.Shard.Iterator
