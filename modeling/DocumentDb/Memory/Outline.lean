import DocumentDb.Memory.Store
import DocumentDb.Text.Quoted

/-!
# Outlines of stores

Short texts for diagnostics. The outline of a store hides what it holds; the one of a monitor names
its collection and says whether it runs.
-/

namespace DocumentDb.Memory

/-- The outline of a store. -/
def Store.outline (_ : Store) : String :=
  "InMemoryStore \x7b .. \x7d"

/-- The outline of the monitor of a collection. -/
def Monitor.outline (name : String) (m : Monitor) : String :=
  "InMemoryMonitor \x7b collection: " ++ Text.plainQuoted name ++ ", running: "
    ++ (if m.running then "true" else "false") ++ " \x7d"

end DocumentDb.Memory
