import Tablewright.Provision.Run
import Tablewright.Store.Memory

/-! Previews: what a first run would do, seen on an empty store.
-/

namespace Tablewright.Provision

/-- The store of a preview: nothing but the configured publisher.
-/
def previewStore (settings : Settings) : Store.Memory :=
  ({} : Store.Memory).withPublisher settings.publisher.namePrefix "dry-run"

/-- The report of a run on the store of a preview. No time passes between the attempts to see a
table.
-/
def preview (compiled : CompiledSchema) (settings : Settings)
    : Except PreconditionError Report :=
  let provision := { settings.provision with visibilityIntervalMilliseconds := 0 }
  ((run compiled { settings with provision }).run Store.Memory.respond
    (previewStore settings)).1

end Tablewright.Provision
