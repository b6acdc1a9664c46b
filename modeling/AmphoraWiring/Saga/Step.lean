import AmphoraWiring.Deployment
import AmphoraWiring.Flow.Retry

/-!
The service works in sagas. A saga is a sequence of steps; when one fails, those before it are
reverted in the opposite order, each from what it gave back. A step that fails is not reverted,
and reverting does not fail.
-/
namespace AmphoraWiring

structure Step (ο : Type) where
  name : String
  execute : Work ο
  revert : ο → Effect Deployment Unit := fun _ => pure ()

end AmphoraWiring
