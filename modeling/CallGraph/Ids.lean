/-!
# Ids

The numbers by which a snapshot refers to its methods and nodes.
-/

namespace CallGraph

structure MethodId where
  val : UInt32
  deriving DecidableEq, Hashable, Repr, Inhabited

structure NodeId where
  val : UInt32
  deriving DecidableEq, Hashable, Repr, Inhabited

end CallGraph
