namespace Fieldwork

/-!
# Kinds of failure

What went wrong, seen from outside: invalid input, authored configuration that
cannot be carried out, something that does not exist, a conflict with the
present state, a failed call to an external collaborator, or an unexpected
internal failure.  Only a call to a collaborator may succeed when it is tried
again unchanged.
-/

inductive FailureKind where
  | validation
  | configuration
  | notFound
  | conflict
  | collaborator
  | internal
  deriving DecidableEq, Repr, Inhabited

namespace FailureKind

/-- What a message of this kind begins with. -/
def heading :
    FailureKind →
    String
  | validation => "validation error: "
  | configuration => "configuration error: "
  | notFound => "not found: "
  | conflict => "conflict: "
  | collaborator => "upstream error: "
  | internal => "internal error: "

/-- Whether trying again unchanged may succeed. -/
def isRetryable :
    FailureKind →
    Bool
  | collaborator => true
  | _ => false

end FailureKind

end Fieldwork
