/-!
# `errcode`

The errors of the `pkg/errcode` package that the modelled handlers, services and
middleware return. The package itself is not among the sources, so its numeric codes and
messages are left out: the model only tells the errors apart.
-/

namespace NexoIm

/-- `errcode.ErrForbidden`, `errcode.ErrUnauthorized`, … -/
inductive ErrCode
  | errForbidden
  | errUnauthorized
  | errTokenMissing
  | errTokenInvalid
  | errInvalidParam
  | errInternalServer
  | errConvNotFound
  deriving DecidableEq, Repr

end NexoIm
