/-
# Error numbers

The negative returns of the modelled functions, by name.
-/

import Mathlib

namespace EspNmeaBridge

inductive Errno where
  | eagain
  | ealready
  | ecanceled
  | efbig
  | eintr
  | einval
  | emsgsize
  | enametoolong
  | enoent
  | enomem
  | enomsg
  | enotconn
  | eoverflow
  | ewouldblock
  | other (code : Nat)
  deriving DecidableEq, Repr

end EspNmeaBridge
