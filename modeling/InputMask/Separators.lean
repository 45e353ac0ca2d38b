/-
The two characters that a mask leaves to the place where it is used: a mask written with the
date sign and the time sign shows whatever separators the caller supplies.
-/

namespace InputMask

structure Separators where
  date : Char := '/'
  time : Char := ':'
deriving DecidableEq

end InputMask
