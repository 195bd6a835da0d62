/-!
# Which operations are meant

A power of whole numbers, the order of texts and the equality of bytes are the ones these
types come with, also beside a library that has its own for every monoid or every linear
order. So a definition means the same wherever it is read.
-/

attribute [instance (2000)] instPowNat instNatPowNat Int.instNatPow
attribute [default_instance 20000] instPowNat
attribute [instance (2000)] List.instLT List.instLE
attribute [instance (2000)] ByteArray.instDecidableEq
