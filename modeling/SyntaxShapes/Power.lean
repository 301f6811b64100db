/-!
# `SyntaxShapes.Power` — what `^` means

Throughout, a power of a natural number or of an integer is the one that the language comes with. A module
that uses a library of algebra sees a second one, which is equal to it but written differently, and which
that library prefers. Here the first is preferred again, so that the same text is the same term everywhere.
-/

attribute [instance (high), default_instance 20000] instPowNat
