/-!
# Powers

On natural numbers and integers `a ^ n` is one and the same operation in every module,
whatever else defines a power there.
-/

attribute [instance (2000), default_instance 20000] instPowNat
