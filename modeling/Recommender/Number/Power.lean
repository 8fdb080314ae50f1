/-!
Powers. A library imported beside these modules may bring a power of its own; the numbers here keep
the one of the core library, so that a definition says the same wherever it is read.
-/
namespace Recommender

@[default_instance 20000]
instance naturalPower : Pow Nat Nat := instPowNat

instance integerPower : Pow Int Nat := instPowNat

end Recommender
