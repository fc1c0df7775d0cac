import ModuleLint.Text.Quoted

/-!
# Identities of runs

Each run has a random identity of 128 bits, six of which tell that it is random. It is written in
hexadecimal, in five groups.
-/

set_option autoImplicit false

namespace ModuleLint

/-- The identity made of two random words. -/
def runIdOfWords (high low : UInt64) : String :=
  let high := (high &&& 0xFFFFFFFFFFFF0FFF) ||| 0x4000
  let low := (low &&& 0x3FFFFFFFFFFFFFFF) ||| 0x8000000000000000
  let hs := Text.hexPadded 16 high.toNat
  let ls := Text.hexPadded 16 low.toNat
  "-".intercalate
    ([hs.take 8, (hs.drop 8).take 4, hs.drop 12, ls.take 4, ls.drop 4].map String.ofList)

end ModuleLint
