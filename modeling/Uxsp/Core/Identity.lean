import Uxsp.Crypto.Hybrid

/-!
# `uxsp.core.identity`

An identity and its public card, as far as handshakes look at them.
-/

namespace Uxsp

/-- The public projection of an identity. -/
structure PublicCard where
  entityId : Str
  publicKeys : PublicKeys
  deriving DecidableEq

/-- An entity with its generated keypair. -/
structure Identity (P : Platform) where
  entityId : Str
  keypair : HybridKeypair
  generated : keypair.Generated P

/-- `Identity.create` and `rotate_keys`: the keypair comes from the generators. -/
def Identity.generate (P : Platform) (entityId : Str) (exchange : Urandom 32) (kem : Urandom 64)
    (signing pqcSig : Urandom 32) : Identity P where
  entityId := entityId
  keypair := generateHybridKeypair P exchange kem signing pqcSig
  generated := ⟨exchange, kem, signing, pqcSig, rfl⟩

def Identity.publicCard {P : Platform} (i : Identity P) : PublicCard where
  entityId := i.entityId
  publicKeys := extractPublicKeys i.keypair

end Uxsp
