import BearerAuth.Crypto.Sha2

/-!
# HMAC

A keyed digest: two hashes, each over the key padded to one block and mixed with a constant.
-/
namespace BearerAuth.Crypto

/-- The key as one block: hashed if it is longer, then filled up with zeros. -/
def hmacKey (hash : Hash) (key : Bytes) : Bytes :=
  let key := if hash.blockBytes < key.length then hash.digest key else key
  key ++ List.replicate (hash.blockBytes - key.length) 0

def hmac (hash : Hash) (key message : Bytes) : Bytes :=
  let block := hmacKey hash key
  let inner := hash.digest (block.map (· ^^^ 0x36) ++ message)
  hash.digest (block.map (· ^^^ 0x5c) ++ inner)

end BearerAuth.Crypto
