import CommitSeal.Cipher.Aes

/-!
# Cipher block chaining and cipher feedback

Two ways to encrypt octets that are longer than a block. Chaining takes whole blocks and adds the
ciphertext block before each plaintext block; feedback adds the encrypted ciphertext block before,
and so needs no whole blocks. Both start from an initial block.
-/

namespace CommitSeal.Cipher

/-! ## Chaining -/

/-- Encrypts blocks with chaining; `before` is the ciphertext block before the first. -/
def chainEncrypt (keys : List Block) (before : Block) : List Block → List Block
  | [] => []
  | plain :: rest =>
    let cipher := Aes.encrypt keys (plain.xor before)
    cipher :: chainEncrypt keys cipher rest

/-- Decrypts blocks with chaining; `before` is the ciphertext block before the first. -/
def chainDecrypt (keys : List Block) (before : Block) : List Block → List Block
  | [] => []
  | cipher :: rest => (Aes.decrypt keys cipher).xor before :: chainDecrypt keys cipher rest

/-- Encrypts a whole number of blocks under a key and an initial block. -/
def cbcEncrypt (key initial plain : Octets) : Octets :=
  Block.join (chainEncrypt (Aes.roundKeys key) (Block.ofOctets initial) (Block.split plain).1)

/-- Decrypts a whole number of blocks under a key and an initial block. -/
def cbcDecrypt (key initial cipher : Octets) : Octets :=
  Block.join (chainDecrypt (Aes.roundKeys key) (Block.ofOctets initial) (Block.split cipher).1)

/-! ## Feedback -/

/-- Decrypts octets with feedback: full blocks, then the octets left over. -/
def feedbackDecrypt (keys : List Block) (before : Block) : List Block → (left : Octets) → Octets
  | [], left => Octets.xor left (Aes.encrypt keys before).octets
  | cipher :: rest, left =>
    (cipher.xor (Aes.encrypt keys before)).octets ++ feedbackDecrypt keys cipher rest left

/-- Decrypts any number of octets under a key and an initial block. -/
def cfbDecrypt (key initial cipher : Octets) : Octets :=
  let (blocks, left) := Block.split cipher
  feedbackDecrypt (Aes.roundKeys key) (Block.ofOctets initial) blocks left

end CommitSeal.Cipher
