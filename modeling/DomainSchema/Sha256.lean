namespace DomainSchema.Sha256

-- SHA-256 over bytes: the message is padded to blocks of sixteen words, and each block changes the eight words
-- of the state in 64 rounds.

def initialState : List UInt32 :=
  [0x6a09e667,0xbb67ae85,0x3c6ef372,0xa54ff53a,0x510e527f,0x9b05688c,0x1f83d9ab,0x5be0cd19]

def roundConstants : List UInt32 :=
  [0x428a2f98,0x71374491,0xb5c0fbcf,0xe9b5dba5,0x3956c25b,0x59f111f1,0x923f82a4,0xab1c5ed5,
   0xd807aa98,0x12835b01,0x243185be,0x550c7dc3,0x72be5d74,0x80deb1fe,0x9bdc06a7,0xc19bf174,
   0xe49b69c1,0xefbe4786,0x0fc19dc6,0x240ca1cc,0x2de92c6f,0x4a7484aa,0x5cb0a9dc,0x76f988da,
   0x983e5152,0xa831c66d,0xb00327c8,0xbf597fc7,0xc6e00bf3,0xd5a79147,0x06ca6351,0x14292967,
   0x27b70a85,0x2e1b2138,0x4d2c6dfc,0x53380d13,0x650a7354,0x766a0abb,0x81c2c92e,0x92722c85,
   0xa2bfe8a1,0xa81a664b,0xc24b8b70,0xc76c51a3,0xd192e819,0xd6990624,0xf40e3585,0x106aa070,
   0x19a4c116,0x1e376c08,0x2748774c,0x34b0bcb5,0x391c0cb3,0x4ed8aa4a,0x5b9cca4f,0x682e6ff3,
   0x748f82ee,0x78a5636f,0x84c87814,0x8cc70208,0x90befffa,0xa4506ceb,0xbef9a3f7,0xc67178f2]

def rotr (x : UInt32) (n : UInt32) : UInt32 := (x >>> n) ||| (x <<< (32 - n))

def smallSigma0 (x : UInt32) : UInt32 := rotr x 7 ^^^ rotr x 18 ^^^ (x >>> 3)
def smallSigma1 (x : UInt32) : UInt32 := rotr x 17 ^^^ rotr x 19 ^^^ (x >>> 10)
def bigSigma0 (x : UInt32) : UInt32 := rotr x 2 ^^^ rotr x 13 ^^^ rotr x 22
def bigSigma1 (x : UInt32) : UInt32 := rotr x 6 ^^^ rotr x 11 ^^^ rotr x 25
def choose (x y z : UInt32) : UInt32 := (x &&& y) ^^^ (~~~x &&& z)
def majority (x y z : UInt32) : UInt32 := (x &&& y) ^^^ (x &&& z) ^^^ (y &&& z)

def natBytes (count n : Nat) : List UInt8 := (List.range count).reverse.map fun i => UInt8.ofNat (n >>> (8 * i))

def pad (message : List UInt8) : List UInt8 :=
  let zeros := (119 - message.length % 64) % 64
  message ++ 0x80 :: List.replicate zeros 0 ++ natBytes 8 (8 * message.length)

def words : List UInt8 → List UInt32
  | a :: b :: c :: d :: rest =>
    ((a.toUInt32 <<< 24) ||| (b.toUInt32 <<< 16) ||| (c.toUInt32 <<< 8) ||| d.toUInt32) :: words rest
  | _ => []

-- Adds words to a schedule. It is kept with the latest word first, so the recurrence reads at fixed places.
def extend : Nat → List UInt32 → List UInt32
  | 0, latest => latest
  | n + 1, latest =>
    extend n ((smallSigma1 (latest.getD 1 0) + latest.getD 6 0 + smallSigma0 (latest.getD 14 0) + latest.getD 15 0)
      :: latest)

def schedule (block : List UInt32) : List UInt32 := (extend 48 block.reverse).reverse

structure State where
  a : UInt32
  b : UInt32
  c : UInt32
  d : UInt32
  e : UInt32
  f : UInt32
  g : UInt32
  h : UInt32

def round (s : State) (constant word : UInt32) : State :=
  let t₁ := s.h + bigSigma1 s.e + choose s.e s.f s.g + constant + word
  let t₂ := bigSigma0 s.a + majority s.a s.b s.c
  ⟨t₁ + t₂,s.a,s.b,s.c,s.d + t₁,s.e,s.f,s.g⟩

def State.ofWords : List UInt32 → State
  | [a,b,c,d,e,f,g,h] => ⟨a,b,c,d,e,f,g,h⟩
  | _ => ⟨0,0,0,0,0,0,0,0⟩

def State.words (s : State) : List UInt32 := [s.a,s.b,s.c,s.d,s.e,s.f,s.g,s.h]

def compress (state block : List UInt32) : List UInt32 :=
  let rounds := roundConstants.zip (schedule block)
  let last := rounds.foldl (fun s (constant,word) => round s constant word) (.ofWords state)
  List.zipWith (· + ·) state last.words

def digestWords : Nat → List UInt32 → List UInt32 → List UInt32
  | 0, state, _ => state
  | blocks + 1, state, words => digestWords blocks (compress state (words.take 16)) (words.drop 16)

def hexDigest (message : List UInt8) : String :=
  let ws := words (pad message)
  let digest := digestWords (ws.length / 16) initialState ws
  String.ofList (digest.flatMap fun w => (List.range 8).reverse.map fun i => Nat.digitChar ((w.toNat >>> (4 * i)) % 16))

end DomainSchema.Sha256
