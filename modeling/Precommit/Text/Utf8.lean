/-!
# UTF-8

Bytes are read one at a time. Between characters the decoder is `ready`; inside a
character it is `expecting` more continuation bytes, the next one within stated
bounds, which is what rules out overlong forms, surrogates and code points past
U+10FFFF. A byte that does not fit ends the character so far as one fault and is
then read afresh, so each fault covers a maximal valid beginning of a sequence.
-/

namespace Precommit

/-- The content of a file. -/
abbrev Bytes := List UInt8

namespace Utf8

/-- Where the decoder stands between two bytes. -/
inductive State
  /-- Between characters. -/
  | ready
  /-- `count` continuation bytes are due, the next within the bounds; `bits` were read. -/
  | expecting (count : Nat) (lowest highest : UInt8) (bits : Nat)
deriving DecidableEq, Repr

/-- What reading a first byte gives: a character, a fault (`none`) or the start of a sequence. -/
def start (byte : UInt8) : List (Option Char) × State :=
  let code := byte.toNat
  if byte < 0x80 then ([some (Char.ofNat code)], .ready)
  else if byte < 0xC2 then ([none], .ready)
  else if byte < 0xE0 then ([], .expecting 1 0x80 0xBF (code - 0xC0))
  else if byte = 0xE0 then ([], .expecting 2 0xA0 0xBF (code - 0xE0))
  else if byte = 0xED then ([], .expecting 2 0x80 0x9F (code - 0xE0))
  else if byte < 0xF0 then ([], .expecting 2 0x80 0xBF (code - 0xE0))
  else if byte = 0xF0 then ([], .expecting 3 0x90 0xBF (code - 0xF0))
  else if byte < 0xF4 then ([], .expecting 3 0x80 0xBF (code - 0xF0))
  else if byte = 0xF4 then ([], .expecting 3 0x80 0x8F (code - 0xF0))
  else ([none], .ready)

/-- What reading a byte gives in any state. -/
def step (state : State) (byte : UInt8) : List (Option Char) × State :=
  match state with
  | .ready => start byte
  | .expecting count lowest highest bits =>
      if lowest ≤ byte && byte ≤ highest then
        let bits := bits * 0x40 + (byte.toNat - 0x80)
        if count ≤ 1 then ([some (Char.ofNat bits)], .ready)
        else ([], .expecting (count - 1) 0x80 0xBF bits)
      else
        let (read, state) := start byte
        (none :: read, state)

/-- The characters and faults of a byte sequence, read from a state. -/
def scanFrom (state : State) : Bytes → List (Option Char)
  | [] =>
      match state with
      | .ready => []
      | .expecting .. => [none]
  | byte :: rest => (step state byte).1 ++ scanFrom (step state byte).2 rest

/-- The characters and faults of a byte sequence. -/
def scan (bytes : Bytes) : List (Option Char) :=
  scanFrom .ready bytes

/-- Decode, with one replacement character U+FFFD for each fault. -/
def decodeLossy (bytes : Bytes) : List Char :=
  (scan bytes).map (·.getD '\ufffd')

/-- Decode a sequence without faults. -/
def decode? (bytes : Bytes) : Option (List Char) :=
  (scan bytes).mapM id

def encode (text : List Char) : Bytes :=
  text.flatMap String.utf8EncodeChar

end Utf8

end Precommit
