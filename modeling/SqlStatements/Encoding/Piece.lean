/-
  SqlStatements.Encoding.Piece
  ────────────────────────────
  **Decoding bytes piece by piece.**

  Every decoder here says what stands at the start of some bytes: a character of a
  certain width, or a run of bytes of a certain width that denotes none and the reason
  why.  `pieces` repeats it until the bytes are used up.  The strict reading stops at
  the first bad run; the lenient one shows each bad run by the replacement character.
-/

namespace SqlStatements.Encoding

/-! ## §1. Pieces. -/

/-- Why a run of bytes denotes no character. -/
inductive Reason where
  | invalidStart
  | invalidContinuation
  | endOfData
  | truncated
  | illegalEncoding
  | illegalSurrogate
  | surrogateRange
  | beyondRange
  | notAscii
  | undefined
  deriving Repr, DecidableEq

/-- The wording of a reason. -/
def Reason.message : Reason → String
  | .invalidStart => "invalid start byte"
  | .invalidContinuation => "invalid continuation byte"
  | .endOfData => "unexpected end of data"
  | .truncated => "truncated data"
  | .illegalEncoding => "illegal encoding"
  | .illegalSurrogate => "illegal UTF-16 surrogate"
  | .surrogateRange => "code point in surrogate code point range(0xd800, 0xe000)"
  | .beyondRange => "code point not in range(0x110000)"
  | .notAscii => "ordinal not in range(128)"
  | .undefined => "character maps to <undefined>"

/-- What stands at the start of some bytes. -/
inductive Piece where
  | char (c : Char) (width : Nat)
  | bad (reason : Reason) (width : Nat)
  deriving Repr, DecidableEq

/-- The number of bytes of a piece. -/
def Piece.width : Piece → Nat
  | .char _ width => width
  | .bad _ width => width

/-- A decoder: what stands at the start of the bytes `first :: rest`. -/
abbrev Decoder := (first : UInt8) → (rest : List UInt8) → Piece

/-- The pieces of some bytes, of which the first `skip` belong to a piece that has
already been taken. -/
def piecesFrom (next : Decoder) : (skip : Nat) → List UInt8 → List Piece
  | _, [] => []
  | skip + 1, _ :: rest => piecesFrom next skip rest
  | 0, first :: rest =>
      let piece := next first rest
      piece :: piecesFrom next (piece.width - 1) rest

/-- The pieces of some bytes. -/
def pieces (next : Decoder) (bytes : List UInt8) : List Piece :=
  piecesFrom next 0 bytes

/-! ## §2. The strict and the lenient reading. -/

/-- A bad run: its first position, the position after its last byte, and the reason. -/
structure BadRun where
  start : Nat
  stop : Nat
  reason : Reason
  deriving Repr, DecidableEq

/-- The characters of pieces that begin at `position`, or the first bad run. -/
def strict (position : Nat) : List Piece → Except BadRun (List Char)
  | [] => .ok []
  | .char c width :: rest => (strict (position + width) rest).map (c :: ·)
  | .bad reason width :: _ => .error ⟨position, position + width, reason⟩

/-- The characters of pieces, with the replacement character for every bad run. -/
def lenient (ps : List Piece) : List Char :=
  ps.map fun
    | .char c _ => c
    | .bad _ _ => '\uFFFD'

end SqlStatements.Encoding
