import CommandChain.Script.Machine

/-!
# Supplies

A script need not be there as a whole when its first commands run. A `Supply` says where the rest of
it comes from, which is read in blocks: what a script writes into its own file is run as well.
-/

namespace CommandChain

namespace Script

/-- Where the rest of a script comes from. -/
inductive Supply where
  /-- the text at hand is all -/
  | nothing
  | opened (stream : Endpoint)
  /-- whatever the descriptor leads to when more is needed -/
  | descriptor (number : Nat)
  deriving DecidableEq

namespace Supply

/-- The most bytes in a block. -/
def mostInBlock : Nat :=
  8192

/-- How many blocks are read at most. -/
def mostBlocks : Nat :=
  1000000

/-- The stream that blocks are read from. -/
def stream? : Supply → Run (Option Endpoint)
  | .nothing => return none
  | .opened stream => return some stream
  | .descriptor number => Run.endpointAt number

/-- Takes blocks until one is not empty after its zero bytes are dropped. -/
def nextBlock (stream : Endpoint) : Nat → Run Text
  | 0 => return []
  | fuel + 1 => do
      match ← Run.onFiles (Files.take stream mostInBlock) with
      | .error _ => return []
      | .ok [] => return []
      | .ok bytes =>
          match bytes.filter (· != 0) with
          | [] => nextBlock stream fuel
          | kept => return kept.map Symbol.ofByte

/-- Takes more of a script. At its end there is nothing. -/
def more (supply : Supply) : Run Text := do
  match ← supply.stream? with
  | some stream => nextBlock stream mostBlocks
  | none => return []

end Supply

end Script

end CommandChain
