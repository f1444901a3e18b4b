/-
  Microcore/Pipeline/Skip.lean
  ============================
  **Control hazards.**  The pipeline fetches an instruction every cycle without knowing whether the
  one ahead redirects the program counter.  Instructions on the wrong path are turned into bubbles:
  the stage that holds one does not commit.

  * A jump resolved in the decode stage leaves one wrong instruction behind it (`decodeNext`).
  * A register jump learns its target in the execute stage, when two wrong instructions are in
    flight; they are walked out through `bothNext` and `executeNext`.

  The program counter itself is never held back.
-/

namespace Microcore

/-- Which stages do not commit in this cycle. -/
inductive Skip where
  | none
  | bothNext
  | executeNext
  | decodeNext
deriving DecidableEq, Repr

namespace Skip

def suppressesDecode : Skip → Bool
  | decodeNext | bothNext => true
  | none | executeNext => false

def suppressesExecute : Skip → Bool
  | bothNext | executeNext => true
  | none | decodeNext => false

/-- The state of the next cycle.  Both signals count only if the stage that raised them commits; a
    register jump wins over a jump taken in the same cycle. -/
def next (skip : Skip) (registerJump jumpTaken : Bool) : Skip :=
  if skip = bothNext then executeNext
  else if registerJump then bothNext
  else if jumpTaken then decodeNext
  else none

def bits : Skip → Nat
  | none => 0
  | bothNext => 1
  | executeNext => 2
  | decodeNext => 3

def name : Skip → String
  | none => "NO_SKIP"
  | bothNext => "SKIP_BOTH_NEXT"
  | executeNext => "SKIP_STAGE3_ONLY"
  | decodeNext => "SKIP_STAGE2_ONLY"

end Skip

end Microcore
