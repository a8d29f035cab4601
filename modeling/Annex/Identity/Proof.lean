import Annex.Environment
import Annex.Foundation.JsonText
import Annex.Identity.Registry

namespace Annex.Identity

/-! Groth16 proofs of membership, as `snarkjs` writes them. The curve and the
verification equation belong to their packages. -/

inductive ZkError where
  | jsonError (text : String)
  | fieldElementError
  | pointError
  | snarkError (text : String)
deriving DecidableEq, Repr

def ZkError.text : ZkError → String
  | .jsonError text => "json parse error: " ++ text
  | .fieldElementError => "field element parse error"
  | .pointError => "point parse error"
  | .snarkError text => "snark error: " ++ text

/-- The JSON of a proof. -/
structure SnarkJsProof where
  piA : List String
  piB : List (List String)
  piC : List String
deriving DecidableEq, Repr

/-- The points of a proof by their coordinates; a coordinate of the second group
is a pair. -/
structure Proof (Fq : Type) where
  a : Fq × Fq
  b : (Fq × Fq) × (Fq × Fq)
  c : Fq × Fq
deriving DecidableEq, Repr

/-- The BN254 curve and the Groth16 verifier. A point counts as valid when it
lies on the curve and in the subgroup of prime order. -/
structure Curve (Fq Key : Type) where
  parseFq : String → Option Fq
  parseFr : String → Option Fr
  validG1 : Fq × Fq → Bool
  validG2 : (Fq × Fq) × (Fq × Fq) → Bool
  verify : Key → List Fr → Proof Fq → Except String Bool

section Parse

variable {Fq Key : Type} (curve : Curve Fq Key)

def parseFq (text : String) : Except ZkError Fq :=
  match curve.parseFq text with
  | some value => .ok value
  | none => .error .fieldElementError

def parseFr (text : String) : Except ZkError Fr :=
  match curve.parseFr text with
  | some value => .ok value
  | none => .error .fieldElementError

def parseFrFromHex (hex : String) : Except ZkError Fr :=
  match Hex.decode hex with
  | some bytes => .ok (frFromBeBytesModOrder bytes)
  | none => .error .fieldElementError

def parseG1 : List String → Except ZkError (Fq × Fq)
  | xText :: yText :: _ => do
      let x ← parseFq curve xText
      let y ← parseFq curve yText
      if curve.validG1 (x, y) then .ok (x, y) else .error .pointError
  | _ => .error .pointError

def parseG2 : List (List String) → Except ZkError ((Fq × Fq) × (Fq × Fq))
  | (xText0 :: xText1 :: _) :: (yText0 :: yText1 :: _) :: _ => do
      let x0 ← parseFq curve xText0
      let x1 ← parseFq curve xText1
      let y0 ← parseFq curve yText0
      let y1 ← parseFq curve yText1
      if curve.validG2 ((x0, x1), (y0, y1)) then .ok ((x0, x1), (y0, y1))
      else .error .pointError
  | _ => .error .pointError

/-- `parse_proof` of a JSON value. -/
def parseProof (environment : Environment) (proof : JsonText SnarkJsProof) :
    Except ZkError (Proof Fq) := do
  let raw ← (proof.parse environment.jsonErrorText).mapError .jsonError
  let a ← parseG1 curve raw.piA
  let b ← parseG2 curve raw.piB
  let c ← parseG1 curve raw.piC
  .ok ⟨a, b, c⟩

/-- `parse_public_signals` of an array of texts. -/
def parsePublicSignals (signals : List String) : Except ZkError (List Fr) :=
  signals.mapM (parseFr curve)

def verifyProof (key : Key) (proof : Proof Fq) (publicInputs : List Fr) :
    Except ZkError Bool :=
  match curve.verify key publicInputs proof with
  | .ok valid => .ok valid
  | .error text => .error (.snarkError text)

end Parse

end Annex.Identity
